import Mathlib
import PolyTrace.Proofs.Linear.Elimination

/-!
# Exact arithmetic that distrusts small pivots

An exact arithmetic may still refuse a matrix whose smallest pivot is small compared with the
largest.  The elimination and its solutions are then the same, and only `factorize` differs: it
refuses more.  With any nonnegative tolerance it refuses every singular matrix, and what it accepts
is the elimination of a matrix that sends only zero to zero.
-/

namespace PolyTrace

open Matrix

variable {K : Type} [ExactScalar K] {n : Nat}

/-- An exact arithmetic in which a pivot of at most the given share of the largest counts as
zero. -/
@[reducible]
def ExactScalar.tolerating (tolerance : K) : Scalar K :=
  { ExactScalar.instScalar with pivotTolerance := tolerance }

namespace Elimination

theorem ofMat_tolerating (tolerance : K) (A : Mat K n n) :
    @ofMat K (ExactScalar.tolerating tolerance) n A = ofMat A := by
  induction n with
  | zero => rfl
  | succ n inductionHypothesis =>
      exact congrArg
        (column (pivotIndex (A.map Vec.first)) (firstPivot A) (firstUpper A) (firstLower A))
        (inductionHypothesis (remaining A))

theorem solve_tolerating (tolerance : K) (factors : Elimination K n) (r : Vec K n) :
    @solve K (ExactScalar.tolerating tolerance) n factors r = factors.solve r := by
  induction factors with
  | done => rfl
  | column exchanged pivot upper lower rest inductionHypothesis =>
      let q : Vec K _ := Vec.swap r 0 exchanged
      exact congrArg (fun tail => Vec.prepend ((Vec.first q - upper.dot tail) / pivot) tail)
        (inductionHypothesis _)

theorem solveTranspose_tolerating (tolerance : K) (factors : Elimination K n) (r : Vec K n) :
    @solveTranspose K (ExactScalar.tolerating tolerance) n factors r =
      factors.solveTranspose r := by
  induction factors with
  | done => rfl
  | column exchanged pivot upper lower rest inductionHypothesis =>
      exact congrArg
        (fun tail => Vec.swap (Vec.prepend (Vec.first r / pivot - lower.dot tail) tail) 0 exchanged)
        (inductionHypothesis _)

/-- A matrix with nonzero determinant has no zero pivot, and conversely. -/
theorem zero_mem_pivots_iff (A : Mat K n n) : (0 : K) ∈ (ofMat A).pivots ↔ A.matrix.det = 0 := by
  rw [← Matrix.exists_mulVec_eq_zero_iff]
  constructor
  · intro zero
    exact exists_kernel zero
  · rintro ⟨z, nonzero, kernel⟩
    by_contra absent
    have rows : 0 < n := by
      by_contra empty
      obtain rfl := Nat.eq_zero_of_not_pos empty
      exact nonzero (funext fun i => i.elim0)
    have accepted : factorize A = .ok (ofMat A) :=
      (factorize_eq_ok_iff A _).mpr ⟨rows, fun pivot member zero => absent (zero ▸ member), rfl⟩
    exact nonzero (eq_zero_of_factorize accepted kernel)

end Elimination

open Elimination

/-- What becomes of a matrix with the given pivots. -/
theorem factorize_tolerating (tolerance : K) {A : Mat K n n} {a : K} {rest : List K}
    (listed : (ofMat A).pivots = a :: rest) :
    @factorize K (ExactScalar.tolerating tolerance) n A =
      if largestPivot a rest = 0 ∨ smallestPivot a rest ≤ tolerance * largestPivot a rest then
        .error (.singular (smallestPivot a rest) (largestPivot a rest))
      else .ok (ofMat A) := by
  have finite : @Mat.allFinite K (ExactScalar.tolerating tolerance) n n A = true :=
    Mat.allFinite_eq_true A
  have singular : @Singular K (ExactScalar.tolerating tolerance) (smallestPivot a rest)
      (largestPivot a rest) ↔
        largestPivot a rest = 0 ∨ smallestPivot a rest ≤ tolerance * largestPivot a rest :=
    or_congr Scalar.same_iff Iff.rfl
  unfold factorize
  simp only [ofMat_tolerating, listed]
  rw [if_pos finite]
  exact if_congr singular rfl rfl

theorem exists_pivots_eq_cons (A : Mat K n n) (rows : 0 < n) :
    ∃ a rest, (ofMat A).pivots = a :: rest := by
  have length := length_pivots (ofMat A)
  cases listed : (ofMat A).pivots with
  | nil =>
      rw [listed] at length
      exact absurd length rows.ne
  | cons a rest => exact ⟨a, rest, rfl⟩

/-- A pivot of zero is too small for every nonnegative tolerance. -/
theorem tooSmall_of_zero_mem {tolerance : K} (tolerance_nonneg : 0 ≤ tolerance) {a : K}
    {rest : List K} (zero : (0 : K) ∈ a :: rest) :
    largestPivot a rest = 0 ∨ smallestPivot a rest ≤ tolerance * largestPivot a rest := by
  rcases (singular_iff_zero_mem a rest).mpr zero with largestZero | smallestZero
  · exact Or.inl (Scalar.same_iff.mp largestZero)
  · right
    have largest_nonneg : 0 ≤ largestPivot a rest := by
      have bound : Scalar.abs a ≤ largestPivot a rest := (Scalar.le_foldl_larger _ _).1
      rw [Scalar.abs_eq] at bound
      exact (abs_nonneg a).trans bound
    rw [Scalar.pivotTolerance_eq, zero_mul] at smallestZero
    exact smallestZero.trans (mul_nonneg tolerance_nonneg largest_nonneg)

/-- With any nonnegative tolerance a singular matrix is refused. -/
theorem factorize_tolerating_of_det_eq_zero {tolerance : K} (tolerance_nonneg : 0 ≤ tolerance)
    {A : Mat K n n} (rows : 0 < n) (singular : A.matrix.det = 0) :
    ∃ smallest largest,
      @factorize K (ExactScalar.tolerating tolerance) n A = .error (.singular smallest largest) := by
  rcases exists_pivots_eq_cons A rows with ⟨a, rest, listed⟩
  have zero := (zero_mem_pivots_iff A).mpr singular
  rw [listed] at zero
  rw [factorize_tolerating tolerance listed, if_pos (tooSmall_of_zero_mem tolerance_nonneg zero)]
  exact ⟨_, _, rfl⟩

/-- What is accepted with a nonnegative tolerance is accepted without one. -/
theorem factorize_of_tolerating {tolerance : K} (tolerance_nonneg : 0 ≤ tolerance)
    {A : Mat K n n} (rows : 0 < n) {factors : Elimination K n}
    (accepted : @factorize K (ExactScalar.tolerating tolerance) n A = .ok factors) :
    factorize A = .ok factors := by
  rcases exists_pivots_eq_cons A rows with ⟨a, rest, listed⟩
  rw [factorize_tolerating tolerance listed] at accepted
  rw [factorize_eq_ok_iff]
  split at accepted
  · cases accepted
  · rename_i large
    cases accepted
    refine ⟨rows, fun pivot member zero => large ?_, rfl⟩
    rw [listed, zero] at member
    exact tooSmall_of_zero_mem tolerance_nonneg member

end PolyTrace
