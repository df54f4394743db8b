import Mathlib
import PolyTrace.Linear.Factorize
import PolyTrace.Proofs.Linear.Matrix

/-!
# Elimination solves the systems that have one solution

Over an exact arithmetic an elimination without a zero pivot solves its system and the transposed
system, and a zero pivot shows a nonzero vector that the matrix sends to zero.  So `factorize`
accepts exactly the matrices whose columns are independent.

All three facts go by induction along the columns.  One step exchanges two rows, and then splits
the matrix into its first row, its first column and the rest; the rest, less the multiples of the
first row, is what remains to be eliminated.
-/

namespace PolyTrace

open Matrix

namespace Vec

variable {K : Type} {n : Nat}

@[simp]
theorem get_others (u : Vec K (n + 1)) (i : Fin n) : u.others.get i = u.get i.succ :=
  get_ofFn _ i

@[simp]
theorem get_prepend_zero (a : K) (u : Vec K n) : (prepend a u).get 0 = a :=
  get_ofFn _ 0

@[simp]
theorem get_prepend_succ (a : K) (u : Vec K n) (i : Fin n) :
    (prepend a u).get i.succ = u.get i :=
  get_ofFn _ i.succ

end Vec

namespace Elimination

section Step

variable {K : Type} [Scalar K] {n : Nat}

/-- The rows of a matrix after the exchange that precedes the elimination of its first column. -/
def exchangedRows (A : Mat K (n + 1) (n + 1)) : Mat K (n + 1) (n + 1) :=
  Vec.swap A ⟨0, n.succ_pos⟩ (pivotIndex (A.map Vec.first))

/-- The pivot of the first column. -/
def firstPivot (A : Mat K (n + 1) (n + 1)) : K :=
  (Vec.first (exchangedRows A)).first

/-- The rest of the pivot row. -/
def firstUpper (A : Mat K (n + 1) (n + 1)) : Vec K n :=
  (Vec.first (exchangedRows A)).others

/-- The multipliers of the rows below the pivot row. -/
def firstLower (A : Mat K (n + 1) (n + 1)) : Vec K n :=
  (Vec.others (exchangedRows A)).map fun row => multiplier (firstPivot A) row.first

/-- What remains to be eliminated after the first column. -/
def remaining (A : Mat K (n + 1) (n + 1)) : Mat K n n :=
  (Vec.others (exchangedRows A)).zipWith
    (fun row l => row.others.sub ((firstUpper A).scale l)) (firstLower A)

theorem exchangedRows_eq (A : Mat K (n + 1) (n + 1)) :
    exchangedRows A = Vec.swap A 0 (pivotIndex (A.map Vec.first)) :=
  rfl

theorem firstPivot_eq (A : Mat K (n + 1) (n + 1)) :
    firstPivot A = ((exchangedRows A).get 0).get 0 :=
  rfl

theorem get_firstUpper (A : Mat K (n + 1) (n + 1)) (j : Fin n) :
    (firstUpper A).get j = ((exchangedRows A).get 0).get j.succ :=
  Vec.get_others _ j

theorem get_remaining (A : Mat K (n + 1) (n + 1)) (i j : Fin n) :
    ((remaining A).get i).get j =
      ((exchangedRows A).get i.succ).get j.succ -
        (firstLower A).get i * (firstUpper A).get j := by
  rw [remaining, Vec.get_zipWith, Vec.get_sub, Vec.get_scale, Vec.get_others, Vec.get_others]

theorem pivots_ofMat_succ (A : Mat K (n + 1) (n + 1)) :
    (ofMat A).pivots = firstPivot A :: (ofMat (remaining A)).pivots :=
  rfl

end Step

variable {K : Type} [ExactScalar K] {n : Nat}

/-- The pivot index is the index of an entry of largest absolute value. -/
theorem abs_le_abs_pivotIndex (u : Vec K (n + 1)) (i : Fin (n + 1)) :
    |u.get i| ≤ |u.get (pivotIndex u)| := by
  have scan : ∀ (indices : List (Fin (n + 1))) (best : Fin (n + 1)),
      let last := indices.foldl
        (fun best i => if Scalar.abs (u.get best) < Scalar.abs (u.get i) then i else best) best
      |u.get best| ≤ |u.get last| ∧ ∀ k ∈ indices, |u.get k| ≤ |u.get last| := by
    intro indices
    induction indices with
    | nil => intro best; exact ⟨le_refl _, fun k member => absurd member List.not_mem_nil⟩
    | cons first rest inductionHypothesis =>
        intro best
        simp only [List.foldl_cons, Scalar.abs_eq, List.forall_mem_cons]
        simp only [Scalar.abs_eq] at inductionHypothesis
        split
        · rename_i larger
          obtain ⟨reached, others⟩ := inductionHypothesis first
          exact ⟨larger.le.trans reached, reached, others⟩
        · rename_i notLarger
          obtain ⟨reached, others⟩ := inductionHypothesis best
          exact ⟨reached, (le_of_not_gt notLarger).trans reached, others⟩
  unfold pivotIndex
  rw [Fin.foldl_eq_finRange_foldl]
  exact (scan (List.finRange (n + 1)) 0).2 i (List.mem_finRange i)

/-- A zero pivot stands in a column of zeros. -/
theorem column_eq_zero_of_firstPivot_eq_zero {A : Mat K (n + 1) (n + 1)}
    (zero : firstPivot A = 0) (i : Fin (n + 1)) : (A.get i).get 0 = 0 := by
  have bound := abs_le_abs_pivotIndex (A.map Vec.first) i
  have pivot : (A.get (pivotIndex (A.map Vec.first))).get 0 = 0 := by
    rw [firstPivot_eq, exchangedRows_eq, Vec.get_swap, Equiv.swap_apply_left] at zero
    exact zero
  rw [Vec.get_map, Vec.get_map, Vec.first, Vec.first, pivot, abs_zero] at bound
  exact abs_eq_zero.mp (le_antisymm bound (abs_nonneg _))

/-- The multipliers remove the entries below the pivot. -/
theorem firstLower_mul_firstPivot {A : Mat K (n + 1) (n + 1)} (nonzero : firstPivot A ≠ 0)
    (i : Fin n) :
    (firstLower A).get i * firstPivot A = ((exchangedRows A).get i.succ).get 0 := by
  rw [firstLower, Vec.get_map, multiplier, if_neg (mt Scalar.same_iff.mp nonzero),
    div_mul_cancel₀ _ nonzero, Vec.get_others]
  rfl

/-- The product with a matrix before the exchange of rows, from the product after it. -/
theorem mulVec_exchangedRows (A : Mat K (n + 1) (n + 1)) (z : Fin (n + 1) → K)
    (k : Fin (n + 1)) :
    ((exchangedRows A).matrix *ᵥ z) k =
      (A.matrix *ᵥ z) (Equiv.swap 0 (pivotIndex (A.map Vec.first)) k) := by
  have row : (exchangedRows A).matrix k =
      A.matrix (Equiv.swap 0 (pivotIndex (A.map Vec.first)) k) := by
    funext j
    rw [Mat.matrix_apply, Mat.matrix_apply, exchangedRows_eq, Vec.get_swap]
  rw [Matrix.mulVec, Matrix.mulVec, row]

/-- A vector with first entry `head` and further entries `tail` under the exchanged rows: the pivot
row, and the rows below it in terms of what remains. -/
theorem mulVec_exchangedRows_zero (A : Mat K (n + 1) (n + 1)) (z : Fin (n + 1) → K) :
    ((exchangedRows A).matrix *ᵥ z) 0 =
      firstPivot A * z 0 + (firstUpper A).get ⬝ᵥ fun j => z j.succ := by
  rw [Matrix.mulVec, dotProduct, Fin.sum_univ_succ]
  simp only [dotProduct, get_firstUpper]
  rfl

theorem mulVec_exchangedRows_succ {A : Mat K (n + 1) (n + 1)} (nonzero : firstPivot A ≠ 0)
    (z : Fin (n + 1) → K) (i : Fin n) :
    ((exchangedRows A).matrix *ᵥ z) i.succ =
      (firstLower A).get i * ((exchangedRows A).matrix *ᵥ z) 0 +
        ((remaining A).matrix *ᵥ fun j => z j.succ) i := by
  have rest : ((remaining A).matrix *ᵥ fun j => z j.succ) i =
      ∑ j : Fin n, ((exchangedRows A).get i.succ).get j.succ * z j.succ -
        (firstLower A).get i * ((firstUpper A).get ⬝ᵥ fun j => z j.succ) := by
    simp only [Matrix.mulVec, dotProduct, Mat.matrix_apply, get_remaining, Finset.mul_sum,
      ← Finset.sum_sub_distrib]
    exact Finset.sum_congr rfl fun j _ => by ring
  rw [mulVec_exchangedRows_zero, rest, Matrix.mulVec, dotProduct, Fin.sum_univ_succ,
    Mat.matrix_apply, ← firstLower_mul_firstPivot nonzero]
  simp only [Mat.matrix_apply]
  ring

/-- The product from the left with a matrix before the exchange of rows. -/
theorem vecMul_exchangedRows (A : Mat K (n + 1) (n + 1)) (w : Vec K (n + 1)) :
    (Vec.swap w 0 (pivotIndex (A.map Vec.first))).get ᵥ* A.matrix =
      w.get ᵥ* (exchangedRows A).matrix := by
  funext j
  simp only [Matrix.vecMul, dotProduct, Mat.matrix_apply, exchangedRows_eq, Vec.get_swap]
  rw [← Equiv.sum_comp (Equiv.swap 0 (pivotIndex (A.map Vec.first)))]
  simp only [Equiv.swap_apply_self]

theorem vecMul_exchangedRows_zero {A : Mat K (n + 1) (n + 1)} (nonzero : firstPivot A ≠ 0)
    (head : K) (tail : Vec K n) :
    ((Vec.prepend head tail).get ᵥ* (exchangedRows A).matrix) 0 =
      (head + (firstLower A).get ⬝ᵥ tail.get) * firstPivot A := by
  simp only [Matrix.vecMul, dotProduct, Mat.matrix_apply, Fin.sum_univ_succ,
    Vec.get_prepend_zero, Vec.get_prepend_succ, ← firstLower_mul_firstPivot nonzero, add_mul,
    Finset.sum_mul]
  congr 1
  exact Finset.sum_congr rfl fun i _ => by ring

theorem vecMul_exchangedRows_succ (A : Mat K (n + 1) (n + 1)) (head : K) (tail : Vec K n)
    (j : Fin n) :
    ((Vec.prepend head tail).get ᵥ* (exchangedRows A).matrix) j.succ =
      (head + (firstLower A).get ⬝ᵥ tail.get) * (firstUpper A).get j +
        (tail.get ᵥ* (remaining A).matrix) j := by
  simp only [Matrix.vecMul, dotProduct, Mat.matrix_apply, Fin.sum_univ_succ,
    Vec.get_prepend_zero, Vec.get_prepend_succ, get_remaining, add_mul, Finset.sum_mul,
    add_assoc, ← Finset.sum_add_distrib, get_firstUpper]
  congr 1
  exact Finset.sum_congr rfl fun i _ => by ring

/-! ## Solutions -/

/-- An elimination without a zero pivot solves its system. -/
theorem mulVec_solve {A : Mat K n n} (nonzero : ∀ pivot ∈ (ofMat A).pivots, pivot ≠ 0)
    (r : Vec K n) : A.matrix *ᵥ ((ofMat A).solve r).get = r.get := by
  induction n with
  | zero => funext i; exact i.elim0
  | succ n inductionHypothesis =>
      rw [pivots_ofMat_succ, List.forall_mem_cons] at nonzero
      obtain ⟨pivotNonzero, restNonzero⟩ := nonzero
      set exchanged := pivotIndex (A.map Vec.first) with exchanged_eq
      set q : Vec K (n + 1) := Vec.swap r 0 exchanged with q_eq
      set tail := (ofMat (remaining A)).solve (q.others.sub ((firstLower A).scale q.first))
        with tail_eq
      have tailSolves := inductionHypothesis restNonzero
        (q.others.sub ((firstLower A).scale q.first))
      rw [← tail_eq] at tailSolves
      set z := ((ofMat A).solve r) with z_eq
      have z_form : z = Vec.prepend ((q.first - (firstUpper A).dot tail) / firstPivot A) tail :=
        rfl
      have z_zero : z.get 0 = (q.first - (firstUpper A).dot tail) / firstPivot A := by
        rw [z_form, Vec.get_prepend_zero]
      have z_succ : (fun j : Fin n => z.get j.succ) = tail.get := by
        funext j
        rw [z_form, Vec.get_prepend_succ]
      have top : ((exchangedRows A).matrix *ᵥ z.get) 0 = q.get 0 := by
        rw [mulVec_exchangedRows_zero, z_succ, z_zero, Vec.dot_eq,
          mul_div_cancel₀ _ pivotNonzero, sub_add_cancel]
        rfl
      have below (i : Fin n) : ((exchangedRows A).matrix *ᵥ z.get) i.succ = q.get i.succ := by
        rw [mulVec_exchangedRows_succ pivotNonzero, top, z_succ, tailSolves, Vec.get_sub,
          Vec.get_others, Vec.get_scale]
        simp only [Vec.first]
        ring
      funext k
      have solved : ((exchangedRows A).matrix *ᵥ z.get) (Equiv.swap 0 exchanged k) =
          q.get (Equiv.swap 0 exchanged k) := by
        refine Fin.cases ?_ ?_ (Equiv.swap 0 exchanged k)
        · exact top
        · exact below
      rw [mulVec_exchangedRows, ← exchanged_eq, Equiv.swap_apply_self, q_eq, Vec.get_swap,
        Equiv.swap_apply_self] at solved
      exact solved

/-- An elimination without a zero pivot solves the transposed system. -/
theorem vecMul_solveTranspose {A : Mat K n n}
    (nonzero : ∀ pivot ∈ (ofMat A).pivots, pivot ≠ 0) (r : Vec K n) :
    ((ofMat A).solveTranspose r).get ᵥ* A.matrix = r.get := by
  induction n with
  | zero => funext i; exact i.elim0
  | succ n inductionHypothesis =>
      rw [pivots_ofMat_succ, List.forall_mem_cons] at nonzero
      obtain ⟨pivotNonzero, restNonzero⟩ := nonzero
      set head := r.first / firstPivot A with head_eq
      set tail := (ofMat (remaining A)).solveTranspose
        (r.others.sub ((firstUpper A).scale head)) with tail_eq
      have tailSolves := inductionHypothesis restNonzero
        (r.others.sub ((firstUpper A).scale head))
      rw [← tail_eq] at tailSolves
      have form : (ofMat A).solveTranspose r =
          Vec.swap (Vec.prepend (head - (firstLower A).dot tail) tail) 0
            (pivotIndex (A.map Vec.first)) :=
        rfl
      rw [form, vecMul_exchangedRows]
      funext j
      refine Fin.cases ?_ ?_ j
      · rw [vecMul_exchangedRows_zero pivotNonzero, Vec.dot_eq, sub_add_cancel, head_eq,
          div_mul_cancel₀ _ pivotNonzero]
        rfl
      · intro j
        rw [vecMul_exchangedRows_succ, Vec.dot_eq, sub_add_cancel, tailSolves, Vec.get_sub,
          Vec.get_others, Vec.get_scale]
        ring

/-- A zero pivot shows a nonzero vector that the matrix sends to zero. -/
theorem exists_kernel {A : Mat K n n} (zero : (0 : K) ∈ (ofMat A).pivots) :
    ∃ z : Fin n → K, z ≠ 0 ∧ A.matrix *ᵥ z = 0 := by
  induction n with
  | zero => exact absurd zero List.not_mem_nil
  | succ n inductionHypothesis =>
      by_cases pivotZero : firstPivot A = 0
      · refine ⟨Pi.single 0 1, ?_, ?_⟩
        · intro equal
          have entry := congrFun equal 0
          rw [Pi.single_eq_same, Pi.zero_apply] at entry
          exact one_ne_zero entry
        · funext i
          rw [Matrix.mulVec_single_one, Matrix.col_apply, Mat.matrix_apply,
            column_eq_zero_of_firstPivot_eq_zero pivotZero, Pi.zero_apply]
      · rw [pivots_ofMat_succ, List.mem_cons] at zero
        obtain ⟨tail, tailNonzero, tailKernel⟩ :=
          inductionHypothesis (zero.resolve_left (Ne.symm pivotZero))
        let z : Fin (n + 1) → K := Fin.cases (-((firstUpper A).get ⬝ᵥ tail) / firstPivot A) tail
        have top : ((exchangedRows A).matrix *ᵥ z) 0 = 0 := by
          rw [mulVec_exchangedRows_zero]
          change firstPivot A * (-((firstUpper A).get ⬝ᵥ tail) / firstPivot A) +
            (firstUpper A).get ⬝ᵥ tail = 0
          rw [mul_div_cancel₀ _ pivotZero, neg_add_cancel]
        have below (i : Fin n) : ((exchangedRows A).matrix *ᵥ z) i.succ = 0 := by
          rw [mulVec_exchangedRows_succ pivotZero, top]
          change _ * 0 + ((remaining A).matrix *ᵥ tail) i = 0
          rw [tailKernel, mul_zero, Pi.zero_apply, add_zero]
        refine ⟨z, ?_, ?_⟩
        · intro equal
          exact tailNonzero (funext fun j => congrFun equal j.succ)
        · funext k
          have vanishes : ((exchangedRows A).matrix *ᵥ z)
              (Equiv.swap 0 (pivotIndex (A.map Vec.first)) k) = 0 :=
            Fin.cases (motive := fun k => ((exchangedRows A).matrix *ᵥ z) k = 0) top below _
          rw [mulVec_exchangedRows, Equiv.swap_apply_self] at vanishes
          exact vanishes

/-! ## Acceptance -/

/-- The pivots stand for a singular matrix exactly when one of them is zero. -/
theorem singular_iff_zero_mem (a : K) (rest : List K) :
    Singular (smallestPivot a rest) (largestPivot a rest) ↔ (0 : K) ∈ a :: rest := by
  unfold Singular smallestPivot largestPivot
  rw [Scalar.same_iff, Scalar.pivotTolerance_eq, zero_mul]
  constructor
  · rintro (largestZero | smallestZero)
    · have bound := (Scalar.le_foldl_larger (Scalar.abs a) (rest.map Scalar.abs)).1
      rw [largestZero, Scalar.abs_eq] at bound
      have equal := abs_eq_zero.mp (le_antisymm bound (abs_nonneg a))
      rw [equal]
      exact List.mem_cons_self
    · have member := Scalar.foldl_smaller_mem (Scalar.abs a) (rest.map Scalar.abs)
      rw [← List.map_cons, List.mem_map] at member
      obtain ⟨pivot, pivotMember, pivot_eq⟩ := member
      rw [← pivot_eq, Scalar.abs_eq] at smallestZero
      have equal := abs_eq_zero.mp (le_antisymm smallestZero (abs_nonneg pivot))
      rw [← equal]
      exact pivotMember
  · intro member
    right
    have bound := Scalar.foldl_smaller_le (Scalar.abs a) (rest.map Scalar.abs)
    have abs_zero_eq : Scalar.abs (0 : K) = 0 := by rw [Scalar.abs_eq, abs_zero]
    rcases List.mem_cons.mp member with equal | member
    · rw [← equal, abs_zero_eq] at bound ⊢
      exact bound.1
    · have image := List.mem_map_of_mem (f := Scalar.abs) member
      rw [abs_zero_eq] at image
      exact bound.2 0 image

omit [ExactScalar K] in
theorem length_pivots (elimination : Elimination K n) : elimination.pivots.length = n := by
  induction elimination with
  | done => rfl
  | column exchanged pivot upper lower rest inductionHypothesis =>
      rw [pivots, List.length_cons, inductionHypothesis]

end Elimination

/-- A matrix that is refused is empty or singular. -/
theorem kind_of_factorize {K : Type} [Scalar K] {n : Nat} {A : Mat K n n} {cause : Failure K}
    (refused : factorize A = .error cause) :
    cause.kind = if n = 0 then .dimensions else .singular := by
  have length := Elimination.length_pivots (Elimination.ofMat A)
  unfold factorize at refused
  cases listed : (Elimination.ofMat A).pivots with
  | nil =>
      rw [listed] at length
      simp only [listed] at refused
      cases refused
      exact (if_pos length.symm).symm
  | cons pivot rest =>
      have nonempty : n ≠ 0 := by
        rw [← length, listed]
        exact Nat.succ_ne_zero _
      simp only [listed] at refused
      rw [if_neg nonempty]
      split at refused
      · split at refused
        · cases refused
          rfl
        · cases refused
      · cases refused
        rfl

section Factorize

variable {K : Type} [ExactScalar K] {n : Nat}

theorem Mat.allFinite_eq_true {m n : Nat} (A : Mat K m n) : A.allFinite = true := by
  unfold Mat.allFinite Vec.allFinite
  simp

/-- A matrix with at least one row is accepted exactly when its elimination has no zero pivot, and
what is returned is its elimination. -/
theorem factorize_eq_ok_iff (A : Mat K n n) (factors : Elimination K n) :
    factorize A = .ok factors ↔
      0 < n ∧ (∀ pivot ∈ (Elimination.ofMat A).pivots, pivot ≠ 0) ∧
        factors = Elimination.ofMat A := by
  have length := Elimination.length_pivots (Elimination.ofMat A)
  unfold factorize
  cases listed : (Elimination.ofMat A).pivots with
  | nil =>
      rw [listed, List.length_nil] at length
      simp [← length, listed]
  | cons a rest =>
      rw [listed, List.length_cons] at length
      have positive : 0 < n := by omega
      simp only [listed, Mat.allFinite_eq_true, if_true, Elimination.singular_iff_zero_mem]
      by_cases zero : (0 : K) ∈ a :: rest
      · rw [if_pos zero]
        constructor
        · intro impossible
          cases impossible
        · rintro ⟨_, nonzero, _⟩
          exact absurd rfl (nonzero 0 zero)
      · rw [if_neg zero, Except.ok.injEq]
        constructor
        · intro equal
          exact ⟨positive, fun pivot member equalZero => zero (equalZero ▸ member), equal.symm⟩
        · rintro ⟨_, _, equal⟩
          exact equal.symm

theorem mulVec_solve_of_factorize {A : Mat K n n} {factors : Elimination K n}
    (accepted : factorize A = .ok factors) (r : Vec K n) :
    A.matrix *ᵥ (factors.solve r).get = r.get := by
  obtain ⟨_, nonzero, rfl⟩ := (factorize_eq_ok_iff A factors).mp accepted
  exact Elimination.mulVec_solve nonzero r

theorem vecMul_solveTranspose_of_factorize {A : Mat K n n} {factors : Elimination K n}
    (accepted : factorize A = .ok factors) (r : Vec K n) :
    (factors.solveTranspose r).get ᵥ* A.matrix = r.get := by
  obtain ⟨_, nonzero, rfl⟩ := (factorize_eq_ok_iff A factors).mp accepted
  exact Elimination.vecMul_solveTranspose nonzero r

/-- A matrix that sends only zero to zero is accepted. -/
theorem exists_factorize_eq_ok {A : Mat K n n} (positive : 0 < n)
    (independent : ∀ z : Fin n → K, A.matrix *ᵥ z = 0 → z = 0) :
    ∃ factors, factorize A = .ok factors := by
  refine ⟨Elimination.ofMat A, (factorize_eq_ok_iff A _).mpr ⟨positive, ?_, rfl⟩⟩
  intro pivot member equalZero
  obtain ⟨z, nonzero, kernel⟩ := Elimination.exists_kernel (equalZero ▸ member)
  exact nonzero (independent z kernel)

/-- A matrix that is accepted sends only zero to zero: the system it solves is transposed, and every
right-hand side of the transposed system has a solution. -/
theorem eq_zero_of_factorize {A : Mat K n n} {factors : Elimination K n}
    (accepted : factorize A = .ok factors) {z : Fin n → K} (kernel : A.matrix *ᵥ z = 0) :
    z = 0 := by
  funext j
  have row := vecMul_solveTranspose_of_factorize accepted (Vector.ofFn (Pi.single j 1))
  set y := (factors.solveTranspose (Vector.ofFn (Pi.single j 1))).get
  calc
    z j = (Vector.ofFn (Pi.single j (1 : K))).get ⬝ᵥ z := by
      simp only [dotProduct, Vec.get_ofFn, Pi.single_apply, ite_mul, one_mul, zero_mul,
        Finset.sum_ite_eq', Finset.mem_univ, if_true]
    _ = (y ᵥ* A.matrix) ⬝ᵥ z := by rw [row]
    _ = y ⬝ᵥ (A.matrix *ᵥ z) := (dotProduct_mulVec y A.matrix z).symm
    _ = 0 := by rw [kernel, dotProduct_zero]

/-- A solution of a system that sends only zero to zero is the one that its record finds. -/
theorem exists_factorize_solve_eq {A : Mat K n n} (positive : 0 < n)
    (independent : ∀ z : Fin n → K, A.matrix *ᵥ z = 0 → z = 0) {d r : Vec K n}
    (solves : A.matrix *ᵥ d.get = r.get) :
    ∃ factors, factorize A = .ok factors ∧ factors.solve r = d := by
  obtain ⟨factors, accepted⟩ := exists_factorize_eq_ok positive independent
  have found := mulVec_solve_of_factorize accepted r
  have same : (factors.solve r).get - d.get = 0 := by
    apply independent
    rw [Matrix.mulVec_sub, found, solves, sub_self]
  exact ⟨factors, accepted, Vec.ext_get fun i => congrFun (sub_eq_zero.mp same) i⟩

end Factorize

end PolyTrace
