import Mathlib
import PolyTrace.Engine.Simplex.TwoPhase
import PolyTrace.Proofs.Problem.Split
import PolyTrace.Proofs.Simplex.Exchange

/-!
# The programs of the two phases

The equations and the objectives of both phases in terms of the problem.  The first phase multiplies
the split form by the signs of the bounds and adds the artificial variables, whose sum it drives
down; it starts from the artificial columns, where every entry is the size of a bound, and it never
has a ray along which its objective grows.  The second phase is the split form itself.
-/

namespace PolyTrace.Simplex

open Matrix

variable {K : Type} [ExactScalar K] {m n : Nat}

/-! ## The second phase -/

theorem phaseTwo_mulVec (problem : Problem K m n) (t : Fin (n + n + m) → K) :
    (phaseTwo problem).A.matrix *ᵥ t = problem.A.matrix *ᵥ Split.free t + Split.slack t :=
  Split.splitMatrix_mulVec problem.A t

theorem phaseTwo_dot (problem : Problem K m n) (t : Fin (n + n + m) → K) :
    (phaseTwo problem).c.get ⬝ᵥ t = problem.c.get ⬝ᵥ Split.free t := by
  simp only [phaseTwo, dotProduct, Fin.sum_univ_add, Vec.get_append_castAdd,
    Vec.get_append_natAdd, Vec.get_neg, Vec.get_zero, zero_mul, Finset.sum_const_zero, add_zero,
    Split.free, mul_sub, neg_mul, Finset.sum_sub_distrib, Finset.sum_neg_distrib]
  ring

/-- The objective of the second phase is the objective of the point that is shown. -/
theorem phaseTwo_dot_full (problem : Problem K m n) (x : Vec K (n + n + m)) :
    (phaseTwo problem).c.get ⬝ᵥ x.get = problem.c.dot (unsplit x) := by
  rw [phaseTwo_dot, Vec.dot_eq, Split.get_unsplit]

/-! ## The first phase -/

theorem get_rowSigns (b : Vec K m) (i : Fin m) :
    (rowSigns b).get i = if b.get i < 0 then -1 else 1 :=
  Vec.get_map _ b i

theorem rowSigns_mul_self (b : Vec K m) (i : Fin m) :
    (rowSigns b).get i * (rowSigns b).get i = 1 := by
  rw [get_rowSigns]
  split <;> ring

theorem rowSigns_ne_zero (b : Vec K m) (i : Fin m) : (rowSigns b).get i ≠ 0 := by
  intro zero
  have square := rowSigns_mul_self b i
  rw [zero, mul_zero] at square
  exact zero_ne_one square

theorem rowSigns_mul_nonneg (b : Vec K m) (i : Fin m) : 0 ≤ (rowSigns b).get i * b.get i := by
  rw [get_rowSigns]
  split
  · rename_i negative
    linarith
  · rename_i nonneg
    linarith

/-- The split variables among the variables of the first phase. -/
def splitPart (t : Fin (n + n + m + m) → K) (j : Fin (n + n + m)) : K :=
  t (j.castAdd m)

/-- The artificial variables. -/
def artificialPart (t : Fin (n + n + m + m) → K) (i : Fin m) : K :=
  t (artificialColumn i)

omit [ExactScalar K] in
theorem splitPart_append (t : Fin (n + n + m) → K) (a : Fin m → K) :
    splitPart (Fin.append t a) = t :=
  funext fun j => Fin.append_left t a j

omit [ExactScalar K] in
theorem artificialPart_append (t : Fin (n + n + m) → K) (a : Fin m → K) :
    artificialPart (Fin.append t a) = a :=
  funext fun i => Fin.append_right t a i

theorem append_nonneg {t : Fin (n + n + m) → K} {a : Fin m → K} (t_nonneg : ∀ j, 0 ≤ t j)
    (a_nonneg : ∀ i, 0 ≤ a i) (j : Fin (n + n + m + m)) : 0 ≤ Fin.append t a j := by
  refine Fin.addCases (fun j => ?_) (fun i => ?_) j
  · rw [Fin.append_left]
    exact t_nonneg j
  · rw [Fin.append_right]
    exact a_nonneg i

theorem get_viewOne (x : Vec K (n + n + m + m)) :
    (viewOne x).get = Split.free (splitPart x.get) := by
  funext j
  rw [viewOne, Vec.get_ofFn]
  rfl

theorem phaseOne_get_b (problem : Problem K m n) (i : Fin m) :
    (phaseOne problem).b.get i = (rowSigns problem.b).get i * problem.b.get i :=
  Vec.get_mul _ _ i

/-- A row of the first phase: the row of the split form, with the sign of its bound, and the
artificial variable. -/
theorem phaseOne_mulVec (problem : Problem K m n) (t : Fin (n + n + m + m) → K) (i : Fin m) :
    ((phaseOne problem).A.matrix *ᵥ t) i =
      (rowSigns problem.b).get i * ((phaseTwo problem).A.matrix *ᵥ splitPart t) i +
        artificialPart t i := by
  rw [phaseTwo_mulVec, Pi.add_apply]
  simp only [Matrix.mulVec, dotProduct, Fin.sum_univ_add, Mat.matrix_apply, phaseOne,
    Mat.get_beside_castAdd, Mat.get_beside_natAdd, Mat.get_neg, Mat.get_identity, Mat.get_diagonal,
    Mat.get_scaleRows, ite_mul, one_mul, zero_mul, Finset.sum_ite_eq, Finset.mem_univ, if_true,
    Split.free, Split.slack, splitPart, artificialPart, artificialColumn, neg_mul,
    Finset.sum_neg_distrib, mul_add, Finset.mul_sum]
  rw [add_left_inj, add_left_inj, ← sub_eq_add_neg, ← Finset.sum_sub_distrib]
  exact Finset.sum_congr rfl fun j _ => by ring

theorem phaseOne_dot (problem : Problem K m n) (t : Fin (n + n + m + m) → K) :
    (phaseOne problem).c.get ⬝ᵥ t = -∑ i, artificialPart t i := by
  rw [dotProduct, Fin.sum_univ_add]
  simp only [phaseOne, Vec.get_append_castAdd, Vec.get_append_natAdd, Vec.get_neg, Vec.get_zero,
    Vec.get_ones, zero_mul, Finset.sum_const_zero, zero_add, neg_mul, one_mul,
    Finset.sum_neg_distrib]
  rfl

/-- The objective of the first phase is at most zero on nonnegative variables. -/
theorem phaseOne_dot_nonpos (problem : Problem K m n) {t : Fin (n + n + m + m) → K}
    (nonneg : ∀ j, 0 ≤ t j) : (phaseOne problem).c.get ⬝ᵥ t ≤ 0 := by
  rw [phaseOne_dot]
  exact neg_nonpos.mpr (Finset.sum_nonneg fun i _ => nonneg _)

/-! ## The artificial basis -/

theorem get_artificialBasis_split (j : Fin (n + n + m)) :
    (artificialBasis m n).get (j.castAdd m) = false := by
  rw [artificialBasis, Vec.get_append_castAdd, Vec.get_replicate]

theorem get_artificialBasis_artificial (i : Fin m) :
    (artificialBasis m n).get (artificialColumn i) = true := by
  rw [artificialBasis, artificialColumn, Vec.get_append_natAdd, Vec.get_replicate]

/-- The artificial basis has one member for each row. -/
theorem length_artificialBasis : (artificialBasis m n).members.length = m := by
  rw [Basis.length_members, Finset.card_filter, Fin.sum_univ_add]
  simp only [get_artificialBasis_split]
  have artificial : ∀ i : Fin m, (artificialBasis m n).get (Fin.natAdd (n + n + m) i) = true :=
    get_artificialBasis_artificial
  simp only [artificial]
  simp

/-- The first phase starts from a regular basis. -/
theorem regular_artificialBasis (problem : Problem K m n) :
    Regular (phaseOne problem) (artificialBasis m n) where
  size := length_artificialBasis
  independent := by
    intro z supported kernel
    have split : splitPart z = 0 := funext fun j => supported _ (get_artificialBasis_split j)
    funext j
    refine Fin.addCases (fun j => congrFun split j) (fun i => ?_) j
    have row := congrFun kernel i
    rw [phaseOne_mulVec, split, Matrix.mulVec_zero, Pi.zero_apply, mul_zero, zero_add] at row
    exact row

/-- At the artificial basis every artificial variable is the size of its bound. -/
theorem isBasic_artificialBasis (problem : Problem K m n) :
    IsBasic (phaseOne problem) (artificialBasis m n)
      (Fin.append 0 (phaseOne problem).b.get) where
  supported := by
    intro j
    refine Fin.addCases (fun j _ => Fin.append_left _ _ j) (fun i marked => ?_) j
    have contradiction := (get_artificialBasis_artificial i).symm.trans marked
    cases contradiction
  solves := by
    funext i
    rw [phaseOne_mulVec, splitPart_append, artificialPart_append, Matrix.mulVec_zero,
      Pi.zero_apply, mul_zero, zero_add]

theorem isBasic_artificialBasis_nonneg (problem : Problem K m n) (j : Fin (n + n + m + m)) :
    0 ≤ Fin.append (0 : Fin (n + n + m) → K) (phaseOne problem).b.get j := by
  apply append_nonneg
  · intro j
    exact le_refl 0
  · intro i
    rw [phaseOne_get_b]
    exact rowSigns_mul_nonneg problem.b i

end PolyTrace.Simplex
