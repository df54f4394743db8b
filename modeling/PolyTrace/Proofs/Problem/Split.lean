import PolyTrace.Proofs.Problem.Optimality

/-!
# The split form, block by block

A vector of split variables consists of the positive parts, the negative parts and the slacks.  Its
free part is the difference of the first two.  The equations of the split form say that the rows of
the problem, at the free part, are completed by the slacks; so its nonnegative solutions stand for
the feasible points, and every feasible point has a canonical one.
-/

namespace PolyTrace

open Matrix

namespace Split

/-- A property of all columns, block by block. -/
theorem forall_column {m n : Nat} {P : Fin (n + n + m) → Prop}
    (positive : ∀ j : Fin n, P ((j.castAdd n).castAdd m))
    (negative : ∀ j : Fin n, P ((j.natAdd n).castAdd m))
    (slack : ∀ i : Fin m, P (i.natAdd (n + n))) (j : Fin (n + n + m)) : P j :=
  Fin.addCases (fun j => Fin.addCases positive negative j) slack j

variable {K : Type} [ExactScalar K] {m n : Nat}

/-- The variables that split variables stand for. -/
def free (t : Fin (n + n + m) → K) (j : Fin n) : K :=
  t ((j.castAdd n).castAdd m) - t ((j.natAdd n).castAdd m)

/-- The slacks among split variables. -/
def slack (t : Fin (n + n + m) → K) (i : Fin m) : K :=
  t (i.natAdd (n + n))

theorem get_unsplit (x : Vec K (n + n + m)) : (unsplit x).get = free x.get := by
  funext j
  rw [unsplit, Vec.get_ofFn]
  rfl

/-- The equations of the split form: the rows at the free part, completed by the slacks. -/
theorem splitMatrix_mulVec (A : Mat K m n) (t : Fin (n + n + m) → K) :
    (Problem.splitMatrix A).matrix *ᵥ t = A.matrix *ᵥ free t + slack t := by
  funext i
  rw [Pi.add_apply]
  simp only [Matrix.mulVec, dotProduct, Fin.sum_univ_add, Mat.matrix_apply, Problem.splitMatrix,
    Mat.get_beside_castAdd, Mat.get_beside_natAdd, Mat.get_neg, Mat.get_identity, ite_mul, one_mul,
    zero_mul, Finset.sum_ite_eq, Finset.mem_univ, if_true, free, slack, mul_sub, neg_mul,
    Finset.sum_sub_distrib, Finset.sum_neg_distrib]
  ring

/-- The cost of the split form is the negated objective of the free part. -/
theorem split_dot (problem : Problem K m n) (t : Fin (n + n + m) → K) :
    problem.split.c.get ⬝ᵥ t = -(problem.c.get ⬝ᵥ free t) := by
  simp only [Problem.split, dotProduct, Fin.sum_univ_add, Vec.get_append_castAdd,
    Vec.get_append_natAdd, Vec.get_neg, Vec.get_zero, zero_mul, Finset.sum_const_zero, add_zero,
    free, mul_sub, neg_mul, Finset.sum_sub_distrib, Finset.sum_neg_distrib]
  ring

/-- A solution of the equations with nonnegative slacks stands for a feasible point. -/
theorem feasible_of_slack_nonneg {problem : Problem K m n} {x : Vec K n}
    {t : Fin (n + n + m) → K}
    (equations : (Problem.splitMatrix problem.A).matrix *ᵥ t = problem.b.get)
    (x_eq : x.get = free t) (nonneg : ∀ i, 0 ≤ slack t i) : problem.Feasible x := by
  intro i
  have row := congrFun equations i
  rw [splitMatrix_mulVec, Pi.add_apply, ← x_eq, ← Mat.get_mulVec] at row
  linarith [nonneg i]

/-- The split variables of a point: its positive parts, its negative parts and its slacks. -/
def ofPoint (problem : Problem K m n) (x : Vec K n) : Fin (n + n + m) → K :=
  Fin.append (Fin.append (fun j => max (x.get j) 0) fun j => max (-x.get j) 0)
    fun i => problem.b.get i - (problem.A.mulVec x).get i

theorem free_ofPoint (problem : Problem K m n) (x : Vec K n) :
    free (ofPoint problem x) = x.get := by
  funext j
  simp only [free, ofPoint, Fin.append_left, Fin.append_right]
  rcases le_total 0 (x.get j) with nonneg | nonpos
  · rw [max_eq_left nonneg, max_eq_right (neg_nonpos.mpr nonneg), sub_zero]
  · rw [max_eq_right nonpos, max_eq_left (neg_nonneg.mpr nonpos), zero_sub, neg_neg]

theorem slack_ofPoint (problem : Problem K m n) (x : Vec K n) (i : Fin m) :
    slack (ofPoint problem x) i = problem.b.get i - (problem.A.mulVec x).get i := by
  simp only [slack, ofPoint, Fin.append_right]

theorem splitMatrix_mulVec_ofPoint (problem : Problem K m n) (x : Vec K n) :
    (Problem.splitMatrix problem.A).matrix *ᵥ ofPoint problem x = problem.b.get := by
  funext i
  rw [splitMatrix_mulVec, free_ofPoint, ← Mat.get_mulVec, Pi.add_apply, slack_ofPoint]
  ring

theorem ofPoint_nonneg {problem : Problem K m n} {x : Vec K n} (feasible : problem.Feasible x)
    (j : Fin (n + n + m)) : 0 ≤ ofPoint problem x j := by
  revert j
  apply forall_column
  · intro j
    simp only [ofPoint, Fin.append_left]
    exact le_max_right _ _
  · intro j
    simp only [ofPoint, Fin.append_left, Fin.append_right]
    exact le_max_right _ _
  · intro i
    simp only [ofPoint, Fin.append_right]
    exact sub_nonneg.mpr (feasible i)

theorem sum_ofPoint (problem : Problem K m n) (x : Vec K n) :
    ∑ j, ofPoint problem x j =
      ∑ j, |x.get j| + ∑ i, (problem.b.get i - (problem.A.mulVec x).get i) := by
  have parts : ∀ j, max (x.get j) 0 + max (-x.get j) 0 = |x.get j| := by
    intro j
    rcases le_total 0 (x.get j) with nonneg | nonpos
    · rw [max_eq_left nonneg, max_eq_right (neg_nonpos.mpr nonneg), add_zero, abs_of_nonneg nonneg]
    · rw [max_eq_right nonpos, max_eq_left (neg_nonneg.mpr nonpos), zero_add, abs_of_nonpos nonpos]
  simp only [Fin.sum_univ_add, ofPoint, Fin.append_left, Fin.append_right]
  rw [← Finset.sum_add_distrib, Finset.sum_congr rfl fun j _ => parts j]

end Split

end PolyTrace
