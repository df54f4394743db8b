import Mathlib
import PolyTrace.Problem.Basic
import PolyTrace.Proofs.Linear.Matrix

/-!
# Feasible and optimal points

What the answers of the engines are measured against: the points that satisfy every row of a
problem, the points of greatest objective among them, and the problems whose objective has no
bound.  Nonnegative multipliers of the rows bound the objective at every feasible point, up to the
amount by which they miss the objective column by column.
-/

namespace PolyTrace.Problem

open Matrix

section Notions

variable {K : Type} [Scalar K] {m n : Nat}

/-- The point satisfies every row. -/
def Feasible (problem : Problem K m n) (x : Vec K n) : Prop :=
  ∀ i, (problem.A.mulVec x).get i ≤ problem.b.get i

instance Feasible.instDecidable (problem : Problem K m n) (x : Vec K n) :
    Decidable (problem.Feasible x) :=
  inferInstanceAs (Decidable (∀ i, (problem.A.mulVec x).get i ≤ problem.b.get i))

/-- The point is feasible and no feasible point has a greater objective. -/
structure IsOptimal (problem : Problem K m n) (x : Vec K n) : Prop where
  feasible : problem.Feasible x
  greatest : ∀ x', problem.Feasible x' → problem.c.dot x' ≤ problem.c.dot x

/-- There are feasible points of objective above any bound. -/
def Unbounded (problem : Problem K m n) : Prop :=
  ∀ bound : K, ∃ x, problem.Feasible x ∧ bound < problem.c.dot x

end Notions

variable {K : Type} [ExactScalar K] {m n : Nat}

/-- Weak duality with multipliers that miss the objective by at most `eps` in every column. -/
theorem dot_le_of_multipliers (problem : Problem K m n) {y : Vec K m} {eps : K}
    (y_nonneg : ∀ i, 0 ≤ y.get i)
    (columns : ∀ j, |(problem.A.transposeMulVec y).get j - problem.c.get j| ≤ eps)
    {x : Vec K n} (feasible : problem.Feasible x) :
    problem.c.dot x ≤ problem.b.dot y + eps * ∑ j, |x.get j| := by
  have rows : y.get ⬝ᵥ (problem.A.mulVec x).get ≤ y.get ⬝ᵥ problem.b.get :=
    Finset.sum_le_sum fun i _ => mul_le_mul_of_nonneg_left (feasible i) (y_nonneg i)
  have misses : ∀ j, problem.c.get j * x.get j ≤
      (problem.A.transposeMulVec y).get j * x.get j + eps * |x.get j| := by
    intro j
    have product : -(((problem.A.transposeMulVec y).get j - problem.c.get j) * x.get j) ≤
        eps * |x.get j| := by
      calc
        _ ≤ |((problem.A.transposeMulVec y).get j - problem.c.get j) * x.get j| := neg_le_abs _
        _ = |(problem.A.transposeMulVec y).get j - problem.c.get j| * |x.get j| := abs_mul _ _
        _ ≤ eps * |x.get j| := mul_le_mul_of_nonneg_right (columns j) (abs_nonneg _)
    linarith
  calc
    problem.c.dot x = ∑ j, problem.c.get j * x.get j := Vec.dot_eq _ _
    _ ≤ ∑ j, ((problem.A.transposeMulVec y).get j * x.get j + eps * |x.get j|) :=
      Finset.sum_le_sum fun j _ => misses j
    _ = (problem.A.transposeMulVec y).get ⬝ᵥ x.get + eps * ∑ j, |x.get j| := by
      rw [Finset.sum_add_distrib, ← Finset.mul_sum]
      rfl
    _ = y.get ⬝ᵥ (problem.A.mulVec x).get + eps * ∑ j, |x.get j| := by
      rw [Mat.get_transposeMulVec, Mat.get_mulVec, dotProduct_mulVec]
    _ ≤ y.get ⬝ᵥ problem.b.get + eps * ∑ j, |x.get j| := add_le_add_left rows _
    _ = problem.b.dot y + eps * ∑ j, |x.get j| := by rw [Vec.dot_eq, dotProduct_comm]

/-- A triangle that does not hold the origin, with its greatest objective at the corner `(1, 2)`. -/
def triangle : Problem Rat 3 2 where
  A := #v[#v[-1, 0], #v[0, -1], #v[1, 1]]
  b := #v[-1, -1, 3]
  c := #v[1, 2]

end PolyTrace.Problem
