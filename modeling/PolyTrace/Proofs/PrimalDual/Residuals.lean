import Mathlib
import PolyTrace.Proofs.PrimalDual.Solution
import PolyTrace.Proofs.Problem.Split

/-!
# The relative error of a state bounds its distance from optimality

The relative error bounds the residuals of a state, and weak duality turns them into a bound on the
objective of every feasible point.

The error of the standard form measures by how much the columns of the multipliers fall short of the
objective, so that a small error alone bounds the objective.  The error of the inequality form
measures the signs of the multipliers instead; how far their columns are from the objective remains
in the bound, and at a feasible point with nonnegative multipliers the error is the gap of the two
objectives alone.
-/

namespace PolyTrace.PrimalDual

open Matrix

variable {m n p : Nat}

/-! ## The residuals of a state within the tolerance -/

section Residuals

variable {program : Program ℝ m p} {state : State ℝ m p} {tol : ℝ}

theorem relativeNorm_nonneg {k l : Nat} (residual : Vec ℝ k) (data : Vec ℝ l) :
    0 ≤ relativeNorm residual data :=
  div_nonneg residual.norm_nonneg (add_nonneg zero_le_one data.norm_nonneg)

theorem norm_le_of_relativeNorm_le {k l : Nat} {residual : Vec ℝ k} {data : Vec ℝ l}
    (small : relativeNorm residual data ≤ tol) : residual.norm ≤ tol * (1 + data.norm) :=
  (div_le_iff₀ (add_pos_of_pos_of_nonneg one_pos data.norm_nonneg)).mp small

theorem relativeGap_nonneg (program : Program ℝ m p) (state : State ℝ m p) :
    0 ≤ relativeGap program state := by
  rw [relativeGap_eq]
  positivity

theorem abs_add_le_of_relativeGap_le (small : relativeGap program state ≤ tol) :
    |program.c.dot state.x + program.b.dot state.y| ≤
      tol * (1 + |program.c.dot state.x| + |program.b.dot state.y|) := by
  rw [relativeGap_eq] at small
  exact (div_le_iff₀ (by positivity)).mp small

theorem residuals_le_of_standardError_le (within : standardError program state ≤ tol) :
    ((program.A.mulVec state.x).sub program.b).norm ≤ tol * (1 + program.b.norm) ∧
      ((program.A.transposeMulVec state.y).neg.sub program.c).project.norm ≤
        tol * (1 + program.c.norm) ∧
      |program.c.dot state.x + program.b.dot state.y| ≤
        tol * (1 + |program.c.dot state.x| + |program.b.dot state.y|) := by
  unfold standardError at within
  have rows := relativeNorm_nonneg ((program.A.mulVec state.x).sub program.b) program.b
  have columns := relativeNorm_nonneg
    ((program.A.transposeMulVec state.y).neg.sub program.c).project program.c
  have gap := relativeGap_nonneg program state
  refine ⟨norm_le_of_relativeNorm_le ?_, norm_le_of_relativeNorm_le ?_,
    abs_add_le_of_relativeGap_le ?_⟩ <;> linarith

theorem residuals_le_of_inequalityError_le (within : inequalityError program state ≤ tol) :
    ((program.A.mulVec state.x).sub program.b).project.norm ≤ tol * (1 + program.b.norm) ∧
      |program.c.dot state.x + program.b.dot state.y| ≤
        tol * (1 + |program.c.dot state.x| + |program.b.dot state.y|) := by
  unfold inequalityError at within
  have rows := relativeNorm_nonneg ((program.A.mulVec state.x).sub program.b).project program.b
  have signs := relativeNorm_nonneg state.y.neg.project program.c
  have gap := relativeGap_nonneg program state
  refine ⟨norm_le_of_relativeNorm_le ?_, abs_add_le_of_relativeGap_le ?_⟩ <;> linarith

end Residuals

/-! ## Weak duality -/

section Duality

variable {K : Type} [ExactScalar K] {program : Program K m p} {y : Vec K m} {x : Vec K p}

/-- Multipliers whose columns fall short of the objective by at most `misses` bound the objective at
every nonnegative solution of the equations. -/
theorem neg_dot_le_of_columns {misses : Vec K p}
    (columns : ∀ j,
      0 ≤ program.c.get j + (program.A.transposeMulVec y).get j + misses.get j)
    (nonneg : ∀ j, 0 ≤ x.get j) (rows : program.A.mulVec x = program.b) :
    -program.b.dot y ≤ program.c.dot x + misses.dot x := by
  have total : 0 ≤ program.c.dot x + (program.A.transposeMulVec y).dot x + misses.dot x := by
    simp only [Vec.dot_eq, ← add_dotProduct]
    exact Finset.sum_nonneg fun j _ => mul_nonneg (columns j) (nonneg j)
  rw [Mat.transposeMulVec_dot, rows] at total
  linarith

/-- Nonnegative multipliers bound the objective at every point that satisfies the rows, up to what
their columns add to the objective there. -/
theorem neg_dot_le_of_rows (y_nonneg : ∀ i, 0 ≤ y.get i)
    (rows : ∀ i, (program.A.mulVec x).get i ≤ program.b.get i) :
    -program.b.dot y ≤
      program.c.dot x - (program.c.add (program.A.transposeMulVec y)).dot x := by
  have weighted : (program.A.mulVec x).dot y ≤ program.b.dot y := by
    rw [Vec.dot_eq, Vec.dot_eq]
    exact Finset.sum_le_sum fun i _ => mul_le_mul_of_nonneg_right (rows i) (y_nonneg i)
  have added : (program.c.add (program.A.transposeMulVec y)).dot x =
      program.c.dot x + (program.A.mulVec x).dot y := by
    rw [Vec.add_dot, Mat.transposeMulVec_dot]
  linarith

end Duality

/-! ## The certificates -/

section Certificates

variable {program : Program ℝ m p} {state : State ℝ m p} {tol : ℝ}

/-- A state of small error in the standard form is nearly as good as every nonnegative solution of
the equations. -/
theorem dot_le_of_standardError_le (within : standardError program state ≤ tol) {x : Vec ℝ p}
    (nonneg : ∀ j, 0 ≤ x.get j) (rows : program.A.mulVec x = program.b) :
    program.c.dot state.x ≤ program.c.dot x +
      tol * (1 + |program.c.dot state.x| + |program.b.dot state.y|) +
      tol * (1 + program.c.norm) * x.norm := by
  obtain ⟨-, columns, gap⟩ := residuals_le_of_standardError_le within
  have short : ∀ j, 0 ≤ program.c.get j + (program.A.transposeMulVec state.y).get j +
      ((program.A.transposeMulVec state.y).neg.sub program.c).project.get j := by
    intro j
    rw [Vec.get_project, Vec.get_sub, Vec.get_neg]
    linarith [le_max_left (-(program.A.transposeMulVec state.y).get j - program.c.get j) 0]
  have weak := neg_dot_le_of_columns short nonneg rows
  have missed := (le_abs_self _).trans (Vec.abs_dot_le_norm_mul_norm
    ((program.A.transposeMulVec state.y).neg.sub program.c).project x)
  have bounded := mul_le_mul_of_nonneg_right columns x.norm_nonneg
  have difference := (le_abs_self _).trans gap
  linarith

/-- A state of small error in the inequality form is nearly as good as every point that satisfies
the rows, up to the distance of its columns from the objective. -/
theorem dot_le_of_inequalityError_le (within : inequalityError program state ≤ tol)
    (nonneg : ∀ i, 0 ≤ state.y.get i) {x : Vec ℝ p}
    (rows : ∀ i, (program.A.mulVec x).get i ≤ program.b.get i) :
    program.c.dot state.x ≤ program.c.dot x +
      tol * (1 + |program.c.dot state.x| + |program.b.dot state.y|) +
      (program.c.add (program.A.transposeMulVec state.y)).norm * x.norm := by
  obtain ⟨-, gap⟩ := residuals_le_of_inequalityError_le within
  have weak := neg_dot_le_of_rows nonneg rows
  have added := (neg_le_abs _).trans (Vec.abs_dot_le_norm_mul_norm
    (program.c.add (program.A.transposeMulVec state.y)) x)
  have difference := (le_abs_self _).trans gap
  linarith

end Certificates

/-! ## The split form -/

section SplitForm

variable {problem : Problem ℝ m n} {state : State ℝ m (n + n + m)} {tol : ℝ}

theorem split_dot_unsplit (problem : Problem ℝ m n) (x : Vec ℝ (n + n + m)) :
    problem.split.c.dot x = -problem.c.dot (unsplit x) := by
  rw [Vec.dot_eq, Split.split_dot, Vec.dot_eq, Split.get_unsplit]

/-- A nonnegative state of small error violates no row of the problem by much. -/
theorem mulVec_unsplit_le (within : standardError problem.split state ≤ tol)
    (nonneg : ∀ j, 0 ≤ state.x.get j) (i : Fin m) :
    (problem.A.mulVec (unsplit state.x)).get i ≤
      problem.b.get i + tol * (1 + problem.b.norm) := by
  obtain ⟨rows, -, -⟩ := residuals_le_of_standardError_le within
  have residual := (le_abs_self _).trans ((Vec.abs_get_le_norm _ i).trans rows)
  have completed : (problem.split.A.mulVec state.x).get i =
      (problem.A.mulVec (unsplit state.x)).get i + Split.slack state.x.get i := by
    rw [Mat.get_mulVec, Mat.get_mulVec, Split.get_unsplit]
    exact congrFun (Split.splitMatrix_mulVec problem.A state.x.get) i
  have slack : 0 ≤ Split.slack state.x.get i := nonneg _
  rw [Vec.get_sub, completed] at residual
  change _ - problem.b.get i ≤ tol * (1 + problem.b.norm) at residual
  linarith

/-- A state of small error is nearly as good as every feasible point of the problem. -/
theorem dot_le_of_split_error_le (within : standardError problem.split state ≤ tol)
    {x : Vec ℝ n} (feasible : problem.Feasible x) :
    problem.c.dot x ≤ problem.c.dot (unsplit state.x) +
      tol * (1 + |problem.c.dot (unsplit state.x)| + |problem.b.dot state.y|) +
      tol * (1 + problem.split.c.norm) * Vec.norm (Vector.ofFn (Split.ofPoint problem x)) := by
  have nonneg : ∀ j, 0 ≤ (Vector.ofFn (Split.ofPoint problem x)).get j := by
    intro j
    rw [Vec.get_ofFn]
    exact Split.ofPoint_nonneg feasible j
  have get_point : (Vector.ofFn (Split.ofPoint problem x)).get = Split.ofPoint problem x :=
    funext (Vec.get_ofFn _)
  have rows : problem.split.A.mulVec (Vector.ofFn (Split.ofPoint problem x)) = problem.b := by
    apply Vec.ext_get
    intro i
    rw [Mat.get_mulVec, get_point]
    exact congrFun (Split.splitMatrix_mulVec_ofPoint problem x) i
  have bound := dot_le_of_standardError_le within nonneg rows
  have objective : problem.split.c.dot (Vector.ofFn (Split.ofPoint problem x)) =
      -problem.c.dot x := by
    rw [Vec.dot_eq, get_point, Split.split_dot, Split.free_ofPoint, Vec.dot_eq]
  rw [objective, split_dot_unsplit, abs_neg] at bound
  change _ ≤ _ + tol * (1 + _ + |problem.b.dot state.y|) + _ at bound
  linarith

end SplitForm

/-! ## The inequality form -/

section Inequality

variable {problem : Problem ℝ m n} {state : State ℝ m n} {tol : ℝ}

/-- A state of small error violates no row by much. -/
theorem mulVec_le_of_inequalityError_le {program : Program ℝ m p} {state : State ℝ m p}
    (within : inequalityError program state ≤ tol) (i : Fin m) :
    (program.A.mulVec state.x).get i ≤ program.b.get i + tol * (1 + program.b.norm) := by
  obtain ⟨rows, -⟩ := residuals_le_of_inequalityError_le within
  have residual := (le_abs_self _).trans ((Vec.abs_get_le_norm _ i).trans rows)
  rw [Vec.get_project, Vec.get_sub] at residual
  linarith [le_max_left ((program.A.mulVec state.x).get i - program.b.get i) 0]

/-- A state of small error is nearly as good as every feasible point of the problem, up to the
distance of the columns of its multipliers from the objective. -/
theorem dot_le_of_negated_error_le
    (within : inequalityError ⟨problem.A, problem.b, problem.c.neg⟩ state ≤ tol)
    (nonneg : ∀ i, 0 ≤ state.y.get i) {x : Vec ℝ n} (feasible : problem.Feasible x) :
    problem.c.dot x ≤ problem.c.dot state.x +
      tol * (1 + |problem.c.dot state.x| + |problem.b.dot state.y|) +
      ((problem.A.transposeMulVec state.y).sub problem.c).norm * x.norm := by
  have bound := dot_le_of_inequalityError_le within nonneg feasible
  have columns : problem.c.neg.add (problem.A.transposeMulVec state.y) =
      (problem.A.transposeMulVec state.y).sub problem.c := by
    apply Vec.ext_get
    intro j
    rw [Vec.get_add, Vec.get_neg, Vec.get_sub]
    ring
  rw [Vec.neg_dot, Vec.neg_dot, abs_neg, columns] at bound
  linarith

end Inequality

end PolyTrace.PrimalDual
