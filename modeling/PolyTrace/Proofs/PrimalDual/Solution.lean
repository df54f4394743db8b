import Mathlib
import PolyTrace.Engine.PrimalDual
import PolyTrace.Proofs.Arith.Real

/-!
# The states of the two forms, and their solutions

Each form projects one vector of its states, which is nonnegative from the start on: the variables
of the standard form, the multipliers of the inequality form.

A state solves a form when its variables are feasible, its multipliers are feasible for the dual
program, and the two are complementary.  The objectives of a solution cancel, and its relative error
is zero.
-/

namespace PolyTrace.PrimalDual

open Matrix

/-! ## The orthant -/

section Orthant

variable {K : Type} [ExactScalar K] {m p : Nat}

/-- The vector that a form projects is nonnegative: the variables of the standard form, the
multipliers of the inequality form. -/
def State.Nonneg (form : Form) (state : State K m p) : Prop :=
  match form with
  | .standard => ∀ j, 0 ≤ state.x.get j
  | .inequality => ∀ i, 0 ≤ state.y.get i

theorem start_nonneg (form : Form) : (start form m p : State K m p).Nonneg form := by
  cases form with
  | standard =>
      intro j
      exact (Vec.get_zero j).ge
  | inequality =>
      intro i
      exact zero_le_one.trans_eq (Vec.get_ones i).symm

theorem step_nonneg (form : Form) (options : Options K) (program : Program K m p)
    (state : State K m p) : (step form options program state).Nonneg form := by
  cases form with
  | standard =>
      intro j
      simp only [step, standardStep, Vec.get_project]
      exact le_max_right _ _
  | inequality =>
      intro i
      simp only [step, inequalityStep, Vec.get_project]
      exact le_max_right _ _

end Orthant

/-! ## Solutions -/

section Notions

variable {K : Type} [Scalar K] {m p : Nat}

/-- Nonnegative variables that satisfy the equations, with multipliers whose columns do not fall
short of the objective and reach it wherever a variable is positive. -/
structure StandardSolution (program : Program K m p) (state : State K m p) : Prop where
  nonneg : ∀ j, 0 ≤ state.x.get j
  rows : ∀ i, (program.A.mulVec state.x).get i = program.b.get i
  columns : ∀ j, 0 ≤ program.c.get j + (program.A.transposeMulVec state.y).get j
  complementary : state.x.dot (program.c.add (program.A.transposeMulVec state.y)) = 0

/-- Variables that satisfy the rows, with nonnegative multipliers whose columns cancel the objective
and which are zero wherever a row is slack. -/
structure InequalitySolution (program : Program K m p) (state : State K m p) : Prop where
  rows : ∀ i, (program.A.mulVec state.x).get i ≤ program.b.get i
  nonneg : ∀ i, 0 ≤ state.y.get i
  columns : ∀ j, program.c.get j + (program.A.transposeMulVec state.y).get j = 0
  complementary : state.y.dot ((program.A.mulVec state.x).sub program.b) = 0

/-- The state solves the program in the given form. -/
def IsSolution (form : Form) : Program K m p → State K m p → Prop :=
  match form with
  | .standard => StandardSolution
  | .inequality => InequalitySolution

end Notions

section Objectives

variable {K : Type} [ExactScalar K] {m p : Nat} {program : Program K m p} {star : State K m p}

theorem StandardSolution.mulVec_eq (solution : StandardSolution program star) :
    program.A.mulVec star.x = program.b :=
  Vec.ext_get solution.rows

theorem InequalitySolution.columns_dot (solution : InequalitySolution program star)
    (x : Vec K p) : program.c.dot x + (program.A.mulVec x).dot star.y = 0 := by
  rw [← Mat.transposeMulVec_dot, ← Vec.add_dot, Vec.dot_eq]
  refine Finset.sum_eq_zero fun j _ => ?_
  rw [Vec.get_add, solution.columns, zero_mul]

/-- The two objectives of a solution have opposite signs and the same size. -/
theorem IsSolution.dot_add_dot_eq_zero {form : Form} (solution : IsSolution form program star) :
    program.c.dot star.x + program.b.dot star.y = 0 := by
  cases form with
  | standard =>
      have complementary := StandardSolution.complementary solution
      rwa [Vec.dot_comm, Vec.add_dot, Mat.transposeMulVec_dot,
        StandardSolution.mulVec_eq solution] at complementary
  | inequality =>
      have complementary := InequalitySolution.complementary solution
      have columns := InequalitySolution.columns_dot solution star.x
      rw [Vec.dot_comm, Vec.sub_dot] at complementary
      linarith

end Objectives

section Error

variable {m p : Nat} {program : Program ℝ m p} {state : State ℝ m p}

theorem relativeNorm_eq_zero {k l : Nat} {residual : Vec ℝ k} (data : Vec ℝ l)
    (zero : ∀ i, residual.get i = 0) : relativeNorm residual data = 0 := by
  have norm_eq_zero : residual.norm = 0 := by
    rw [Vec.norm_eq, Finset.sum_eq_zero fun i _ => by rw [zero i, sq, mul_zero], Real.sqrt_zero]
  rw [relativeNorm, norm_eq_zero, zero_div]

/-- Nonnegative multipliers add nothing to the error of the inequality form, wherever their columns
lie. -/
theorem inequalityError_of_nonneg (program : Program ℝ m p)
    (nonneg : ∀ i, 0 ≤ state.y.get i) :
    inequalityError program state =
      relativeNorm ((program.A.mulVec state.x).sub program.b).project program.b +
        relativeGap program state := by
  unfold inequalityError
  dsimp only
  rw [relativeNorm_eq_zero program.c, add_zero]
  intro i
  rw [Vec.get_project, Vec.get_neg]
  exact max_eq_right (neg_nonpos.mpr (nonneg i))

/-- At a state that satisfies the rows with nonnegative multipliers, the error of the inequality
form is the gap of the objectives alone. -/
theorem inequalityError_eq_relativeGap
    (rows : ∀ i, (program.A.mulVec state.x).get i ≤ program.b.get i)
    (nonneg : ∀ i, 0 ≤ state.y.get i) :
    inequalityError program state = relativeGap program state := by
  rw [inequalityError_of_nonneg program nonneg, relativeNorm_eq_zero program.b, zero_add]
  intro i
  rw [Vec.get_project, Vec.get_sub]
  exact max_eq_right (sub_nonpos.mpr (rows i))

theorem standardError_eq_relativeGap
    (rows : ∀ i, (program.A.mulVec state.x).get i = program.b.get i)
    (columns : ∀ j, 0 ≤ program.c.get j + (program.A.transposeMulVec state.y).get j) :
    standardError program state = relativeGap program state := by
  unfold standardError
  dsimp only
  rw [relativeNorm_eq_zero program.b, relativeNorm_eq_zero program.c, zero_add, zero_add]
  · intro j
    rw [Vec.get_project, Vec.get_sub, Vec.get_neg]
    exact max_eq_right (by linarith [columns j])
  · intro i
    rw [Vec.get_sub]
    exact sub_eq_zero.mpr (rows i)

theorem relativeGap_eq (program : Program ℝ m p) (state : State ℝ m p) :
    relativeGap program state = |program.c.dot state.x + program.b.dot state.y| /
      (1 + |program.c.dot state.x| + |program.b.dot state.y|) := by
  rw [relativeGap, objectiveGap, Scalar.abs_eq, Scalar.abs_eq, Scalar.abs_eq]

theorem IsSolution.relativeError_eq_zero {form : Form}
    (solution : IsSolution form program state) : relativeError form program state = 0 := by
  have gap : relativeGap program state = 0 := by
    rw [relativeGap_eq, solution.dot_add_dot_eq_zero, abs_zero, zero_div]
  cases form with
  | standard =>
      exact (standardError_eq_relativeGap (StandardSolution.rows solution)
        (StandardSolution.columns solution)).trans gap
  | inequality =>
      exact (inequalityError_eq_relativeGap (InequalitySolution.rows solution)
        (InequalitySolution.nonneg solution)).trans gap

end Error

end PolyTrace.PrimalDual
