import Mathlib
import PolyTrace.Proofs.PrimalDual.Solution
import PolyTrace.Proofs.Problem.Optimality

/-!
# No step leads away from a solution

Each form has a metric of its own, in which the step lengths weigh the variables and the multipliers
and the rows couple the two.  Measured in it, a step brings a state closer to every solution, by at
least the length of the step itself.

The metric is quadratic, so that all depends on one inner product: the step must not point away
from the solution.  The projected half of the step is bounded by the variational inequality of the
projection, and the other half is known exactly.  The extrapolation makes the coupling cancel what
the two halves leave over, and the sign of the solution's own residual remains.
-/

namespace PolyTrace.PrimalDual

open Matrix
open Problem (triangle)

variable {K : Type} [ExactScalar K] {m p : Nat}

/-! ## The metric -/

/-- The difference of two states. -/
def State.sub (state other : State K m p) : State K m p :=
  ⟨state.x.sub other.x, state.y.sub other.y⟩

/-- The squared length of a difference of states, in the metric of a form. -/
def squaredLength (form : Form) (options : Options K) (A : Mat K m p) (d : State K m p) : K :=
  match form with
  | .standard =>
    d.x.dot d.x / options.eta + d.y.dot d.y / options.tau - Scalar.two * d.y.dot (A.mulVec d.x)
  | .inequality =>
    d.x.dot d.x / options.eta + d.y.dot d.y / options.tau + Scalar.two * d.y.dot (A.mulVec d.x)

/-- The inner product of two differences of states, in the metric of a form. -/
def pairing (form : Form) (options : Options K) (A : Mat K m p) (d e : State K m p) : K :=
  match form with
  | .standard =>
    d.x.dot e.x / options.eta + d.y.dot e.y / options.tau -
      (e.y.dot (A.mulVec d.x) + d.y.dot (A.mulVec e.x))
  | .inequality =>
    d.x.dot e.x / options.eta + d.y.dot e.y / options.tau +
      (e.y.dot (A.mulVec d.x) + d.y.dot (A.mulVec e.x))

theorem squaredLength_sub (form : Form) (options : Options K) (A : Mat K m p)
    (e d : State K m p) :
    squaredLength form options A (e.sub d) = squaredLength form options A e +
      squaredLength form options A d - 2 * pairing form options A d e := by
  cases form <;>
    simp only [squaredLength, pairing, Scalar.two, State.sub, Mat.mulVec_sub, Vec.sub_dot,
      Vec.dot_sub, Vec.dot_comm e.x d.x, Vec.dot_comm e.y d.y] <;>
    ring

theorem sub_eq_sub_sub_sub {n : Nat} (u v w : Vec K n) : u.sub v = (w.sub v).sub (w.sub u) := by
  apply Vec.ext_get
  intro i
  simp only [Vec.get_sub]
  ring

/-- The way from a state to a third one, by way of the second. -/
theorem State.sub_eq (state star next : State K m p) :
    state.sub star = (next.sub star).sub (next.sub state) := by
  simp only [State.sub, ← sub_eq_sub_sub_sub]

/-! ## The halves of a step -/

/-- The variational inequality of the projection: from a projected point, no nonnegative point lies
in the direction of the point that was projected. -/
theorem project_sub_dot_nonpos {n : Nat} (u : Vec K n) {v : Vec K n} (nonneg : ∀ i, 0 ≤ v.get i) :
    (u.project.sub u).dot (u.project.sub v) ≤ 0 := by
  rw [Vec.dot_eq]
  refine Finset.sum_nonpos fun i _ => ?_
  rw [Vec.get_sub, Vec.get_sub, Vec.get_project]
  rcases le_total 0 (u.get i) with inside | outside
  · rw [max_eq_left inside, sub_self, zero_mul]
  · rw [max_eq_right outside]
    exact mul_nonpos_of_nonneg_of_nonpos (by linarith) (by linarith [nonneg i])

theorem mulVec_extrapolate (A : Mat K m p) (next last : Vec K p) :
    A.mulVec (extrapolate next last) = (A.mulVec next).add (A.mulVec (next.sub last)) := by
  have extrapolate_eq : extrapolate next last = next.sub (last.sub next) := by
    apply Vec.ext_get
    intro i
    simp only [extrapolate, Scalar.two, Vec.get_sub, Vec.get_scale]
    ring
  apply Vec.ext_get
  intro i
  simp only [extrapolate_eq, Mat.mulVec_sub, Vec.get_sub, Vec.get_add]
  ring

theorem dot_extrapolate {n : Nat} (u next last : Vec K n) :
    u.dot (extrapolate next last) = u.dot next + u.dot (next.sub last) := by
  rw [extrapolate, Scalar.two, Vec.dot_sub, Vec.dot_sub, Vec.dot_scale]
  ring

theorem sub_along_dot {n : Nat} (u d v : Vec K n) (t : K) :
    ((u.along t d).sub u).dot v = t * d.dot v := by
  rw [Vec.along, Vec.sub_dot, Vec.add_dot, Vec.scale_dot]
  ring

section Standard

variable {options : Options K} {program : Program K m p} {state star next : State K m p}

/-- What the step does to the variables, measured towards a solution. -/
theorem StandardSolution.variables_dot_le (solution : StandardSolution program star)
    (next_eq : next = step .standard options program state) :
    (next.x.sub state.x).dot (next.x.sub star.x) ≤
      -(options.eta * (program.c.dot (next.x.sub star.x) +
        (program.A.mulVec (next.x.sub star.x)).dot state.y)) := by
  have x_eq : next.x = (state.x.sub
      ((program.c.add (program.A.transposeMulVec state.y)).scale options.eta)).project := by
    rw [next_eq]
    rfl
  have projected := project_sub_dot_nonpos (state.x.sub
    ((program.c.add (program.A.transposeMulVec state.y)).scale options.eta)) solution.nonneg
  rw [← x_eq, Vec.sub_dot, Vec.sub_dot, Vec.scale_dot, Vec.add_dot, Mat.transposeMulVec_dot]
    at projected
  rw [Vec.sub_dot]
  linarith

/-- What the step does to the multipliers, against any direction. -/
theorem StandardSolution.multipliers_dot (solution : StandardSolution program star)
    (next_eq : next = step .standard options program state) (v : Vec K m) :
    (next.y.sub state.y).dot v = options.tau * ((program.A.mulVec (next.x.sub star.x)).dot v +
      (program.A.mulVec (next.x.sub state.x)).dot v) := by
  have y_eq : next.y = state.y.along options.tau
      ((program.A.mulVec (extrapolate next.x state.x)).sub program.b) := by
    rw [next_eq]
    rfl
  rw [y_eq, sub_along_dot, mulVec_extrapolate, ← solution.mulVec_eq, Vec.sub_dot, Vec.add_dot,
    Mat.mulVec_sub _ next.x star.x, Vec.sub_dot]
  ring

/-- The residual of the columns of a solution does not point away from nonnegative variables. -/
theorem StandardSolution.columns_dot_nonneg (solution : StandardSolution program star)
    {x : Vec K p} (nonneg : ∀ j, 0 ≤ x.get j) :
    0 ≤ program.c.dot (x.sub star.x) + (program.A.mulVec (x.sub star.x)).dot star.y := by
  have complementary := solution.complementary
  have columns : 0 ≤ (program.c.add (program.A.transposeMulVec star.y)).dot x := by
    rw [Vec.dot_eq]
    refine Finset.sum_nonneg fun j _ => ?_
    rw [Vec.get_add]
    exact mul_nonneg (solution.columns j) (nonneg j)
  rw [← Mat.transposeMulVec_dot, ← Vec.add_dot, Vec.dot_sub, Vec.dot_comm _ star.x, complementary,
    sub_zero]
  exact columns

theorem StandardSolution.pairing_nonpos (solution : StandardSolution program star)
    (eta_pos : 0 < options.eta) (tau_pos : 0 < options.tau)
    (next_eq : next = step .standard options program state) :
    pairing .standard options program.A (next.sub state) (next.sub star) ≤ 0 := by
  have next_nonneg : ∀ j, 0 ≤ next.x.get j := by
    rw [next_eq]
    exact step_nonneg .standard options program state
  have columns := solution.columns_dot_nonneg next_nonneg
  have primal : (next.x.sub state.x).dot (next.x.sub star.x) / options.eta ≤
      -(program.c.dot (next.x.sub star.x) +
        (program.A.mulVec (next.x.sub star.x)).dot state.y) := by
    rw [div_le_iff₀ eta_pos]
    linarith [solution.variables_dot_le next_eq]
  have dual : (next.y.sub state.y).dot (next.y.sub star.y) / options.tau =
      (program.A.mulVec (next.x.sub star.x)).dot (next.y.sub star.y) +
      (program.A.mulVec (next.x.sub state.x)).dot (next.y.sub star.y) := by
    rw [solution.multipliers_dot next_eq, mul_div_cancel_left₀ _ tau_pos.ne']
  -- the extrapolation put the second product into `dual`, where the coupling cancels it
  simp only [pairing, State.sub]
  rw [dual, Vec.dot_comm (next.y.sub star.y), Vec.dot_comm (next.y.sub state.y),
    Vec.dot_sub (program.A.mulVec (next.x.sub star.x)),
    Vec.dot_sub (program.A.mulVec (next.x.sub star.x))]
  linarith

end Standard

section Inequality

variable {options : Options K} {program : Program K m p} {state star next : State K m p}

/-- What the step does to the multipliers, measured towards a solution. -/
theorem InequalitySolution.multipliers_dot_le (solution : InequalitySolution program star)
    (next_eq : next = step .inequality options program state) :
    (next.y.sub state.y).dot (next.y.sub star.y) ≤
      options.tau * ((program.A.mulVec state.x).sub program.b).dot (next.y.sub star.y) := by
  have y_eq : next.y = (state.y.along options.tau
      ((program.A.mulVec state.x).sub program.b)).project := by
    rw [next_eq]
    rfl
  have projected := project_sub_dot_nonpos (state.y.along options.tau
    ((program.A.mulVec state.x).sub program.b)) solution.nonneg
  have half := sub_along_dot state.y ((program.A.mulVec state.x).sub program.b)
    (next.y.sub star.y) options.tau
  rw [← y_eq, Vec.sub_dot] at projected
  rw [Vec.sub_dot] at half ⊢
  linarith

/-- What the step does to the variables, against any direction. -/
theorem InequalitySolution.variables_dot (solution : InequalitySolution program star)
    (next_eq : next = step .inequality options program state) (v : Vec K p) :
    (next.x.sub state.x).dot v = -(options.eta *
      ((program.A.mulVec v).dot (next.y.sub star.y) +
        (program.A.mulVec v).dot (next.y.sub state.y))) := by
  have x_eq : next.x = state.x.sub ((program.c.add
      (program.A.transposeMulVec (extrapolate next.y state.y))).scale options.eta) := by
    rw [next_eq]
    rfl
  have columns := solution.columns_dot v
  rw [x_eq, Vec.sub_dot, Vec.sub_dot, Vec.scale_dot, Vec.add_dot, Mat.transposeMulVec_dot,
    dot_extrapolate, Vec.dot_sub _ next.y star.y]
  have objective : program.c.dot v = -(program.A.mulVec v).dot star.y := by linarith
  rw [objective]
  ring

/-- The residual of the rows of a solution does not point away from nonnegative multipliers. -/
theorem InequalitySolution.rows_dot_nonpos (solution : InequalitySolution program star)
    {y : Vec K m} (nonneg : ∀ i, 0 ≤ y.get i) :
    ((program.A.mulVec star.x).sub program.b).dot (y.sub star.y) ≤ 0 := by
  rw [Vec.dot_sub, Vec.dot_comm _ star.y, solution.complementary, sub_zero, Vec.dot_eq]
  refine Finset.sum_nonpos fun i _ => ?_
  rw [Vec.get_sub]
  exact mul_nonpos_of_nonpos_of_nonneg (sub_nonpos.mpr (solution.rows i)) (nonneg i)

theorem InequalitySolution.pairing_nonpos (solution : InequalitySolution program star)
    (eta_pos : 0 < options.eta) (tau_pos : 0 < options.tau)
    (next_eq : next = step .inequality options program state) :
    pairing .inequality options program.A (next.sub state) (next.sub star) ≤ 0 := by
  have next_nonneg : ∀ i, 0 ≤ next.y.get i := by
    rw [next_eq]
    exact step_nonneg .inequality options program state
  have rows := solution.rows_dot_nonpos next_nonneg
  have dual : (next.y.sub state.y).dot (next.y.sub star.y) / options.tau ≤
      ((program.A.mulVec state.x).sub program.b).dot (next.y.sub star.y) := by
    rw [div_le_iff₀ tau_pos]
    linarith [solution.multipliers_dot_le next_eq]
  have primal : (next.x.sub state.x).dot (next.x.sub star.x) / options.eta =
      -((program.A.mulVec (next.x.sub star.x)).dot (next.y.sub star.y) +
        (program.A.mulVec (next.x.sub star.x)).dot (next.y.sub state.y)) := by
    rw [solution.variables_dot next_eq, neg_div, mul_div_cancel_left₀ _ eta_pos.ne']
  simp only [pairing, State.sub]
  rw [primal, Vec.dot_comm (next.y.sub star.y),
    Vec.dot_comm (next.y.sub state.y) (program.A.mulVec _),
    Mat.mulVec_sub _ next.x state.x, Mat.mulVec_sub _ next.x star.x]
  simp only [Vec.sub_dot (program.A.mulVec _)] at rows dual ⊢
  linarith

end Inequality

/-- In the metric of its form, a step brings every state closer to every solution, by at least the
length of the step. -/
theorem step_squaredLength_le (form : Form) {options : Options K} (eta_pos : 0 < options.eta)
    (tau_pos : 0 < options.tau) (program : Program K m p) (state : State K m p)
    {star : State K m p} (solution : IsSolution form program star) :
    squaredLength form options program.A ((step form options program state).sub star) ≤
      squaredLength form options program.A (state.sub star) -
        squaredLength form options program.A ((step form options program state).sub state) := by
  have inner : pairing form options program.A ((step form options program state).sub state)
      ((step form options program state).sub star) ≤ 0 := by
    cases form with
    | standard => exact StandardSolution.pairing_nonpos solution eta_pos tau_pos rfl
    | inequality => exact InequalitySolution.pairing_nonpos solution eta_pos tau_pos rfl
  have expanded := squaredLength_sub form options program.A
    ((step form options program state).sub star) ((step form options program state).sub state)
  rw [← State.sub_eq] at expanded
  linarith

/-- The best corner of the triangle with its multipliers is a solution in both forms, and the first
step leads towards it. -/
theorem triangle_squaredLength_le :
    ∃ options : Options Rat, 0 < options.eta ∧ 0 < options.tau ∧ ∀ form : Form,
      let program := form.program triangle
      let state := start form 3 (form.columns 3 2)
      ∃ star, IsSolution form program star ∧
        squaredLength form options program.A ((step form options program state).sub star) ≤
          squaredLength form options program.A (state.sub star) -
            squaredLength form options program.A
              ((step form options program state).sub state) := by
  have solution : ∀ form : Form, ∃ star, IsSolution form (form.program triangle) star := by
    intro form
    cases form with
    | standard =>
        refine ⟨⟨#v[1, 2, 0, 0, 0, 1, 0], #v[1, 0, 2]⟩, ?_⟩
        constructor <;> decide +kernel
    | inequality =>
        refine ⟨⟨#v[1, 2], #v[1, 0, 2]⟩, ?_⟩
        constructor <;> decide +kernel
  have quarter_pos : (0 : Rat) < 1 / 4 := by decide +kernel
  refine ⟨⟨false, false, 1000, 1 / 4, 1 / 4, 1 / 10000, false⟩, quarter_pos, quarter_pos,
    fun form => ?_⟩
  obtain ⟨star, solves⟩ := solution form
  exact ⟨star, solves, step_squaredLength_le form quarter_pos quarter_pos _ _ solves⟩

end PolyTrace.PrimalDual
