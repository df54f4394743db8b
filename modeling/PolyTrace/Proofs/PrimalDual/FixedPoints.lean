import Mathlib
import PolyTrace.Proofs.PrimalDual.Certificate

/-!
# A step stays at the solutions and nowhere else

A projected step from a vector stays there exactly when the vector and its gradient are nonnegative
and complementary, and a step that is not projected when its gradient vanishes.  Where the first
half of a step stays, the extrapolated vector is the vector itself, so that both halves look at one
state.  What they ask of it are the conditions of a solution, and there the relative error is zero.
-/

namespace PolyTrace.PrimalDual

variable {K : Type} [ExactScalar K] {m p : Nat}

/-! ## Steps that stay -/

section Vectors

variable {n : Nat} {t : K}

theorem max_sub_mul_eq_iff (t_pos : 0 < t) (a g : K) :
    max (a - t * g) 0 = a ↔ 0 ≤ a ∧ 0 ≤ g ∧ a * g = 0 := by
  constructor
  · intro stays
    have a_nonneg : 0 ≤ a := (le_max_right _ _).trans_eq stays
    have taken : a - t * g ≤ a := (le_max_left _ _).trans_eq stays
    have g_nonneg : 0 ≤ g := (mul_nonneg_iff_of_pos_left t_pos).mp (sub_le_self_iff a |>.mp taken)
    refine ⟨a_nonneg, g_nonneg, ?_⟩
    rcases max_choice (a - t * g) 0 with inside | outside
    · have nothing : t * g = 0 := sub_eq_self.mp (inside.symm.trans stays)
      rw [(mul_eq_zero.mp nothing).resolve_left t_pos.ne', mul_zero]
    · rw [← stays, outside, zero_mul]
  · rintro ⟨a_nonneg, g_nonneg, complementary⟩
    rcases mul_eq_zero.mp complementary with rfl | rfl
    · exact max_eq_right (sub_nonpos.mpr (mul_nonneg t_pos.le g_nonneg))
    · rw [mul_zero, sub_zero, max_eq_left a_nonneg]

/-- A projected step stays at a vector that is complementary to its gradient. -/
theorem project_sub_scale_eq_iff (t_pos : 0 < t) (v g : Vec K n) :
    (v.sub (g.scale t)).project = v ↔
      (∀ i, 0 ≤ v.get i) ∧ (∀ i, 0 ≤ g.get i) ∧ v.dot g = 0 := by
  have entries : (v.sub (g.scale t)).project = v ↔
      ∀ i, 0 ≤ v.get i ∧ 0 ≤ g.get i ∧ v.get i * g.get i = 0 := by
    rw [Vec.ext_get_iff]
    simp only [Vec.get_project, Vec.get_sub, Vec.get_scale, max_sub_mul_eq_iff t_pos]
  rw [entries, forall_and, forall_and]
  exact and_congr_right fun v_nonneg => and_congr_right fun g_nonneg =>
    (Vec.dot_eq_zero_iff_of_nonneg v_nonneg g_nonneg).symm

theorem sub_scale_eq_iff (t_pos : 0 < t) (v g : Vec K n) :
    v.sub (g.scale t) = v ↔ ∀ i, g.get i = 0 := by
  rw [Vec.ext_get_iff]
  simp only [Vec.get_sub, Vec.get_scale, sub_eq_self, mul_eq_zero, t_pos.ne', false_or]

theorem along_eq_sub_scale_neg (v d : Vec K n) (t : K) :
    v.along t d = v.sub (d.neg.scale t) := by
  apply Vec.ext_get
  intro i
  rw [Vec.get_along, Vec.get_sub, Vec.get_scale, Vec.get_neg, mul_neg, sub_neg_eq_add]

theorem extrapolate_self (u : Vec K n) : extrapolate u u = u := by
  apply Vec.ext_get
  intro i
  rw [extrapolate, Scalar.two, Vec.get_sub, Vec.get_scale]
  ring

end Vectors

/-! ## The two forms -/

section Forms

variable {eta tau : K}

theorem standardStep_eq_iff (eta_pos : 0 < eta) (tau_pos : 0 < tau) (program : Program K m p)
    (state : State K m p) :
    standardStep eta tau program state = state ↔ StandardSolution program state := by
  obtain ⟨x, y⟩ := state
  have halves : standardStep eta tau program ⟨x, y⟩ = ⟨x, y⟩ ↔
      (x.sub ((program.c.add (program.A.transposeMulVec y)).scale eta)).project = x ∧
        y.along tau ((program.A.mulVec x).sub program.b) = y := by
    simp only [standardStep, State.mk.injEq]
    refine and_congr_right fun stays => ?_
    rw [stays, extrapolate_self]
  rw [halves, project_sub_scale_eq_iff eta_pos, along_eq_sub_scale_neg, sub_scale_eq_iff tau_pos]
  simp only [Vec.get_add, Vec.get_neg, Vec.get_sub, neg_eq_zero, sub_eq_zero]
  constructor
  · rintro ⟨⟨nonneg, columns, complementary⟩, rows⟩
    exact ⟨nonneg, rows, columns, complementary⟩
  · rintro ⟨nonneg, rows, columns, complementary⟩
    exact ⟨⟨nonneg, columns, complementary⟩, rows⟩

theorem inequalityStep_eq_iff (eta_pos : 0 < eta) (tau_pos : 0 < tau) (program : Program K m p)
    (state : State K m p) :
    inequalityStep eta tau program state = state ↔ InequalitySolution program state := by
  obtain ⟨x, y⟩ := state
  have halves : inequalityStep eta tau program ⟨x, y⟩ = ⟨x, y⟩ ↔
      (y.along tau ((program.A.mulVec x).sub program.b)).project = y ∧
        x.sub ((program.c.add (program.A.transposeMulVec y)).scale eta) = x := by
    simp only [inequalityStep, State.mk.injEq]
    rw [and_comm]
    refine and_congr_right fun stays => ?_
    rw [stays, extrapolate_self]
  rw [halves, along_eq_sub_scale_neg, project_sub_scale_eq_iff tau_pos, sub_scale_eq_iff eta_pos]
  simp only [Vec.get_add, Vec.get_neg, Vec.get_sub, Vec.dot_neg, neg_eq_zero, neg_nonneg,
    sub_nonpos]
  constructor
  · rintro ⟨⟨nonneg, rows, complementary⟩, columns⟩
    exact ⟨rows, nonneg, columns, complementary⟩
  · rintro ⟨rows, nonneg, columns, complementary⟩
    exact ⟨⟨nonneg, rows, complementary⟩, columns⟩

end Forms

/-- In either form, over any exact arithmetic and with any step lengths, a step stays at the
solutions of the program and nowhere else.  Over the real numbers, where errors are measured, the
relative error of a solution is zero. -/
theorem step_eq_iff_isSolution (form : Form) (m p : Nat) :
    (∀ {K : Type} [ExactScalar K] (options : Options K), 0 < options.eta → 0 < options.tau →
      ∀ (program : Program K m p) (state : State K m p),
        step form options program state = state ↔ IsSolution form program state) ∧
    ∀ (program : Program ℝ m p) (state : State ℝ m p),
      IsSolution form program state → relativeError form program state = 0 := by
  constructor
  · intro K _ options eta_pos tau_pos program state
    cases form with
    | standard => exact standardStep_eq_iff eta_pos tau_pos program state
    | inequality => exact inequalityStep_eq_iff eta_pos tau_pos program state
  · intro program state solution
    exact solution.relativeError_eq_zero

/-- The best point of the quarter, in the standard form, and that of the interval, in the inequality
form, stay where they are. -/
theorem best_points_stay :
    (step .standard (defaults false) quarter.split ⟨#v[1 / 4, 0, 0], #v[1 / 4]⟩ =
        ⟨#v[1 / 4, 0, 0], #v[1 / 4]⟩ ∧
      relativeError .standard quarter.split ⟨#v[1 / 4, 0, 0], #v[1 / 4]⟩ = 0) ∧
    step .inequality (defaults true) intervalProgram ⟨#v[1], #v[3 / 2, 0]⟩ =
        ⟨#v[1], #v[3 / 2, 0]⟩ ∧
      relativeError .inequality intervalProgram ⟨#v[1], #v[3 / 2, 0]⟩ = 0 := by
  have lengths_pos : ∀ ineq, 0 < (defaults ineq).eta ∧ 0 < (defaults ineq).tau := by
    intro ineq
    norm_num [defaults]
  have interval_solution :
      IsSolution .inequality intervalProgram ⟨#v[1], #v[3 / 2, 0]⟩ := by
    have multiplier_nonneg : (0 : ℝ) ≤ 3 / 2 := by norm_num
    constructor
    · simp [intervalProgram, Mat.get_mulVec_eq_sum, Fin.forall_fin_two]
    · simpa [Fin.forall_fin_two] using multiplier_nonneg
    · simp [intervalProgram, Mat.get_transposeMulVec_eq_sum, Fin.sum_univ_two]
    · simp [intervalProgram, Mat.get_mulVec_eq_sum, Fin.sum_univ_two, Vec.dot_eq, dotProduct]
  constructor
  · obtain ⟨stays, error⟩ := step_eq_iff_isSolution .standard 1 3
    exact ⟨(stays _ (lengths_pos false).1 (lengths_pos false).2 _ _).mpr quarter_solution,
      error _ _ quarter_solution⟩
  · obtain ⟨stays, error⟩ := step_eq_iff_isSolution .inequality 2 1
    exact ⟨(stays _ (lengths_pos true).1 (lengths_pos true).2 _ _).mpr interval_solution,
      error _ _ interval_solution⟩

end PolyTrace.PrimalDual
