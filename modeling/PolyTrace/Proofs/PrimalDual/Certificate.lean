import Mathlib
import PolyTrace.Proofs.PrimalDual.Residuals
import PolyTrace.Proofs.PrimalDual.Trail

/-!
# What convergence of the primal-dual method certifies

The projection keeps one of the two vectors of a state nonnegative along every run: the variables of
the standard form, the multipliers of the inequality form.  A converged run ends at such a state
within the tolerance, and the bounds on its residuals become a certificate for the problem.

For the standard form the certificate is complete.  A run on the inequality form may stop at a
feasible point of any quality, as soon as the two objectives happen to agree.
-/

namespace PolyTrace.PrimalDual

open Matrix

variable {m n p q : Nat}

theorem Trail.nonneg {form : Form} {options : Options ℝ} {program : Program ℝ m p}
    {view : Vec ℝ p → Vec ℝ q} {state last : State ℝ m p} {iterates : List (Iterate ℝ m p q)}
    (trail : Trail form options program view state iterates last) (nonneg : state.Nonneg form) :
    last.Nonneg form := by
  induction trail with
  | here => exact nonneg
  | step _ _ _ inductionHypothesis => exact inductionHypothesis (step_nonneg form _ _ _)

/-- A converged run ends with the record of a state within the tolerance, in the orthant. -/
theorem exists_last_of_converged {form : Form} {options : Options ℝ} {program : Program ℝ m p}
    {view : Vec ℝ p → Vec ℝ q} {run : Run ℝ m p q}
    (finished : PrimalDual.run form options program view = .ok run)
    (converged : run.ending = .converged) :
    ∃ state shown, run.iterates.getLast? = some (iterateAt form program view state shown) ∧
      state.Nonneg form ∧ relativeError form program state ≤ options.tol := by
  obtain ⟨iterates, last, closing, trail, halts, recorded⟩ := loop_runs finished
  rw [converged] at halts
  cases halts with
  | @converged shown within violated =>
      refine ⟨last, shown, ?_, trail.nonneg (start_nonneg form), within⟩
      rw [recorded, List.getLast?_concat]

/-! ## Runs that are known to converge -/

/-- A program with a row has a largest violation at every state. -/
theorem exists_violation (form : Form) (program : Program ℝ (m + 1) p)
    (state : State ℝ (m + 1) p) : ∃ shown, violation form program state = .ok shown := by
  cases form with
  | standard => exact ⟨_, rfl⟩
  | inequality =>
      obtain ⟨value, attained⟩ := Vec.exists_largest?
        ((program.A.mulVec state.x).sub program.b).project
      refine ⟨value, ?_⟩
      unfold violation
      dsimp only
      rw [attained]

section Converging

variable {form : Form} {options : Options ℝ} {program : Program ℝ m p} {view : Vec ℝ p → Vec ℝ q}
  {state last : State ℝ m p} {iterates : List (Iterate ℝ m p q)} {shown : ℝ}

theorem loop_eq_finish (fuel : Nat) (seen : Array (Iterate ℝ m p q))
    (within : relativeError form program state ≤ options.tol) :
    loop form options program view fuel seen state (relativeError form program state) =
      finish form options program view seen state (relativeError form program state) := by
  cases fuel with
  | zero => rfl
  | succ fuel => exact if_neg (not_lt_of_ge within)

theorem record_of_violation (seen : Array (Iterate ℝ m p q))
    (violated : violation form program state = .ok shown) :
    record form program view seen state (relativeError form program state) =
      .ok (seen.push (iterateAt form program view state shown)) := by
  rw [record, violated]
  rfl

theorem finish_of_within (seen : Array (Iterate ℝ m p q))
    (within : relativeError form program state ≤ options.tol)
    (violated : violation form program state = .ok shown) :
    finish form options program view seen state (relativeError form program state) =
      .ok ⟨seen.toList ++ [iterateAt form program view state shown], .converged⟩ := by
  rw [finish, if_pos within, record_of_violation seen violated, ← Array.toList_push]
  rfl

/-- A loop that is given enough steps follows a trail up to a state within the tolerance, and
converges there. -/
theorem Trail.loop_eq (trail : Trail form options program view state iterates last)
    (within : relativeError form program last ≤ options.tol)
    (violated : violation form program last = .ok shown) {fuel : Nat}
    (enough : iterates.length ≤ fuel) (seen : Array (Iterate ℝ m p q)) :
    loop form options program view fuel seen state (relativeError form program state) =
      .ok ⟨seen.toList ++ iterates ++ [iterateAt form program view last shown], .converged⟩ := by
  induction trail generalizing fuel seen with
  | here state =>
      rw [loop_eq_finish fuel seen within, finish_of_within seen within violated,
        List.append_nil]
  | @step state last shownHere rest beyond violatedHere _ inductionHypothesis =>
      cases fuel with
      | zero => exact absurd enough (Nat.not_succ_le_zero _)
      | succ fuel =>
          have onward := inductionHypothesis within violated (Nat.le_of_succ_le_succ enough)
            (seen.push (iterateAt form program view state shownHere))
          rw [loop, if_pos beyond, record_of_violation seen violatedHere]
          -- no error is infinite over the real numbers, so that the loop goes on
          dsimp only [bind, Except.bind]
          rw [if_pos (Scalar.finite _), onward, Array.toList_push, List.append_assoc,
            List.append_assoc, List.append_assoc]
          rfl

/-- A first step from beyond the tolerance to within it is the whole run. -/
theorem run_eq_of_first_step {first : ℝ} (some_steps : 0 < options.maxit)
    (beyond : options.tol < relativeError form program (start form m p))
    (violatedStart : violation form program (start form m p) = .ok first)
    (next_eq : step form options program (start form m p) = state)
    (within : relativeError form program state ≤ options.tol)
    (violated : violation form program state = .ok shown) :
    run form options program view = .ok ⟨[iterateAt form program view (start form m p) first,
      iterateAt form program view state shown], .converged⟩ := by
  subst next_eq
  have trail : Trail form options program view (start form m p)
      [iterateAt form program view (start form m p) first]
      (step form options program (start form m p)) := .step beyond violatedStart (.here _)
  exact trail.loop_eq within violated some_steps #[]

end Converging

/-! ## Two runs of one step -/

/-- The default settings for a form. -/
noncomputable def defaults (ineq : Bool) : Options ℝ :=
  ⟨false, ineq, 1000, 1 / 4, 1 / 4, 1 / 10000, false⟩

/-- The largest number of which four times is at most one. -/
noncomputable def quarter : Problem ℝ 1 1 where
  A := #v[#v[4]]
  b := #v[1]
  c := #v[1]

theorem quarter_split : quarter.split = ⟨#v[#v[4, -4, 1]], #v[1], #v[-1, 1, 0]⟩ := by
  simp [quarter, Problem.split, Problem.splitMatrix, Mat.beside, Mat.neg, Vec.neg, Mat.identity,
    Mat.ofFn, Vec.zero, Vector.ofFn, Array.ofFn_succ]

theorem quarter_step : step .standard (defaults false) quarter.split (start .standard 1 3) =
    ⟨#v[1 / 4, 0, 0], #v[1 / 4]⟩ := by
  rw [quarter_split]
  simp [defaults, step, standardStep, start, extrapolate, Scalar.two, Scalar.larger_eq, Vec.add,
    Vec.sub, Vec.zero, Vec.scale, Vec.project, Vec.along, Vec.dot, Vec.sum, Mat.mulVec,
    Mat.transposeMulVec, Fin.foldl_succ, Vector.ofFn, Array.ofFn_succ, Array.replicate_succ]
  norm_num

theorem quarter_solution :
    IsSolution .standard quarter.split ⟨#v[1 / 4, 0, 0], #v[1 / 4]⟩ := by
  rw [quarter_split]
  constructor
  · simp [Fin.forall_fin_succ]
  · simp [Mat.get_mulVec_eq_sum, Fin.sum_univ_succ]
  · simp [Mat.get_transposeMulVec_eq_sum, Fin.forall_fin_succ]
  · simp [Mat.get_transposeMulVec_eq_sum, Fin.sum_univ_succ, Vec.dot_eq, dotProduct]

theorem quarter_start_beyond :
    (defaults false).tol < relativeError .standard quarter.split (start .standard 1 3) := by
  by_contra within
  obtain ⟨rows, -, -⟩ := residuals_le_of_standardError_le (le_of_not_gt within)
  have residual := (Vec.abs_get_le_norm _ 0).trans rows
  have norm_b : quarter.split.b.norm = 1 := by
    simp [quarter_split, Vec.norm_eq]
  rw [norm_b] at residual
  simp [quarter_split, start, Mat.get_mulVec_eq_sum, defaults] at residual
  norm_num at residual

theorem quarter_run : ∃ run, solve (defaults false) quarter = .ok run ∧
    run.ending = .converged := by
  have within : relativeError .standard quarter.split ⟨#v[1 / 4, 0, 0], #v[1 / 4]⟩ ≤
      (defaults false).tol := by
    rw [quarter_solution.relativeError_eq_zero]
    norm_num [defaults]
  exact ⟨_, run_eq_of_first_step (by decide) quarter_start_beyond rfl quarter_step within rfl, rfl⟩

/-- The points from zero to one, with an objective that grows with the point. -/
noncomputable def interval : Problem ℝ 2 1 where
  A := #v[#v[1], #v[-1]]
  b := #v[1, 0]
  c := #v[3 / 2]

/-- The interval in the inequality form. -/
noncomputable def intervalProgram : Program ℝ 2 1 :=
  ⟨#v[#v[1], #v[-1]], #v[1, 0], #v[-(3 / 2)]⟩

theorem interval_solve :
    solve (defaults true) interval = run .inequality (defaults true) intervalProgram id := by
  have program_eq : Program.mk interval.A interval.b interval.c.neg = intervalProgram := by
    simp [interval, intervalProgram, Vec.neg]
  exact congrArg (fun program => run .inequality (defaults true) program id) program_eq

theorem interval_step :
    step .inequality (defaults true) intervalProgram (start .inequality 2 1) =
      ⟨#v[1 / 2], #v[3 / 4, 1]⟩ := by
  simp [defaults, intervalProgram, step, inequalityStep, start, extrapolate, Scalar.two,
    Scalar.larger_eq, Vec.add, Vec.sub, Vec.zero, Vec.ones, Vec.scale, Vec.project, Vec.along,
    Vec.dot, Vec.sum, Mat.mulVec, Mat.transposeMulVec, Fin.foldl_succ, Vector.ofFn,
    Array.ofFn_succ, Array.replicate_succ]
  norm_num

/-- On the interval, the error is the gap of the two objectives. -/
theorem interval_error {state : State ℝ 2 1} (low : 0 ≤ state.x.get 0) (high : state.x.get 0 ≤ 1)
    (nonneg : ∀ i, 0 ≤ state.y.get i) :
    relativeError .inequality intervalProgram state =
      |state.y.get 0 - 3 / 2 * state.x.get 0| /
        (1 + 3 / 2 * state.x.get 0 + state.y.get 0) := by
  have rows : ∀ i, (intervalProgram.A.mulVec state.x).get i ≤ intervalProgram.b.get i := by
    simp [intervalProgram, Fin.forall_fin_two, Mat.get_mulVec_eq_sum, low, high]
  have primal : intervalProgram.c.dot state.x = -(3 / 2 * state.x.get 0) := by
    simp [intervalProgram, Vec.dot_eq, dotProduct]
  have dual : intervalProgram.b.dot state.y = state.y.get 0 := by
    simp [intervalProgram, Vec.dot_eq, dotProduct, Fin.sum_univ_two]
  refine (inequalityError_eq_relativeGap rows nonneg).trans ?_
  rw [relativeGap_eq, primal, dual, abs_neg, abs_of_nonneg (nonneg 0),
    abs_of_nonneg (mul_nonneg (by norm_num) low), neg_add_eq_sub]

theorem interval_run : ∃ first shown, solve (defaults true) interval =
    .ok ⟨[iterateAt .inequality intervalProgram id (start .inequality 2 1) first,
      iterateAt .inequality intervalProgram id ⟨#v[1 / 2], #v[3 / 4, 1]⟩ shown], .converged⟩ := by
  obtain ⟨first, violatedStart⟩ :=
    exists_violation .inequality intervalProgram (start .inequality 2 1)
  obtain ⟨shown, violated⟩ :=
    exists_violation .inequality intervalProgram ⟨#v[1 / 2], #v[3 / 4, 1]⟩
  have beyond : (defaults true).tol <
      relativeError .inequality intervalProgram (start .inequality 2 1) := by
    rw [interval_error] <;> simp [start, defaults]
    norm_num
  have within : relativeError .inequality intervalProgram ⟨#v[1 / 2], #v[3 / 4, 1]⟩ ≤
      (defaults true).tol := by
    rw [interval_error] <;> simp [Fin.forall_fin_two, defaults] <;> norm_num
  refine ⟨first, shown, ?_⟩
  rw [interval_solve]
  exact run_eq_of_first_step (by decide) beyond violatedStart interval_step within violated

/-! ## The certificates -/

/-- A converged run on the standard form over the real numbers ends at a point that satisfies every
row up to the tolerance, relative to the bounds, and whose objective no feasible point exceeds by
more than the relative gap and the relative residual of the columns allow. -/
theorem solve_standard_certificate {problem : Problem ℝ m n} {options : Options ℝ}
    (standard : options.ineq = false) {run : Run ℝ m (options.form.columns m n) n}
    (finished : solve options problem = .ok run) (converged : run.ending = .converged) :
    ∃ last, run.iterates.getLast? = some last ∧ last.point = options.form.point last.x ∧
      (∀ i, (problem.A.mulVec last.point).get i ≤
        problem.b.get i + options.tol * (1 + problem.b.norm)) ∧
      ∀ x, problem.Feasible x →
        problem.c.dot x ≤ problem.c.dot last.point +
          options.tol * (1 + |problem.c.dot last.point| + |problem.b.dot last.y|) +
          options.tol * (1 + problem.split.c.norm) *
            Vec.norm (Vector.ofFn (Split.ofPoint problem x)) := by
  obtain ⟨verbose, ineq, maxit, eta, tau, tol, showBasis⟩ := options
  dsimp only at standard
  subst standard
  obtain ⟨state, shown, last_eq, nonneg, within⟩ := exists_last_of_converged finished converged
  refine ⟨_, last_eq, rfl, ?_, ?_⟩
  · intro i
    exact mulVec_unsplit_le within nonneg i
  · intro x feasible
    exact dot_le_of_split_error_le within feasible

/-- The run on the quarter converges with the default settings. -/
theorem quarter_certificate :
    ∃ run, solve (defaults false) quarter = .ok run ∧ run.ending = .converged ∧
      ∃ last, run.iterates.getLast? = some last ∧ last.point = unsplit last.x ∧
        (∀ i, (quarter.A.mulVec last.point).get i ≤
          quarter.b.get i + 1 / 10000 * (1 + quarter.b.norm)) ∧
        ∀ x, quarter.Feasible x →
          quarter.c.dot x ≤ quarter.c.dot last.point +
            1 / 10000 * (1 + |quarter.c.dot last.point| + |quarter.b.dot last.y|) +
            1 / 10000 * (1 + quarter.split.c.norm) *
              Vec.norm (Vector.ofFn (Split.ofPoint quarter x)) := by
  obtain ⟨run, finished, converged⟩ := quarter_run
  exact ⟨run, finished, converged, solve_standard_certificate rfl finished converged⟩

/-- A converged run on the inequality form over the real numbers ends at nonnegative multipliers and
a point that satisfies every row up to the tolerance, relative to the bounds.  No feasible point
exceeds its objective by more than the relative gap allows, up to the distance of the columns of the
multipliers from the objective. -/
theorem solve_inequality_certificate {problem : Problem ℝ m n} {options : Options ℝ}
    (inequality : options.ineq = true) {run : Run ℝ m (options.form.columns m n) n}
    (finished : solve options problem = .ok run) (converged : run.ending = .converged) :
    ∃ last, run.iterates.getLast? = some last ∧ last.point = options.form.point last.x ∧
      (∀ i, 0 ≤ last.y.get i) ∧
      (∀ i, (problem.A.mulVec last.point).get i ≤
        problem.b.get i + options.tol * (1 + problem.b.norm)) ∧
      ∀ x, problem.Feasible x →
        problem.c.dot x ≤ problem.c.dot last.point +
          options.tol * (1 + |problem.c.dot last.point| + |problem.b.dot last.y|) +
          ((problem.A.transposeMulVec last.y).sub problem.c).norm * x.norm := by
  obtain ⟨verbose, ineq, maxit, eta, tau, tol, showBasis⟩ := options
  dsimp only at inequality
  subst inequality
  obtain ⟨state, shown, last_eq, nonneg, within⟩ := exists_last_of_converged finished converged
  refine ⟨_, last_eq, rfl, nonneg, ?_, ?_⟩
  · intro i
    exact mulVec_le_of_inequalityError_le within i
  · intro x feasible
    exact dot_le_of_negated_error_le within nonneg feasible

/-- The run on the interval converges with the default settings. -/
theorem interval_certificate :
    ∃ run, solve (defaults true) interval = .ok run ∧ run.ending = .converged ∧
      ∃ last, run.iterates.getLast? = some last ∧ last.point = last.x ∧
        (∀ i, 0 ≤ last.y.get i) ∧
        (∀ i, (interval.A.mulVec last.point).get i ≤
          interval.b.get i + 1 / 10000 * (1 + interval.b.norm)) ∧
        ∀ x, interval.Feasible x →
          interval.c.dot x ≤ interval.c.dot last.point +
            1 / 10000 * (1 + |interval.c.dot last.point| + |interval.b.dot last.y|) +
            ((interval.A.transposeMulVec last.y).sub interval.c).norm * x.norm := by
  obtain ⟨first, shown, finished⟩ := interval_run
  exact ⟨_, finished, rfl, solve_inequality_certificate rfl finished rfl⟩

/-- The run on the interval converges half way to the best point.  The two objectives agree there,
but the columns of the multipliers are not close to the objective, and the bound that a small
residual of the columns would give fails. -/
theorem interval_converged_short :
    ∃ run, solve (defaults true) interval = .ok run ∧ run.ending = .converged ∧
      ∃ last, run.iterates.getLast? = some last ∧ last.point = #v[1 / 2] ∧
        interval.Feasible #v[1] ∧
        interval.c.dot last.point +
            1 / 10000 * (1 + |interval.c.dot last.point| + |interval.b.dot last.y|) +
            1 / 10000 * (1 + interval.c.norm) * Vec.norm #v[1] < interval.c.dot #v[1] := by
  obtain ⟨first, shown, finished⟩ := interval_run
  -- both objectives are `3 / 4` at the last state, so that its error is zero; but its multipliers
  -- `3 / 4` and `1` combine the rows to `-1 / 4`, and the objective is `3 / 2`
  refine ⟨_, finished, rfl, _, rfl, rfl, ?_, ?_⟩
  · simp [Problem.Feasible, interval, Fin.forall_fin_two, Mat.get_mulVec_eq_sum]
  · have objective : interval.c.dot #v[1] = 3 / 2 := by
      simp [interval, Vec.dot_eq, dotProduct]
    have primal : interval.c.dot #v[1 / 2] = 3 / 4 := by
      simp [interval, Vec.dot_eq, dotProduct]
      norm_num
    have dual : interval.b.dot #v[3 / 4, 1] = 3 / 4 := by
      simp [interval, Vec.dot_eq, dotProduct, Fin.sum_univ_two]
    have norm_c : interval.c.norm = 3 / 2 := by
      rw [Vec.norm_eq, Fin.sum_univ_one]
      exact Real.sqrt_sq (show (0 : ℝ) ≤ 3 / 2 by norm_num)
    have norm_one : Vec.norm (#v[1] : Vec ℝ 1) = 1 := by
      simp [Vec.norm_eq]
    change interval.c.dot #v[1 / 2] + 1 / 10000 *
      (1 + |interval.c.dot #v[1 / 2]| + |interval.b.dot #v[3 / 4, 1]|) + _ < _
    rw [objective, primal, dual, norm_c, norm_one]
    norm_num

end PolyTrace.PrimalDual
