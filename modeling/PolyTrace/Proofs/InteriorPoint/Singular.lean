import Mathlib
import PolyTrace.Proofs.InteriorPoint.Conditions
import PolyTrace.Proofs.InteriorPoint.Orthant
import PolyTrace.Proofs.Service.Runs

/-!
# When a run meets a singular system

Whether there is a step at a point inside the orthant does not depend on the point: there is one
exactly when the columns of the problem are independent.  A damped run stays inside, so that it
meets a singular system at its start or never.

It does so when the columns are dependent and the tests do not accept the starting point.
-/

namespace PolyTrace.InteriorPoint

/-- The run was stopped by a singular system. -/
def Run.Singular {K : Type} {m n : Nat} (run : Run K m n) : Prop :=
  ∃ iteration cause, run.ending = .aborted iteration cause ∧ cause.kind = .singular

/-- A run stops at a point where there is no step. -/
theorem loop_eq_aborted {K : Type} [Scalar K] {m n : Nat} {options : Options K}
    {program : Program K m n} {point : Point K m n} {infeasibility : K} {cause : Failure K}
    (verdict : Verdict options program point infeasibility false)
    (failed : stepAt program point = .error (.failure cause)) (fuel : Nat)
    (seen : Array (Iterate K m n)) :
    loop options program (fuel + 1) point seen =
      .ok ⟨(seen.push (record program point infeasibility)).toList,
        .aborted (seen.push (record program point infeasibility)).size cause⟩ := by
  unfold stepAt at failed
  dsimp only at failed
  unfold loop
  dsimp only [bind, Except.bind]
  rw [verdict.rows]
  dsimp only
  rw [verdict.tests]
  dsimp only
  rw [failed]
  rfl

variable {K : Type} [ExactScalar K] {m n : Nat}

/-! ## At a point inside the orthant -/

section Inside

variable {options : Options K} {program : Program K m n} {point last : Point K m n}
  {iterates : List (Iterate K m n)}

/-- There is no step exactly when the columns are dependent. -/
theorem exists_stepAt_failure_iff (unknowns : 0 < n) (positive : point.Positive) :
    (∃ cause, stepAt program point = .error (.failure cause)) ↔
      ¬ LinearIndependent K program.A.matrix.col := by
  rw [← exists_factorize_system_iff unknowns positive.slacks positive.multipliers]
  unfold stepAt
  simp only [direction_eq_failure_iff]
  constructor
  · rintro ⟨cause, refused⟩ ⟨factors, accepted⟩
    rw [accepted] at refused
    cases refused
  · intro noFactors
    cases accepted : factorize (system program.A point.s point.y) with
    | error cause => exact ⟨cause, rfl⟩
    | ok factors => exact absurd ⟨factors, accepted⟩ noFactors

/-- Where there is no step, the reason is a singular system. -/
theorem kind_of_stepAt (unknowns : 0 < n) {cause : Failure K}
    (failed : stepAt program point = .error (.failure cause)) : cause.kind = .singular := by
  have kind := kind_of_factorize (direction_eq_failure_iff.mp failed)
  rwa [if_neg (by omega)] at kind

/-- With dependent columns, a run does not leave its first point. -/
theorem Trail.eq_here (unknowns : 0 < n) (positive : point.Positive)
    (dependent : ¬ LinearIndependent K program.A.matrix.col)
    (trail : Trail options program point iterates last) : iterates = [] ∧ last = point := by
  cases trail with
  | here => exact ⟨rfl, rfl⟩
  | step _ found _ =>
      obtain ⟨cause, failed⟩ := (exists_stepAt_failure_iff unknowns positive).mpr dependent
      rw [failed] at found
      cases found

end Inside

/-! ## A whole run -/

section Runs

variable {options : Options K} {problem : Problem K m n} {run : Run K m n}

/-- A damped run that meets a singular system does so at its start, which the tests did not accept,
and the columns are dependent. -/
theorem Run.Singular.cause (valid : options.Valid) (damped : options.alphaMax < 1)
    (unknowns : 0 < n) (finished : solve options problem = .ok run) (singular : run.Singular) :
    0 < m ∧ ¬ LinearIndependent K problem.A.matrix.col ∧
      ¬ Passes options problem (start m n) ∧ run.iterates.map (·.toPoint) = [start m n] := by
  obtain ⟨iteration, reason, ending, -⟩ := singular
  obtain ⟨iterates, last, infeasibility, trail, recorded, halts⟩ := loop_eq_ok finished
  rw [ending] at halts
  cases halts with
  | aborted verdict _ failed =>
      have positive := trail.positive valid damped start_positive
      have dependent := (exists_stepAt_failure_iff unknowns positive).mp ⟨reason, failed⟩
      obtain ⟨rfl, rfl⟩ := trail.eq_here unknowns start_positive dependent
      obtain ⟨row, -⟩ := exists_abs_eq_of_extremum verdict.rows
      refine ⟨row.pos, ?_, ?_, ?_⟩
      · rwa [Problem.negated, Mat.linearIndependent_col_neg] at dependent
      · intro passes
        exact absurd (verdict.eq_true_iff_passes.mpr passes) Bool.false_ne_true
      · rw [recorded]
        rfl

/-- With dependent columns and a starting point that the tests do not accept, a run meets a singular
system. -/
theorem exists_singular_run (valid : options.Valid) (rows : 0 < m) (unknowns : 0 < n)
    (dependent : ¬ LinearIndependent K problem.A.matrix.col)
    (refused : ¬ Passes options problem (start m n)) :
    ∃ run, solve options problem = .ok run ∧ run.Singular := by
  obtain ⟨infeasibility, converged, attained, judged⟩ :=
    exists_verdict rows unknowns options (residuals problem.negated (start m n))
  have verdict : Verdict options problem.negated (start m n) infeasibility converged :=
    ⟨attained, judged⟩
  cases converged with
  | true => exact absurd (verdict.eq_true_iff_passes.mp rfl) refused
  | false =>
      have negated : ¬ LinearIndependent K problem.negated.A.matrix.col := by
        rwa [Problem.negated, Mat.linearIndependent_col_neg]
      obtain ⟨cause, failed⟩ := (exists_stepAt_failure_iff unknowns start_positive).mpr negated
      obtain ⟨fuel, steps⟩ := Nat.exists_eq_add_of_le' valid.one_le_maxit
      have stopped := loop_eq_aborted verdict failed fuel #[]
      rw [← steps] at stopped
      exact ⟨_, stopped, _, cause, rfl, kind_of_stepAt unknowns failed⟩

end Runs

/-- A damped run of the interior point method over the fractions is stopped by a singular system
exactly when the problem has rows, the columns of its matrix are dependent, and the starting point
is not within the tolerances.  It has then recorded the starting point alone. -/
theorem solve_singular_iff {options : Options Rat} (valid : options.Valid)
    (damped : options.alphaMax < 1) (unknowns : 0 < n) (problem : Problem Rat m n) :
    ((∃ run, solve options problem = .ok run ∧ run.Singular) ↔
      0 < m ∧ ¬ LinearIndependent Rat problem.A.matrix.col ∧
        ¬ Passes options problem (start m n)) ∧
    ∀ run, solve options problem = .ok run → run.Singular →
      run.iterates.map (·.toPoint) = [start m n] := by
  refine ⟨⟨?_, ?_⟩, ?_⟩
  · rintro ⟨run, finished, singular⟩
    obtain ⟨rows, dependent, refused, -⟩ := singular.cause valid damped unknowns finished
    exact ⟨rows, dependent, refused⟩
  · rintro ⟨rows, dependent, refused⟩
    exact exists_singular_run valid rows unknowns dependent refused
  · intro run finished singular
    exact (singular.cause valid damped unknowns finished).2.2.2

/-- Of two variables, only the first is bounded, and the objective is the second. -/
def halfPlane : Problem Rat 1 2 where
  A := #v[#v[2, 0]]
  b := #v[3]
  c := #v[0, 1]

/-- The run on the half plane is stopped at its start. -/
theorem halfPlane_singular :
    (∃ run, solve .coarse halfPlane = .ok run ∧ run.Singular) ∧
      ∀ run, solve .coarse halfPlane = .ok run → run.Singular →
        run.iterates.map (·.toPoint) = [start 1 2] := by
  have dependent : ¬ LinearIndependent Rat halfPlane.A.matrix.col := by
    rw [Mat.linearIndependent_col_iff]
    intro onlyZero
    have second := onlyZero ![0, 1] (by decide +kernel)
    exact absurd (congrFun second 1) (by decide +kernel)
  have refused : ¬ Passes Options.coarse halfPlane (start 1 2) := by
    intro passes
    exact absurd (passes.rows 0) (by decide +kernel)
  obtain ⟨singular_iff, recorded⟩ :=
    solve_singular_iff Options.coarse_valid (by decide +kernel) Nat.two_pos halfPlane
  exact ⟨singular_iff.mpr ⟨Nat.one_pos, dependent, refused⟩, recorded⟩

end PolyTrace.InteriorPoint
