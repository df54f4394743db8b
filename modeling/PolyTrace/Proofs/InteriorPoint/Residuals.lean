import Mathlib
import PolyTrace.Proofs.InteriorPoint.Trail
import PolyTrace.Proofs.Linear.Matrix

/-!
# The residuals of a point and the tests on them

The method works on the negated problem.  What it measures at a point is, in the data of the problem
itself, how far the rows completed by the slacks are from their bounds, how far the columns of the
multipliers are from the objective, and the relative gap between the two objectives.  A point passes
the tests exactly when each of the three stays within its tolerance.
-/

namespace PolyTrace.InteriorPoint

section Notions

variable {K : Type} [Scalar K] {m n : Nat}

/-- How far the rows of a problem, completed by the slacks of a point, are from their bounds. -/
def rowResidual (problem : Problem K m n) (point : Point K m n) : Vec K m :=
  ((problem.A.mulVec point.x).add point.s).sub problem.b

/-- How far the columns of the multipliers of a point are from the objective of a problem. -/
def columnResidual (problem : Problem K m n) (point : Point K m n) : Vec K n :=
  (problem.A.transposeMulVec point.y).sub problem.c

end Notions

variable {K : Type} [ExactScalar K] {m n : Nat}

/-! ## The residuals in terms of the problem -/

theorem get_rows_residual (problem : Problem K m n) (point : Point K m n) (i : Fin m) :
    (residuals problem.negated point).rows.get i =
      (problem.A.mulVec point.x).get i + point.s.get i - problem.b.get i := by
  simp only [residuals, Problem.negated, Mat.neg_mulVec, Vec.get_sub, Vec.get_neg]
  ring

theorem get_columns_residual (problem : Problem K m n) (point : Point K m n) (j : Fin n) :
    (residuals problem.negated point).columns.get j =
      (problem.A.transposeMulVec point.y).get j - problem.c.get j := by
  simp only [residuals, Problem.negated, Mat.neg_transposeMulVec, Vec.get_sub, Vec.get_neg]
  ring

theorem rows_residuals (problem : Problem K m n) (point : Point K m n) :
    (residuals problem.negated point).rows = rowResidual problem point := by
  apply Vec.ext_get
  intro i
  rw [get_rows_residual, rowResidual, Vec.get_sub, Vec.get_add]

theorem columns_residuals (problem : Problem K m n) (point : Point K m n) :
    (residuals problem.negated point).columns = columnResidual problem point := by
  apply Vec.ext_get
  intro j
  rw [get_columns_residual, columnResidual, Vec.get_sub]

theorem gap_residual (problem : Problem K m n) (point : Point K m n) :
    (residuals problem.negated point).gap =
      |problem.b.dot point.y - problem.c.dot point.x| / (1 + |problem.c.dot point.x|) := by
  simp only [residuals, Problem.negated, Vec.neg_dot, Scalar.abs_eq, abs_neg]
  rw [neg_sub_neg]

/-! ## The tests -/

/-- An extremum bounds every entry. -/
theorem abs_le_of_extremum {u : Vec K n} {bound : K} (attained : extremum u = .ok bound)
    (i : Fin n) : |u.get i| ≤ bound := by
  unfold extremum at attained
  split at attained
  · rename_i found
    cases attained
    exact Vec.abs_get_le_of_largestAbs? found i
  · cases attained

/-- An extremum is the absolute value of an entry. -/
theorem exists_abs_eq_of_extremum {u : Vec K n} {bound : K} (attained : extremum u = .ok bound) :
    ∃ i, |u.get i| = bound := by
  unfold extremum at attained
  split at attained
  · rename_i found
    cases attained
    exact Vec.exists_abs_get_eq_of_largestAbs? found
  · cases attained

/-- What the three tests say of a point that passes them. -/
theorem tests_of_hasConverged {options : Options K} {here : Residuals K m n} {infeasibility : K}
    (passed : hasConverged options here infeasibility = .ok true) :
    infeasibility ≤ options.epsP ∧ (∀ j, |here.columns.get j| ≤ options.epsD) ∧
      here.gap ≤ options.epsOpt := by
  unfold hasConverged at passed
  split at passed
  · rename_i rowsPassed
    cases found : extremum here.columns with
    | error cause =>
        rw [found] at passed
        cases passed
    | ok bound =>
        rw [found] at passed
        have decided := of_decide_eq_true (Except.ok.inj passed)
        exact ⟨rowsPassed, fun j => (abs_le_of_extremum found j).trans decided.1, decided.2⟩
  · cases passed

/-- A point is within the tolerances. -/
structure Passes (options : Options K) (problem : Problem K m n) (point : Point K m n) : Prop where
  rows : ∀ i, |(rowResidual problem point).get i| ≤ options.epsP
  columns : ∀ j, |(columnResidual problem point).get j| ≤ options.epsD
  gap : |problem.b.dot point.y - problem.c.dot point.x| / (1 + |problem.c.dot point.x|) ≤
    options.epsOpt

/-- The verdict of the tests is whether the point is within the tolerances. -/
theorem Verdict.eq_true_iff_passes {options : Options K} {problem : Problem K m n}
    {point : Point K m n} {infeasibility : K} {converged : Bool}
    (verdict : Verdict options problem.negated point infeasibility converged) :
    converged = true ↔ Passes options problem point := by
  obtain ⟨rows, tests⟩ := verdict
  constructor
  · rintro rfl
    obtain ⟨rowsPassed, columnsPassed, gapPassed⟩ := tests_of_hasConverged tests
    refine ⟨fun i => ?_, fun j => ?_, ?_⟩
    · rw [← rows_residuals]
      exact (abs_le_of_extremum rows i).trans rowsPassed
    · rw [← columns_residuals]
      exact columnsPassed j
    · rw [← gap_residual]
      exact gapPassed
  · intro passes
    have rowsPassed : infeasibility ≤ options.epsP := by
      obtain ⟨i, rfl⟩ := exists_abs_eq_of_extremum rows
      rw [rows_residuals]
      exact passes.rows i
    rw [hasConverged, if_pos rowsPassed] at tests
    cases found : extremum (residuals problem.negated point).columns with
    | error cause =>
        rw [found] at tests
        cases tests
    | ok bound =>
        rw [found] at tests
        have columnsPassed : bound ≤ options.epsD := by
          obtain ⟨j, rfl⟩ := exists_abs_eq_of_extremum found
          rw [columns_residuals]
          exact passes.columns j
        rw [← Except.ok.inj tests]
        refine decide_eq_true ⟨columnsPassed, ?_⟩
        rw [gap_residual]
        exact passes.gap

end PolyTrace.InteriorPoint
