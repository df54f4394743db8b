import Mathlib
import PolyTrace.Proofs.InteriorPoint.Orthant
import PolyTrace.Proofs.Problem.Optimality

/-!
# Convergence of the interior point method is a certificate

The slacks and the multipliers stay nonnegative along every run.  At a point that passes the three
tests they are therefore a certificate: the rows and the columns of the problem hold up to the
tolerances, and weak duality bounds the objective of every feasible point.  The method works on the
negated problem, so that every sign is carried back.
-/

namespace PolyTrace.InteriorPoint

open Problem (triangle)

variable {K : Type} [ExactScalar K] {m n : Nat}

/-! ## The certificate -/

section Certificate

variable {options : Options K} {problem : Problem K m n} {point : Point K m n} {infeasibility : K}

theorem Verdict.rows_le (verdict : Verdict options problem.negated point infeasibility true)
    (nonneg : point.Nonneg) (i : Fin m) :
    (problem.A.mulVec point.x).get i ≤ problem.b.get i + options.epsP := by
  have residual := (abs_le_of_extremum verdict.rows i).trans
    (tests_of_hasConverged verdict.tests).1
  rw [get_rows_residual] at residual
  have slack := nonneg.slacks i
  have upper := (le_abs_self _).trans residual
  linarith

theorem Verdict.columns_le (verdict : Verdict options problem.negated point infeasibility true)
    (j : Fin n) :
    |(problem.A.transposeMulVec point.y).get j - problem.c.get j| ≤ options.epsD := by
  rw [← get_columns_residual]
  exact (tests_of_hasConverged verdict.tests).2.1 j

/-- The multipliers of a point that passes the tests bound the objective at every feasible point. -/
theorem Verdict.dot_le (verdict : Verdict options problem.negated point infeasibility true)
    (nonneg : point.Nonneg) {x : Vec K n} (feasible : problem.Feasible x) :
    problem.c.dot x ≤ problem.c.dot point.x +
      options.epsOpt * (1 + |problem.c.dot point.x|) + options.epsD * ∑ j, |x.get j| := by
  have weak := problem.dot_le_of_multipliers nonneg.multipliers verdict.columns_le feasible
  have gap := (tests_of_hasConverged verdict.tests).2.2
  rw [gap_residual] at gap
  have scale : 0 < 1 + |problem.c.dot point.x| :=
    add_pos_of_pos_of_nonneg one_pos (abs_nonneg _)
  have difference := (le_abs_self _).trans ((div_le_iff₀ scale).mp gap)
  linarith

end Certificate

/-- A converged run of the interior point method over the fractions ends in a certificate for the
problem it was given: nonnegative slacks and multipliers, rows and columns up to their tolerances,
and a bound on the objective of every feasible point. -/
theorem solve_converged_certificate {problem : Problem Rat m n} {options : Options Rat}
    (valid : options.Valid) {run : Run Rat m n} (finished : solve options problem = .ok run)
    (converged : run.ending = .converged) :
    ∃ last, run.iterates.getLast? = some last ∧
      (∀ i, 0 ≤ last.s.get i) ∧ (∀ i, 0 ≤ last.y.get i) ∧
      (∀ i, (problem.A.mulVec last.x).get i ≤ problem.b.get i + options.epsP) ∧
      (∀ j, |(problem.A.transposeMulVec last.y).get j - problem.c.get j| ≤ options.epsD) ∧
      ∀ x, problem.Feasible x →
        problem.c.dot x ≤ problem.c.dot last.x +
          options.epsOpt * (1 + |problem.c.dot last.x|) + options.epsD * ∑ j, |x.get j| := by
  obtain ⟨iterates, last, infeasibility, trail, recorded, halts⟩ := loop_eq_ok finished
  rw [converged] at halts
  cases halts with
  | converged verdict =>
      have nonneg : last.Nonneg := trail.nonneg valid start_nonneg
      refine ⟨record problem.negated last infeasibility, ?_, nonneg.slacks, nonneg.multipliers,
        verdict.rows_le nonneg, verdict.columns_le, ?_⟩
      · rw [recorded, List.getLast?_concat]
      · intro x feasible
        exact verdict.dot_le nonneg feasible

/-- The run on the triangle converges with tolerances of one hundredth. -/
theorem triangle_certificate :
    ∃ run, solve ⟨false, 1 / 100, 1 / 100, 1 / 100, 30, 999 / 1000⟩ triangle = .ok run ∧
      run.ending = .converged ∧
      ∃ last, run.iterates.getLast? = some last ∧
        (∀ i, 0 ≤ last.s.get i) ∧ (∀ i, 0 ≤ last.y.get i) ∧
        (∀ i, (triangle.A.mulVec last.x).get i ≤ triangle.b.get i + 1 / 100) ∧
        (∀ j, |(triangle.A.transposeMulVec last.y).get j - triangle.c.get j| ≤ 1 / 100) ∧
        ∀ x, triangle.Feasible x →
          triangle.c.dot x ≤ triangle.c.dot last.x +
            1 / 100 * (1 + |triangle.c.dot last.x|) + 1 / 100 * ∑ j, |x.get j| := by
  have valid : Options.Valid (K := Rat) ⟨false, 1 / 100, 1 / 100, 1 / 100, 30, 999 / 1000⟩ := by
    constructor <;> decide +kernel
  have checked :
      (match solve (⟨false, 1 / 100, 1 / 100, 1 / 100, 30, 999 / 1000⟩ : Options Rat)
          triangle with
        | .ok ⟨_, .converged⟩ => true
        | _ => false) = true := by
    decide +kernel
  split at checked
  · rename_i iterates finished
    exact ⟨_, finished, rfl, solve_converged_certificate valid finished rfl⟩
  · cases checked

end PolyTrace.InteriorPoint
