import PolyTrace.Proofs.Simplex.Course

/-!
# The certificate of a converged run

At the last basis of a converged run no reduced cost of the split form exceeds the tolerance.  The
prices of that basis are therefore multipliers that miss the objective by at most the tolerance in
every split variable, and they bound the objective of every feasible point.
-/

namespace PolyTrace.Simplex

open Matrix
open Problem (triangle)

section Bound

variable {K : Type} [ExactScalar K] {m n : Nat}

/-- A bound on the reduced costs of the second phase bounds the objective at every feasible point,
by its split variables. -/
theorem dot_le_of_reduced_le {problem : Problem K m n} {basis : Basis (n + n + m)}
    {here : Solution K m (n + n + m)} (solves : Solves (phaseTwo problem) basis here) {bound : K}
    (reduced_le : ∀ j, here.reduced.get j ≤ bound) {x : Vec K n} (feasible : problem.Feasible x) :
    problem.c.dot x ≤ problem.c.dot (unsplit here.full) +
      bound * (∑ j, |x.get j| + ∑ i, (problem.b.get i - (problem.A.mulVec x).get i)) := by
  have split := solves.dot_le_of_reduced_le reduced_le (Split.ofPoint_nonneg feasible)
    (Split.splitMatrix_mulVec_ofPoint problem x)
  rw [phaseTwo_dot, Split.free_ofPoint, ← Vec.dot_eq, solves.objective_eq, phaseTwo_dot_full,
    Split.sum_ofPoint] at split
  exact split

end Bound

variable {m n : Nat}

/-- A converged run of the two-phase method over the fractions, with any positive tolerance and
either pivot rule, ends at a point whose objective no feasible point exceeds by more than the
tolerance for each unit of its entries and of its slacks. -/
theorem solve_converged_dot_le {options : Options Rat} (tol_pos : 0 < options.tol) {cap : Int}
    {problem : Problem Rat m n} {final : Final Rat (n + n + m)}
    (converged : (solve options cap problem).outcome = .ok final) :
    ∃ x, (solve options cap problem).points.getLast? = some x ∧
      ∀ x', problem.Feasible x' →
        problem.c.dot x' ≤ problem.c.dot x + options.tol *
          (∑ j, |x'.get j| + ∑ i, (problem.b.get i - (problem.A.mulVec x').get i)) := by
  obtain ⟨_, _, _, here, _, _, second, getLast?_points⟩ := stops_of_converged tol_pos converged
  have solves := solves_of_solution second.solved
  refine ⟨unsplit here.full, getLast?_points, fun x' feasible => ?_⟩
  exact dot_le_of_reduced_le solves (reduced_le_of_optimal tol_pos solves second.pivoted) feasible

/-- The run on the triangle ends at the corner `(1, 2)` even with a coarse tolerance. -/
theorem triangle_dot_le :
    (solve ⟨false, 1 / 10, .dantzig⟩ 65536 triangle).points.getLast? = some #v[1, 2] ∧
      ∀ x', triangle.Feasible x' →
        triangle.c.dot x' ≤ triangle.c.dot #v[1, 2] + 1 / 10 *
          (∑ j, |x'.get j| + ∑ i, (triangle.b.get i - (triangle.A.mulVec x').get i)) := by
  have corner : (solve ⟨false, 1 / 10, .dantzig⟩ 65536 triangle).points.getLast? =
      some #v[1, 2] := by
    decide +kernel
  obtain ⟨final, converged⟩ := Run.exists_final
    (show (solve ⟨false, 1 / 10, .dantzig⟩ 65536 triangle).outcome.isOk = true by decide +kernel)
  obtain ⟨x, last, bounded⟩ := solve_converged_dot_le (by decide +kernel) converged
  rw [corner] at last
  cases last
  exact ⟨corner, bounded⟩

end PolyTrace.Simplex
