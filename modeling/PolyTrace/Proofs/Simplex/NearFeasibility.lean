import PolyTrace.Proofs.Simplex.Correctness

/-!
# How far a converged answer is from being feasible

The ratio test takes ratios within the tolerance for equal, so that a row can be exceeded by the
tolerance times an entry of its direction: the answer may exceed a bound by more than the tolerance.
It never exceeds a bound by more than a multiple of the tolerance that depends on the rows only.  A
fine tolerance keeps the answer feasible, and how far the finitely many basic solutions are from
being feasible is bounded once and for all.
-/

namespace PolyTrace.Simplex

open Matrix Filter

section Excess

variable {K : Type} [ExactScalar K] {m n p : Nat}

/-- Some number bounds from below every entry of every basic solution, whatever the objective. -/
theorem exists_neg_le_full (A : Mat K m p) (b : Vec K m) :
    ∃ depth : K, 0 ≤ depth ∧ ∀ c basis here, solution ⟨A, b, c⟩ basis = .ok here →
      ∀ j, -depth ≤ here.full.get j := by
  have each : ∀ here : Solution K m p, ∀ᶠ depth in atTop, ∀ j, -depth ≤ here.full.get j := by
    intro here
    rw [eventually_all]
    intro j
    filter_upwards [eventually_ge_atTop (-here.full.get j)] with depth deep
    exact neg_le.mp deep
  have all := eventually_solution each ⟨A, b, Vec.zero p⟩
  obtain ⟨depth, deep, nonneg⟩ := (all.and (eventually_ge_atTop 0)).exists
  refine ⟨depth, nonneg, fun c basis here solved => ?_⟩
  obtain ⟨here', solved', _, _, full_eq⟩ := exists_solution_of_objective solved (Vec.zero p)
  rw [← full_eq]
  exact deep basis here' solved'

/-- A row at a solution of the second phase is its bound less its slack. -/
theorem Solves.mulVec_unsplit {problem : Problem K m n} {basis : Basis (n + n + m)}
    {here : Solution K m (n + n + m)} (solves : Solves (phaseTwo problem) basis here) (i : Fin m) :
    (problem.A.mulVec (unsplit here.full)).get i =
      problem.b.get i - here.full.get (slackColumn i) := by
  have row := congrFun solves.basic.solves i
  rw [phaseTwo_mulVec, Pi.add_apply, ← Split.get_unsplit, ← Mat.get_mulVec] at row
  exact eq_sub_of_add_eq row

end Excess

variable {m n : Nat}

/-- For given rows over the fractions, a converged run with any objective, any positive tolerance
and either pivot rule exceeds no bound by more than a fixed multiple of the tolerance, and ends at a
feasible point when the tolerance is small enough. -/
theorem solve_converged_excess_le (A : Mat Rat m n) (b : Vec Rat m) :
    ∃ bound factor : Rat, 0 < bound ∧
      ∀ (c : Vec Rat n) (options : Options Rat), 0 < options.tol →
        ∀ (cap : Int) (final : Final Rat (n + n + m)),
          (solve options cap ⟨A, b, c⟩).outcome = .ok final →
          ∃ x, (solve options cap ⟨A, b, c⟩).points.getLast? = some x ∧
            (options.tol < bound → ∀ i, (A.mulVec x).get i ≤ b.get i) ∧
            ∀ i, (A.mulVec x).get i ≤ b.get i + factor * options.tol := by
  obtain ⟨bound, bound_pos, fine⟩ := exists_bound_of_eventually
    (P := fun tol => ∀ c, FineAtAll tol (phaseOne ⟨A, b, c⟩) ∧ FineAtAll tol (phaseTwo ⟨A, b, c⟩))
    (eventually_fine_phases A b)
  obtain ⟨depth, depth_nonneg, deep⟩ := exists_neg_le_full (Problem.splitMatrix A) b
  refine ⟨bound, depth / bound, bound_pos, fun c options tol_pos cap final converged => ?_⟩
  obtain ⟨_, _, _, here, first, below, second, getLast?_points⟩ :=
    stops_of_converged tol_pos converged
  have solves := solves_of_solution second.solved
  have feasible : options.tol < bound → ∀ i, (A.mulVec (unsplit here.full)).get i ≤ b.get i := by
    intro small
    obtain ⟨fineOne, fineTwo⟩ := fine options.tol tol_pos small c
    exact solves.feasible_unsplit (nonneg_second tol_pos fineOne fineTwo first below second)
  refine ⟨unsplit here.full, getLast?_points, feasible, fun i => ?_⟩
  rcases lt_or_ge options.tol bound with small | large
  · have slight : 0 ≤ depth / bound * options.tol :=
      mul_nonneg (div_nonneg depth_nonneg bound_pos.le) tol_pos.le
    exact (feasible small i).trans (le_add_of_nonneg_right slight)
  · have covered : depth ≤ depth / bound * options.tol := by
      rw [div_mul_eq_mul_div, le_div_iff₀ bound_pos]
      exact mul_le_mul_of_nonneg_left large depth_nonneg
    have row := solves.mulVec_unsplit i
    have slack := deep _ _ _ second.solved (slackColumn i)
    dsimp only at row
    linarith

/-- Two upper bounds on one variable, the second smaller by less than a hundredth. -/
def nearTie : Problem Rat 2 1 where
  A := #v[#v[1], #v[64]]
  b := #v[1, 127 / 2]
  c := #v[1]

/-- The ratios of the two rows differ by less than the tolerance, and the run ends at the larger
bound, where the second row is exceeded by one half. -/
theorem nearTie_excess :
    (∃ final, (solve ⟨false, 1 / 64, .dantzig⟩ 65536 nearTie).outcome = .ok final) ∧
      (solve ⟨false, 1 / 64, .dantzig⟩ 65536 nearTie).points.getLast? = some #v[1] ∧
      ¬ ∀ i, (nearTie.A.mulVec #v[1]).get i ≤ nearTie.b.get i + 1 / 64 := by
  have converged : (solve ⟨false, 1 / 64, .dantzig⟩ 65536 nearTie).outcome.isOk = true := by
    decide +kernel
  exact ⟨Run.exists_final converged, by decide +kernel, by decide +kernel⟩

end PolyTrace.Simplex
