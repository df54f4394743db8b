import Mathlib
import PolyTrace.Proofs.Failure
import PolyTrace.Proofs.Simplex.Correctness
import PolyTrace.Proofs.Simplex.PhaseBoundary
import PolyTrace.Service.Session

/-!
# What a failure says about the first phase

A run calls a problem infeasible when an artificial variable is stuck at the end of the first phase.
No reduced cost of that end exceeds the tolerance, and a feasible point would bring the sum of the
artificial variables down to zero.  So the sum is at most the tolerance for each unit of the entries
and the slacks of any feasible point: this is how far the verdict can be wrong.

A run calls a problem unbounded when a phase finds no leaving row.  The objective of the first phase
is bounded, and with a small tolerance only the second phase ends in this way.  A coarse tolerance
can be met by an entering column that lowers the sum of the artificial variables by more than the
tolerance, and each of them by less.  There have to be two such variables at least, since a single
one would fall as fast as the sum.
-/

namespace PolyTrace.Simplex

open Matrix

/-! ## How phases and runs fail -/

section Phases

variable {K : Type} [Scalar K] {m n p q : Nat} {options : Options K} {cap : Int}

/-- A basis that cannot be solved for is no verdict on the problem. -/
theorem kind_of_unsolved {program : Program K m p} {basis : Basis p} {cause : Failure K}
    (failed : solution program basis = .error cause) :
    cause.kind ≠ .unbounded ∧ cause.kind ≠ .infeasible := by
  rw [solution] at failed
  split at failed
  · rw [solutionAt] at failed
    rw [kind_of_factorize (eq_error_of_map failed)]
    split <;> simp
  · cases failed
    simp [Failure.kind]

/-- A phase that fails has found no leaving row at its last vertex, or gives no verdict on the
problem. -/
theorem Phase.cases_of_error {program : Program K m p} {view : Vec K p → Vec K q}
    {start : Basis p} {cause : Failure K}
    (failed : (Phase.run options cap program view start).outcome = .error cause) :
    (cause = .unbounded ∧ ∃ last here, Stops options program start .unbounded last here ∧
        (Phase.run options cap program view start).vertices.getLast? =
          some (Visit.vertex view (last, here))) ∨
      cause.kind ≠ .unbounded ∧ cause.kind ≠ .infeasible := by
  by_cases size : start.members.length = m
  · obtain ⟨visits, last, path, ends⟩ := Phase.run_path options cap program view size
    generalize Phase.run options cap program view start = phase at failed ends ⊢
    cases ends with
    | stalled _ =>
        cases failed
        right
        simp [Failure.kind]
    | unsolved unsolved =>
        cases failed
        exact .inr (kind_of_unsolved unsolved)
    | unbounded solved pivoted =>
        cases failed
        refine .inl ⟨rfl, last, _, ⟨⟨visits, path⟩, solved, pivoted⟩, ?_⟩
        simp
    | optimal _ _ => cases failed
  · rw [Phase.run, Basis.check, if_neg size] at failed
    cases failed
    right
    simp [Failure.kind]

/-- A phase that succeeds has found no entering column at its last basis. -/
theorem Phase.stops_of_ok {program : Program K m p} {view : Vec K p → Vec K q} {start : Basis p}
    {final : Final K p} (finished : (Phase.run options cap program view start).outcome = .ok final) :
    ∃ here, Stops options program start .optimal final.basis here ∧ final.full = here.full ∧
      final.objective = here.objective := by
  by_cases size : start.members.length = m
  · obtain ⟨visits, last, path, ends⟩ := Phase.run_path options cap program view size
    generalize Phase.run options cap program view start = phase at finished ends
    cases ends with
    | stalled _ | unsolved _ | unbounded _ _ => cases finished
    | optimal solved pivoted =>
        cases finished
        exact ⟨_, ⟨⟨visits, path⟩, solved, pivoted⟩, rfl, rfl⟩
  · rw [Phase.run, Basis.check, if_neg size] at finished
    cases finished

/-- A hand-over that fails reports the sum of the artificial variables, or a basis of the wrong
size. -/
theorem handover_eq_error {tol : K} {basis : Basis (n + n + m + m)}
    {x : Vec K (n + n + m + m)} {objective : K} {changes : List Repair} {cause : Failure K}
    (failed : handover tol basis x objective = ⟨changes, .error cause⟩) :
    cause = .infeasible (-objective) ∨ cause.kind = .invariant := by
  rw [handover] at failed
  split at failed
  · cases failed
    exact .inl rfl
  · dsimp only at failed
    split at failed
    · rename_i checked
      cases failed
      rw [Basis.check] at checked
      split at checked
      · cases checked
      · cases checked
        exact .inr rfl
    · cases failed

variable {problem : Problem K m n}

/-- A run that calls the problem unbounded has reached its second phase, or has found no leaving row
at the last vertex of the first. -/
theorem second_or_stops_of_unbounded
    (unbounded : (solve options cap problem).outcome = .error .unbounded) :
    (∃ phase, (solve options cap problem).second = some phase) ∨
      ∃ last here, Stops options (phaseOne problem) (artificialBasis m n) .unbounded last here ∧
        (solve options cap problem).first.vertices.getLast? =
          some (Visit.vertex viewOne (last, here)) := by
  obtain ⟨first, first_eq, ⟨cause, failed, run_eq⟩ | ⟨final, ended,
    ⟨changes, cause, handed, run_eq⟩ | ⟨changes, next, second, handed, second_eq, run_eq⟩⟩⟩ :=
      solve_cases options cap problem
  all_goals rw [run_eq] at unbounded ⊢
  · cases unbounded
    subst first_eq
    rcases Phase.cases_of_error failed with ⟨_, ray⟩ | ⟨other, _⟩
    · exact .inr ray
    · exact absurd rfl other
  · cases unbounded
    rcases handover_eq_error handed with stuck | invariant
    · cases stuck
    · cases invariant
  · exact .inl ⟨second, rfl⟩

/-- A run that calls the problem infeasible stops after its first phase, and reports the objective
that this phase ended with. -/
theorem stops_of_infeasible {excess : K}
    (infeasible : (solve options cap problem).outcome = .error (.infeasible excess)) :
    ∃ final here, (solve options cap problem).first.outcome = .ok final ∧
      Stops options (phaseOne problem) (artificialBasis m n) .optimal final.basis here ∧
      final.full = here.full ∧ excess = -here.objective := by
  obtain ⟨first, first_eq, ⟨cause, failed, run_eq⟩ | ⟨final, ended,
    ⟨changes, cause, handed, run_eq⟩ | ⟨changes, next, second, handed, second_eq, run_eq⟩⟩⟩ :=
      solve_cases options cap problem
  all_goals rw [run_eq] at infeasible ⊢
  · cases infeasible
    rw [first_eq] at failed
    rcases Phase.cases_of_error failed with ⟨ray, _⟩ | ⟨_, other⟩
    · cases ray
    · exact absurd rfl other
  · cases infeasible
    have finished := ended
    rw [first_eq] at finished
    obtain ⟨here, stops, full_eq, objective_eq⟩ := Phase.stops_of_ok finished
    refine ⟨final, here, ended, stops, full_eq, ?_⟩
    rcases handover_eq_error handed with stuck | invariant
    · cases stuck
      rw [objective_eq]
    · cases invariant
  · have failed : second.outcome = .error (.infeasible excess) := infeasible
    rw [second_eq] at failed
    rcases Phase.cases_of_error failed with ⟨ray, _⟩ | ⟨_, other⟩
    · cases ray
    · exact absurd rfl other

end Phases

/-! ## Problems called infeasible -/

/-- The sum of the artificial variables is the objective of the first phase, negated. -/
theorem Solves.neg_objective_eq {K : Type} [ExactScalar K] {m n : Nat} {problem : Problem K m n}
    {basis : Basis (n + n + m + m)} {here : Solution K m (n + n + m + m)}
    (solves : Solves (phaseOne problem) basis here) :
    -here.objective = ∑ i, here.full.get (artificialColumn i) := by
  rw [solves.objective_eq, phaseOne_dot, neg_neg]
  rfl

section Fractions

variable {m n : Nat}

/-- If a run over the fractions, with any positive tolerance and either pivot rule, calls a problem
infeasible, the excess it reports is the sum of the artificial variables at the end of the first
phase, and every feasible point has entries and slacks whose sum, times the tolerance, is at least
this excess. -/
theorem solve_infeasible_excess_le {options : Options Rat} (tol_pos : 0 < options.tol) {cap : Int}
    {problem : Problem Rat m n} {excess : Rat}
    (infeasible : (solve options cap problem).outcome = .error (.infeasible excess)) :
    (∃ final, (solve options cap problem).first.outcome = .ok final ∧
        excess = ∑ i, final.full.get (artificialColumn i)) ∧
      ∀ x, problem.Feasible x →
        excess ≤ options.tol *
          (∑ j, |x.get j| + ∑ i, (problem.b.get i - (problem.A.mulVec x).get i)) := by
  obtain ⟨final, here, ended, stops, full_eq, excess_eq⟩ := stops_of_infeasible infeasible
  have solves := solves_of_solution stops.solved
  rw [solves.neg_objective_eq] at excess_eq
  constructor
  · refine ⟨final, ended, ?_⟩
    rw [full_eq]
    exact excess_eq
  · intro x feasible
    rw [excess_eq]
    exact solves.sum_artificialPart_le (reduced_le_of_optimal tol_pos solves stops.pivoted) feasible

/-- One row that keeps a variable at twenty or above, with a coefficient of a twentieth. -/
def gentleRow : Problem Rat 1 1 where
  A := #v[#v[-1 / 20]]
  b := #v[-1]
  c := #v[-1]

/-- With a tolerance of a tenth the row looks flat and the problem is called infeasible with an
excess of one.  The point twenty is feasible, and the bound allows the mistake there. -/
theorem gentleRow_excess_le :
    (solve ⟨false, 1 / 10, .dantzig⟩ 65536 gentleRow).outcome = .error (.infeasible 1) ∧
      gentleRow.Feasible #v[20] ∧
      ∀ x, gentleRow.Feasible x →
        1 ≤ 1 / 10 * (∑ j, |x.get j| +
          ∑ i, (gentleRow.b.get i - (gentleRow.A.mulVec x).get i)) := by
  have infeasible : (solve ⟨false, 1 / 10, .dantzig⟩ 65536 gentleRow).outcome =
      .error (.infeasible 1) :=
    eq_error_of_map (f := fun _ => ()) (by decide +kernel)
  obtain ⟨_, bounded⟩ := solve_infeasible_excess_le (by decide +kernel) infeasible
  exact ⟨infeasible, by decide +kernel, bounded⟩

end Fractions

/-! ## Problems called unbounded -/

section Logs

variable {K : Type} [Scalar K] [ReadsOut K] {m n : Nat}

/-- The logs of the phases that were begun. -/
def Run.phaseLogs (run : Run K m n) : List (List String) :=
  [Note.lines run.firstNotes, Note.lines run.secondNotes].filter fun lines => !lines.isEmpty

/-- The report of a run lists the logs of the phases that were begun. -/
theorem Run.detail_draft (run : Run Float m n) (elapsed : Float) :
    (run.draft elapsed).detail =
      some (.simplex run.phaseLogs run.bases run.firstPoints.length) :=
  rfl

/-- A phase that was begun has at least the line of titles. -/
theorem Run.length_phaseLogs (run : Run K m n) :
    run.phaseLogs.length = if run.second.isSome then 2 else 1 := by
  have first : (Note.lines run.firstNotes).isEmpty = false := by
    simp [firstNotes, Phase.lines, Note.lines, Note.line?]
  have second : (Note.lines run.secondNotes).isEmpty = !run.second.isSome := by
    cases began : run.second <;>
      simp [secondNotes, began, Phase.lines, Note.lines, Note.line?]
  cases began : run.second.isSome <;>
    simp [phaseLogs, first, second, began]

end Logs

section Falls

variable {K : Type} [ExactScalar K] {m n : Nat}

/-- If no number is below `-tol` but their sum is, at least two of them are negative. -/
theorem one_lt_card_of_sum_lt {tol : K} (tol_pos : 0 < tol) {f : Fin m → K}
    (slow : ∀ i, -tol ≤ f i) (falls : ∑ i, f i < -tol) :
    1 < (Finset.univ.filter fun i => f i < 0).card := by
  by_contra few
  have rising : 0 ≤ ∑ i with ¬ f i < 0, f i :=
    Finset.sum_nonneg fun i member => le_of_not_gt (Finset.mem_filter.mp member).2
  have falling : (Finset.univ.filter fun i => f i < 0).card • -tol ≤ ∑ i with f i < 0, f i :=
    Finset.card_nsmul_le_sum _ _ _ fun i _ => slow i
  have split := Finset.sum_filter_add_sum_filter_not Finset.univ (fun i => f i < 0) f
  have single : -tol ≤ (Finset.univ.filter fun i => f i < 0).card • -tol := by
    rcases Nat.le_one_iff_eq_zero_or_eq_one.mp (not_lt.mp few) with none | one
    · rw [none, zero_smul]
      exact neg_nonpos.mpr tol_pos.le
    · rw [one, one_smul]
  linarith

/-- Along the edge of column `j` the sum of the artificial variables falls by more than the
tolerance, and no variable falls by more than it; two artificial variables at least are basic. -/
structure FallsThinly (tol : K) (problem : Problem K m n) (basis : Basis (n + n + m + m))
    (here : Solution K m (n + n + m + m)) (j : Fin (n + n + m + m)) : Prop where
  solved : solution (phaseOne problem) basis = .ok here
  falls : ∑ i, here.edge (phaseOne problem) j (artificialColumn i) < -tol
  slow : ∀ k, -tol ≤ here.edge (phaseOne problem) j k
  several : 1 < (Finset.univ.filter fun i => basis.get (artificialColumn i) = true).card

variable {options : Options K} {problem : Problem K m n} {last : Basis (n + n + m + m)}
  {here : Solution K m (n + n + m + m)}

/-- If the first phase finds no leaving row, the tolerance is too coarse for its entering column. -/
theorem Stops.fallsThinly (tol_pos : 0 < options.tol)
    (stops : Stops options (phaseOne problem) (artificialBasis m n) .unbounded last here) :
    ∃ j, FallsThinly options.tol problem last here j := by
  have solves := solves_of_solution stops.solved
  obtain ⟨j, enters, leaves⟩ := pivot_eq_unbounded stops.pivoted
  obtain ⟨outside, gains⟩ := entering_eq_some enters
  have slow := solves.neg_le_edge outside tol_pos.le (leaving_eq_none leaves)
  have falls : ∑ i, here.edge (phaseOne problem) j (artificialColumn i) < -options.tol := by
    rw [← solves.dot_edge outside, phaseOne_dot] at gains
    exact lt_neg_of_lt_neg gains
  have several := one_lt_card_of_sum_lt tol_pos (fun i => slow (artificialColumn i)) falls
  refine ⟨j, stops.solved, falls, slow, several.trans_le (Finset.card_le_card ?_)⟩
  intro i member
  rw [Finset.mem_filter] at member ⊢
  exact ⟨member.1, solves.marked_of_edge_neg outside member.2⟩

end Falls

section Fractions

variable {m n : Nat}

/-- For given rows over the fractions, a run with any objective, any positive tolerance and either
pivot rule that calls the problem unbounded has gone through its first phase and has two phase logs,
unless the tolerance is at least a fixed bound and the first phase ends at a vertex with two basic
artificial variables or more, whose sum falls by more than the tolerance along an edge where none of
them does. -/
theorem solve_unbounded_phaseLogs (A : Mat Rat m n) (b : Vec Rat m) :
    ∃ bound : Rat, 0 < bound ∧
      ∀ (c : Vec Rat n) (options : Options Rat), 0 < options.tol → ∀ cap : Int,
        (solve options cap ⟨A, b, c⟩).outcome = .error .unbounded →
          (solve options cap ⟨A, b, c⟩).phaseLogs.length = 2 ∨
            bound ≤ options.tol ∧ ∃ vertex here j,
              (solve options cap ⟨A, b, c⟩).first.vertices.getLast? = some vertex ∧
                FallsThinly options.tol ⟨A, b, c⟩ vertex.basis here j := by
  obtain ⟨bound, bound_pos, fine⟩ := exists_bound_of_eventually
    (P := fun tol => ∀ c, FineAtAll tol (phaseOne ⟨A, b, c⟩) ∧ FineAtAll tol (phaseTwo ⟨A, b, c⟩))
    (eventually_fine_phases A b)
  refine ⟨bound, bound_pos, fun c options tol_pos cap unbounded => ?_⟩
  rcases second_or_stops_of_unbounded unbounded with ⟨phase, began⟩ | ⟨last, here, stops, recorded⟩
  · left
    rw [Run.length_phaseLogs, began]
    rfl
  · right
    constructor
    · by_contra small
      have fineOne := (fine options.tol tol_pos (lt_of_not_ge small) c).1
      exact not_stops_unbounded_first tol_pos fineOne stops
    · obtain ⟨j, thin⟩ := stops.fallsThinly tol_pos
      exact ⟨_, here, j, recorded, thin⟩

/-- Two equal rows that keep a variable at sixty-four or above. -/
def twinRows : Problem Rat 2 1 where
  A := #v[#v[-3 / 64], #v[-3 / 64]]
  b := #v[-3, -3]
  c := #v[-1]

/-- With a tolerance of a sixteenth, the variable lowers the sum of the two artificial variables by
six sixty-fourths and each of them by three: the first phase calls the problem unbounded, although
the point sixty-four is feasible and no feasible point has a larger objective. -/
theorem twinRows_unbounded :
    (solve ⟨false, 1 / 16, .dantzig⟩ 65536 twinRows).outcome = .error .unbounded ∧
      (solve ⟨false, 1 / 16, .dantzig⟩ 65536 twinRows).phaseLogs.length = 1 ∧
      twinRows.IsOptimal #v[64] := by
  refine ⟨eq_error_of_map (f := fun _ => ()) (by decide +kernel), ?_, by decide +kernel, ?_⟩
  · have stopped : (solve ⟨false, 1 / 16, .dantzig⟩ 65536 twinRows).second.isSome = false := by
      decide +kernel
    rw [Run.length_phaseLogs, stopped]
    rfl
  · intro x feasible
    have multipliers_nonneg : ∀ i, 0 ≤ (#v[64 / 3, 0] : Vec Rat 2).get i := by decide +kernel
    have columns : ∀ j, |(twinRows.A.transposeMulVec #v[64 / 3, 0]).get j - twinRows.c.get j| ≤ 0 :=
      by decide +kernel
    have weak := twinRows.dot_le_of_multipliers multipliers_nonneg columns feasible
    rw [zero_mul, add_zero] at weak
    exact weak.trans (by decide +kernel)

end Fractions

end PolyTrace.Simplex
