import Mathlib
import PolyTrace.Proofs.Arith.Binary64
import PolyTrace.Proofs.InteriorPoint.Trail
import PolyTrace.Proofs.PrimalDual.Trail
import PolyTrace.Proofs.Service.Runs

/-!
# Runs with a higher limit of steps

A run that ends of its own accord is the same run under a higher limit, and one that is exhausted is
the beginning of the run under the higher limit.  This is shown for a loop that may take more steps,
by induction on the steps that it may take at least.

The interior point method can have no run at all under the higher limit, since the weight of the
centre can be too large at one of the further steps.  The primal-dual method needs an arithmetic in
which no number is both below and above another; machine numbers are one.
-/

namespace PolyTrace

/-- What becomes of a result when more steps may be taken: nothing, or it was a run that exhausted
its steps, whose records are the first ones of the other run, if there is one. -/
inductive Lengthened {Run Iterate : Type} (iterates : Run → List Iterate) (exhausted : Run → Prop) :
    Except Fault Run → Except Fault Run → Prop
  | same (result : Except Fault Run) : Lengthened iterates exhausted result result
  | further {run : Run} {result : Except Fault Run} (ended : exhausted run)
      (begins : ∀ longer, result = .ok longer → iterates run <+: iterates longer) :
      Lengthened iterates exhausted (.ok run) result

namespace Lengthened

variable {Run Iterate : Type} {iterates : Run → List Iterate} {exhausted : Run → Prop}
  {run longer : Run} {result : Except Fault Run}

theorem prefix_iterates (lengthened : Lengthened iterates exhausted (.ok run) (.ok longer)) :
    iterates run <+: iterates longer := by
  cases lengthened with
  | same => exact List.prefix_rfl
  | further _ begins => exact begins longer rfl

theorem eq_of_not_exhausted (lengthened : Lengthened iterates exhausted (.ok run) result)
    (ended : ¬ exhausted run) : result = .ok run := by
  cases lengthened with
  | same => rfl
  | further exhausted _ => exact absurd exhausted ended

theorem eq_of_error {cause : Fault} (lengthened : Lengthened iterates exhausted (.error cause) result) :
    result = .error cause := by
  cases lengthened
  rfl

/-- A result in two parts is lengthened when its second part is. -/
theorem bind {α : Type} {first : Except Fault α} {next more : α → Except Fault Run}
    (each : ∀ value, first = .ok value → Lengthened iterates exhausted (next value) (more value)) :
    Lengthened iterates exhausted (first >>= next) (first >>= more) := by
  cases first with
  | error cause => exact .same _
  | ok value => exact each value rfl

end Lengthened

/-- The lines of the first members of a list come first. -/
theorem prefix_mapIdx {α β : Type} {first whole : List α} (begins : first <+: whole)
    (f : Nat → α → β) : first.mapIdx f <+: whole.mapIdx f := by
  obtain ⟨rest, rfl⟩ := begins
  rw [List.mapIdx_append]
  exact List.prefix_append _ _

/-! ## The interior point method -/

namespace InteriorPoint

variable {K : Type} [Scalar K] {m n : Nat} {options : Options K} {program : Program K m n}

/-- The loop does not look at the limit. -/
theorem loop_maxit (more fuel : Nat) (point : Point K m n) (seen : Array (Iterate K m n)) :
    loop { options with maxit := more } program fuel point seen =
      loop options program fuel point seen := by
  induction fuel generalizing point seen with
  | zero => rfl
  | succ fuel inductionHypothesis =>
      unfold loop
      simp only [inductionHypothesis]
      rfl

/-- The records that a loop starts from come first. -/
theorem prefix_of_loop {fuel : Nat} {point : Point K m n} {seen : Array (Iterate K m n)}
    {run : Run K m n} (finished : loop options program fuel point seen = .ok run) :
    seen.toList <+: run.iterates := by
  obtain ⟨iterates, last, infeasibility, -, recorded, -⟩ := loop_eq_ok finished
  rw [recorded, List.append_assoc]
  exact List.prefix_append _ _

/-- A loop that may take more steps gives the same result or a longer run. -/
theorem loop_lengthened {fuel more : Nat} (enough : fuel ≤ more) (point : Point K m n)
    (seen : Array (Iterate K m n)) :
    Lengthened Run.iterates (fun run => run.ending = .exhausted)
      (loop options program fuel point seen) (loop options program more point seen) := by
  induction fuel generalizing more point seen with
  | zero =>
      cases more with
      | zero => exact .same _
      | succ more =>
          unfold loop
          refine .bind fun infeasibility _ => .bind fun converged _ => ?_
          cases converged with
          | true => exact .same _
          | false =>
              -- the loop without steps ends here, and the other one takes a step if there is one
              refine .further rfl fun longer finished => ?_
              simp only [Bool.false_eq_true, if_false] at finished
              split at finished
              · cases finished
                exact List.prefix_rfl
              · cases finished
              · exact prefix_of_loop finished
  | succ fuel inductionHypothesis =>
      obtain ⟨more, rfl⟩ := Nat.exists_eq_add_of_le' (Nat.one_le_of_lt enough)
      unfold loop
      refine .bind fun infeasibility _ => .bind fun converged _ => ?_
      cases converged with
      | true => exact .same _
      | false =>
          simp only [Bool.false_eq_true, if_false]
          split
          · exact .same _
          · exact .same _
          · exact inductionHypothesis (Nat.le_of_succ_le_succ enough) _ _

/-- Only a weight of the centre that is too large keeps the method on a problem from having a run. -/
theorem eq_overflow_of_solve (rows : 0 < m) (unknowns : 0 < n) {problem : Problem K m n}
    {cause : Fault} (faulty : solve options problem = .error cause) : cause = .overflow := by
  rcases exists_solve_or_overflow rows unknowns options problem with ⟨run, solved⟩ | overflowed
  · rw [solved] at faulty
    cases faulty
  · rw [overflowed] at faulty
    cases faulty
    rfl

theorem solve_lengthened {more : Nat} (enough : options.maxit ≤ more) (problem : Problem K m n) :
    Lengthened Run.iterates (fun run => run.ending = .exhausted) (solve options problem)
      (solve { options with maxit := more } problem) := by
  unfold solve
  dsimp only
  rw [loop_maxit more more]
  exact loop_lengthened enough _ _

/-- Three rows whose bounds are too far away for the weight of the centre. -/
def steep : Problem Float 3 1 where
  A := #v[#v[-1], #v[2], #v[1]]
  b := #v[4e103, 2e103, 8e103]
  c := #v[1]

/-- Settings with a limit of steps. -/
def limited (maxit : Nat) : Options Float where
  epsP := 1e-6
  epsD := 1e-6
  epsOpt := 1e-6
  maxit := maxit
  alphaMax := 0.5

theorem steep_lengths :
    (solve (limited 1) steep).map (fun run => run.iterates.length) = .ok 2 ∧
      (solve (limited 2) steep).map (fun run => run.iterates.length) = .error .overflow := by
  decide +kernel

/-- With one step the steep rows have a run of two points, with two steps they have no run. -/
theorem steep_overflow :
    (∃ run, solve (limited 1) steep = .ok run ∧ run.iterates.length = 2) ∧
      solve { limited 1 with maxit := 2 } steep = .error .overflow :=
  ⟨eq_ok_of_map steep_lengths.1, eq_error_of_map steep_lengths.2⟩

end InteriorPoint

/-! ## The primal-dual method -/

namespace PrimalDual

variable {K : Type} [Analytic K] {m p q : Nat} {form : Form} {options : Options K}
  {program : Program K m p} {view : Vec K p → Vec K q}

theorem loop_maxit (more fuel : Nat) (seen : Array (Iterate K m p q)) (state : State K m p)
    (error : K) :
    loop form { options with maxit := more } program view fuel seen state error =
      loop form options program view fuel seen state error := by
  induction fuel generalizing seen state error with
  | zero => rfl
  | succ fuel inductionHypothesis =>
      unfold loop
      simp only [inductionHypothesis]
      rfl

theorem prefix_of_record {seen all : Array (Iterate K m p q)} {state : State K m p} {error : K}
    (recorded : record form program view seen state error = .ok all) :
    seen.toList <+: all.toList := by
  obtain ⟨shown, -, rfl⟩ := eq_ok_of_map recorded
  rw [Array.toList_push]
  exact List.prefix_append _ _

theorem prefix_of_finish {seen : Array (Iterate K m p q)} {state : State K m p} {error : K}
    {run : Run K m p q} (finished : finish form options program view seen state error = .ok run) :
    seen.toList <+: run.iterates := by
  unfold finish at finished
  split at finished
  · obtain ⟨all, recorded, rfl⟩ := eq_ok_of_map finished
    exact prefix_of_record recorded
  · split at finished <;>
      · cases finished
        exact List.prefix_rfl

/-- The records that a loop starts from come first. -/
theorem prefix_of_loop {fuel : Nat} {seen : Array (Iterate K m p q)} {state : State K m p}
    {error : K} {run : Run K m p q}
    (finished : loop form options program view fuel seen state error = .ok run) :
    seen.toList <+: run.iterates := by
  induction fuel generalizing seen state error with
  | zero => exact prefix_of_finish finished
  | succ fuel inductionHypothesis =>
      unfold loop at finished
      split at finished
      · obtain ⟨all, recorded, onward⟩ := bind_eq_ok finished
        refine (prefix_of_record recorded).trans ?_
        dsimp only at onward
        split at onward
        · exact inductionHypothesis onward
        · exact prefix_of_finish onward
      · exact prefix_of_finish finished

/-- A loop that may take more steps gives the same result or a longer run, provided that it may take
a step at all or starts from a finite error. -/
theorem loop_lengthened (coherent : ∀ a b : K, a ≤ b → ¬ b < a) {fuel more : Nat}
    (enough : fuel ≤ more) (seen : Array (Iterate K m p q)) (state : State K m p) {error : K}
    (looks : 0 < fuel ∨ Scalar.Finite error) :
    Lengthened Run.iterates (fun run => run.ending = .exhausted)
      (loop form options program view fuel seen state error)
      (loop form options program view more seen state error) := by
  induction fuel generalizing more seen state error with
  | zero =>
      cases more with
      | zero => exact .same _
      | succ more =>
          have finite : Scalar.Finite error := looks.resolve_left (Nat.lt_irrefl 0)
          by_cases within : error ≤ options.tol
          · -- the loop with steps does not take any either
            have ended : loop form options program view (more + 1) seen state error =
                finish form options program view seen state error := by
              unfold loop
              exact if_neg (coherent _ _ within)
            rw [ended]
            exact .same _
          · have exhausted : loop form options program view 0 seen state error =
                .ok ⟨seen.toList, .exhausted⟩ := by
              unfold loop finish
              rw [if_neg within, if_pos finite]
            rw [exhausted]
            exact .further rfl fun longer finished => prefix_of_loop finished
  | succ fuel inductionHypothesis =>
      obtain ⟨more, rfl⟩ := Nat.exists_eq_add_of_le' (Nat.one_le_of_lt enough)
      unfold loop
      split
      · refine .bind fun all _ => ?_
        dsimp only
        split
        · rename_i finite
          exact inductionHypothesis (Nat.le_of_succ_le_succ enough) _ _ (.inr finite)
        · exact .same _
      · exact .same _

theorem run_lengthened (coherent : ∀ a b : K, a ≤ b → ¬ b < a) {more : Nat}
    (steps : 0 < options.maxit) (enough : options.maxit ≤ more) :
    Lengthened Run.iterates (fun run => run.ending = .exhausted)
      (run form options program view) (run form { options with maxit := more } program view) := by
  unfold run
  dsimp only
  rw [loop_maxit more more]
  exact loop_lengthened coherent enough _ _ (.inl steps)

end PrimalDual

/-! ## Both methods -/

/-- Under a higher limit of steps, a run of either method that was not exhausted stays the same, and
one that was is the beginning of the new run, with all that is recorded of its points and with their
lines in the log.  Only the interior point method may fail to have the new run: the weight of the
centre can be too large at a further step. -/
theorem runs_of_maxit_le {K : Type} [Analytic K] [ReadsOut K] {m n : Nat}
    (coherent : ∀ a b : K, a ≤ b → ¬ b < a) (rows : 0 < m) :
    (∀ (options : InteriorPoint.Options K) (more : Nat) (problem : Problem K m n),
      options.maxit ≤ more →
      let result := InteriorPoint.solve { options with maxit := more } problem
      (∃ cause, InteriorPoint.solve options problem = .error cause ∧ result = .error cause) ∨
        ∃ run, InteriorPoint.solve options problem = .ok run ∧
          (run.ending ≠ .exhausted → result = .ok run) ∧
          ((∃ cause, result = .error cause ∧ (0 < n → cause = .overflow)) ∨
            ∃ longer, result = .ok longer ∧ run.iterates <+: longer.iterates ∧
            run.iterates.mapIdx InteriorPoint.iterateLine <+:
              longer.iterates.mapIdx InteriorPoint.iterateLine)) ∧
      ∀ (form : PrimalDual.Form) (options : PrimalDual.Options K) (more p q : Nat)
        (program : Program K m p) (view : Vec K p → Vec K q),
        0 < options.maxit → options.maxit ≤ more →
        ∃ run longer, PrimalDual.run form options program view = .ok run ∧
          PrimalDual.run form { options with maxit := more } program view = .ok longer ∧
          (run.ending ≠ .exhausted → longer = run) ∧
          run.iterates <+: longer.iterates ∧
          ∀ basis, run.iterates.mapIdx (PrimalDual.iterateLine basis) <+:
            longer.iterates.mapIdx (PrimalDual.iterateLine basis) := by
  constructor
  · intro options more problem enough result
    have lengthened := InteriorPoint.solve_lengthened enough problem
    cases solved : InteriorPoint.solve options problem with
    | error cause =>
        rw [solved] at lengthened
        exact .inl ⟨cause, rfl, lengthened.eq_of_error⟩
    | ok run =>
        rw [solved] at lengthened
        refine .inr ⟨run, rfl, lengthened.eq_of_not_exhausted, ?_⟩
        cases resolved : InteriorPoint.solve { options with maxit := more } problem with
        | error cause =>
            refine .inl ⟨cause, resolved, fun unknowns => ?_⟩
            exact InteriorPoint.eq_overflow_of_solve rows unknowns resolved
        | ok longer =>
            rw [resolved] at lengthened
            exact .inr ⟨longer, resolved, lengthened.prefix_iterates,
              prefix_mapIdx lengthened.prefix_iterates _⟩
  · intro form options more p q program view steps enough
    obtain ⟨run, solved⟩ : ∃ run, PrimalDual.run form options program view = .ok run :=
      PrimalDual.exists_loop rows _ _ _ _
    obtain ⟨longer, resolved⟩ : ∃ longer,
        PrimalDual.run form { options with maxit := more } program view = .ok longer :=
      PrimalDual.exists_loop rows _ _ _ _
    have lengthened : Lengthened PrimalDual.Run.iterates (fun run => run.ending = .exhausted)
        (PrimalDual.run form options program view)
        (PrimalDual.run form { options with maxit := more } program view) :=
      PrimalDual.run_lengthened coherent steps enough
    rw [solved, resolved] at lengthened
    exact ⟨run, longer, solved, resolved,
      fun ended => Except.ok.inj (lengthened.eq_of_not_exhausted ended),
      lengthened.prefix_iterates, fun basis => prefix_mapIdx lengthened.prefix_iterates _⟩

/-- Settings of the primal-dual method with a single step. -/
def oneStep : PrimalDual.Options Float where
  ineq := true
  maxit := 1
  eta := 0.25
  tau := 0.25
  tol := 1e-4

/-- The points from zero to two, for both methods. -/
def stretch : Problem Float 2 1 where
  A := #v[#v[1], #v[-1]]
  b := #v[2, 0]
  c := #v[1]

theorem stretch_lengths :
    (InteriorPoint.solve (InteriorPoint.limited 1) stretch).map
        (fun run => run.iterates.length) = .ok 2 ∧
      (InteriorPoint.solve (InteriorPoint.limited 2) stretch).map
        (fun run => run.iterates.length) = .ok 3 ∧
      (PrimalDual.run .standard oneStep stretch.split unsplit).map
        (fun run => run.iterates.length) = .ok 1 ∧
      (PrimalDual.run .standard { oneStep with maxit := 2 } stretch.split unsplit).map
        (fun run => run.iterates.length) = .ok 2 := by
  decide +kernel

/-- On the stretch, both methods have a run with one step that begins a longer run with two. -/
theorem stretch_runs_of_maxit_le :
    (∀ a b : Float, a ≤ b → ¬ b < a) ∧ 0 < 2 ∧ 1 ≤ 2 ∧
      (∃ run longer, InteriorPoint.solve (InteriorPoint.limited 1) stretch = .ok run ∧
        InteriorPoint.solve (InteriorPoint.limited 2) stretch = .ok longer ∧
        run.iterates.length = 2 ∧ longer.iterates.length = 3 ∧
        run.iterates <+: longer.iterates ∧
        run.iterates.mapIdx InteriorPoint.iterateLine <+:
          longer.iterates.mapIdx InteriorPoint.iterateLine) ∧
      ∃ run longer, PrimalDual.run .standard oneStep stretch.split unsplit = .ok run ∧
        PrimalDual.run .standard { oneStep with maxit := 2 } stretch.split unsplit = .ok longer ∧
        run.iterates.length = 1 ∧ longer.iterates.length = 2 ∧
        run.iterates <+: longer.iterates ∧
        ∀ basis, run.iterates.mapIdx (PrimalDual.iterateLine basis) <+:
          longer.iterates.mapIdx (PrimalDual.iterateLine basis) := by
  have coherent : ∀ a b : Float, a ≤ b → ¬ b < a := fun _ _ => Binary64.not_lt_of_le
  obtain ⟨interior, primalDual⟩ := runs_of_maxit_le coherent (Nat.succ_pos 1)
  obtain ⟨interiorOne, interiorTwo, primalDualOne, primalDualTwo⟩ := stretch_lengths
  refine ⟨coherent, Nat.succ_pos 1, Nat.le_succ 1, ?_, ?_⟩
  · obtain ⟨run, solved, length⟩ := eq_ok_of_map interiorOne
    obtain ⟨longer, resolved, longerLength⟩ := eq_ok_of_map interiorTwo
    refine ⟨run, longer, solved, resolved, length, longerLength, ?_⟩
    rcases interior (InteriorPoint.limited 1) 2 stretch (Nat.le_succ 1) with
      ⟨_, faulty, -⟩ | ⟨run', solved', -, ⟨_, faulty, -⟩ | ⟨longer', resolved', begins⟩⟩
    · rw [solved] at faulty
      cases faulty
    · exact absurd (resolved.symm.trans faulty) nofun
    · cases solved.symm.trans solved'
      cases resolved.symm.trans resolved'
      exact begins
  · obtain ⟨run, longer, solved, resolved, -, begins⟩ := primalDual .standard oneStep 2 _ _
      stretch.split unsplit (Nat.succ_pos 0) (Nat.le_succ 1)
    rw [solved] at primalDualOne
    rw [resolved] at primalDualTwo
    exact ⟨run, longer, solved, resolved, Except.ok.inj primalDualOne,
      Except.ok.inj primalDualTwo, begins⟩

end PolyTrace
