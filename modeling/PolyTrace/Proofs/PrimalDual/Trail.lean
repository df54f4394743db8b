import PolyTrace.Engine.PrimalDual
import PolyTrace.Proofs.Failure

/-!
# The states a primal-dual run goes through

`Trail form options program view state iterates last` says that from `state` the method takes one
step after another, recording `iterates`, until it stands at `last`.  A run that finishes is such a
trail, followed by what its last state adds to the trace: its own record when it lies within the
tolerance, and nothing when the run was exhausted or diverged there.  This holds in every
arithmetic.
-/

namespace PolyTrace.PrimalDual

variable {K : Type} [Analytic K] {m p q : Nat}

/-- What is recorded of a state, next to its violation. -/
def iterateAt (form : Form) (program : Program K m p) (view : Vec K p → Vec K q)
    (state : State K m p) (shown : K) : Iterate K m p q :=
  ⟨state, view state.x, program.c.dot state.x, shown, relativeError form program state⟩

/-- Steps from a state to another, with the states recorded on the way. -/
inductive Trail (form : Form) (options : Options K) (program : Program K m p)
    (view : Vec K p → Vec K q) : State K m p → List (Iterate K m p q) → State K m p → Prop
  | here (state : State K m p) : Trail form options program view state [] state
  | step {state last : State K m p} {shown : K} {rest : List (Iterate K m p q)}
      (beyond : options.tol < relativeError form program state)
      (violated : violation form program state = .ok shown)
      (onward : Trail form options program view (step form options program state) rest last) :
      Trail form options program view state (iterateAt form program view state shown :: rest) last

/-- Why a run went no further than its last state, and what this state adds to the trace. -/
inductive Halts (form : Form) (options : Options K) (program : Program K m p)
    (view : Vec K p → Vec K q) (last : State K m p) : List (Iterate K m p q) → Ending → Prop
  | converged {shown : K} (within : relativeError form program last ≤ options.tol)
      (violated : violation form program last = .ok shown) :
      Halts form options program view last [iterateAt form program view last shown] .converged
  | exhausted (beyond : ¬ relativeError form program last ≤ options.tol)
      (finite : Scalar.Finite (relativeError form program last)) :
      Halts form options program view last [] .exhausted
  | diverged (beyond : ¬ relativeError form program last ≤ options.tol)
      (infinite : ¬ Scalar.Finite (relativeError form program last)) :
      Halts form options program view last [] .diverged

/-- A run from a state behind the records `seen`: a trail, and what its last state adds to it. -/
def Runs (form : Form) (options : Options K) (program : Program K m p) (view : Vec K p → Vec K q)
    (seen : List (Iterate K m p q)) (state : State K m p) (run : Run K m p q) : Prop :=
  ∃ iterates last closing, Trail form options program view state iterates last ∧
    Halts form options program view last closing run.ending ∧
    run.iterates = seen ++ iterates ++ closing

section Loop

variable {form : Form} {options : Options K} {program : Program K m p} {view : Vec K p → Vec K q}
  {state : State K m p} {run : Run K m p q}

/-- A run that takes a step from a state records it and goes on behind it. -/
theorem Runs.step {seen : List (Iterate K m p q)} {shown : K}
    (beyond : options.tol < relativeError form program state)
    (violated : violation form program state = .ok shown)
    (onward : Runs form options program view
      (seen ++ [iterateAt form program view state shown]) (step form options program state) run) :
    Runs form options program view seen state run := by
  obtain ⟨iterates, last, closing, trail, halts, recorded⟩ := onward
  refine ⟨iterateAt form program view state shown :: iterates, last, closing,
    .step beyond violated trail, halts, ?_⟩
  rw [recorded, List.append_assoc seen, List.singleton_append]

theorem record_eq_ok {seen all : Array (Iterate K m p q)}
    (recorded : record form program view seen state (relativeError form program state) = .ok all) :
    ∃ shown, violation form program state = .ok shown ∧
      all = seen.push (iterateAt form program view state shown) := by
  unfold record at recorded
  cases violated : violation form program state with
  | error cause =>
      rw [violated] at recorded
      cases recorded
  | ok shown =>
      rw [violated] at recorded
      cases recorded
      exact ⟨shown, rfl, rfl⟩

/-- A run that ends at a state is the trail that goes nowhere. -/
theorem finish_runs {seen : Array (Iterate K m p q)}
    (finished : finish form options program view seen state (relativeError form program state) =
      .ok run) :
    Runs form options program view seen.toList state run := by
  unfold finish at finished
  split at finished
  · rename_i within
    cases recorded : record form program view seen state (relativeError form program state) with
    | error cause =>
        rw [recorded] at finished
        cases finished
    | ok all =>
        rw [recorded] at finished
        cases finished
        obtain ⟨shown, violated, rfl⟩ := record_eq_ok recorded
        exact ⟨[], state, _, .here state, .converged within violated, by simp⟩
  · rename_i beyond
    split at finished
    · rename_i finite
      cases finished
      exact ⟨[], state, [], .here state, .exhausted beyond finite, by simp⟩
    · rename_i infinite
      cases finished
      exact ⟨[], state, [], .here state, .diverged beyond infinite, by simp⟩

theorem loop_runs {fuel : Nat} {seen : Array (Iterate K m p q)}
    (finished : loop form options program view fuel seen state
      (relativeError form program state) = .ok run) :
    Runs form options program view seen.toList state run := by
  induction fuel generalizing seen state with
  | zero => exact finish_runs finished
  | succ fuel inductionHypothesis =>
      unfold loop at finished
      split at finished
      · rename_i beyond
        cases recorded : record form program view seen state
            (relativeError form program state) with
        | error cause =>
            rw [recorded] at finished
            cases finished
        | ok all =>
            obtain ⟨shown, violated, rfl⟩ := record_eq_ok recorded
            rw [recorded] at finished
            refine .step beyond violated ?_
            rw [← Array.toList_push]
            dsimp only [bind, Except.bind] at finished
            split at finished
            · exact inductionHypothesis finished
            · exact finish_runs finished
      · exact finish_runs finished

theorem size_of_record {seen all : Array (Iterate K m p q)} {error : K}
    (recorded : record form program view seen state error = .ok all) :
    all.size = seen.size + 1 := by
  unfold record at recorded
  cases violated : violation form program state with
  | error cause =>
      rw [violated] at recorded
      cases recorded
  | ok shown =>
      rw [violated] at recorded
      cases recorded
      exact Array.size_push _

theorem length_iterates_of_finish {seen : Array (Iterate K m p q)} {error : K}
    (finished : finish form options program view seen state error = .ok run) :
    run.iterates.length ≤ seen.size + 1 := by
  unfold finish at finished
  split at finished
  · cases recorded : record form program view seen state error with
    | error cause =>
        rw [recorded] at finished
        cases finished
    | ok all =>
        rw [recorded] at finished
        cases finished
        exact Nat.le_of_eq (size_of_record recorded)
  · split at finished <;>
      · cases finished
        exact Nat.le_succ _

/-- A run records at most one state more than it may take steps. -/
theorem length_iterates_of_loop {fuel : Nat} {seen : Array (Iterate K m p q)} {error : K}
    (finished : loop form options program view fuel seen state error = .ok run) :
    run.iterates.length ≤ seen.size + fuel + 1 := by
  induction fuel generalizing seen state error with
  | zero => exact length_iterates_of_finish finished
  | succ fuel inductionHypothesis =>
      unfold loop at finished
      split at finished
      · obtain ⟨all, recorded, onward⟩ := bind_eq_ok finished
        have size := size_of_record recorded
        dsimp only at onward
        split at onward
        · have bound := inductionHypothesis onward
          omega
        · have bound := length_iterates_of_finish onward
          omega
      · have bound := length_iterates_of_finish finished
        omega

end Loop

end PolyTrace.PrimalDual
