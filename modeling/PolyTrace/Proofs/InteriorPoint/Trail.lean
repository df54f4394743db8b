import Mathlib.Data.List.Chain
import PolyTrace.Engine.InteriorPoint

/-!
# The points an interior point run goes through

`Trail options program point iterates last` says that from `point` the method takes one step after
another, recording `iterates`, until it stands at `last`.  A run that finishes is such a trail,
followed by the record of its last point and the reason why it went no further.  This holds in every
arithmetic; what a run preserves then follows by induction along its trail.
-/

namespace PolyTrace.InteriorPoint

variable {K : Type} [Scalar K] {m n : Nat}

/-- What is recorded of a point. -/
def record (program : Program K m n) (point : Point K m n) (infeasibility : K) :
    Iterate K m n :=
  let here := residuals program point
  ⟨point, here.mu, here.objective, infeasibility⟩

/-- The method looks at a point, finds its row residual, and gives a verdict on its convergence. -/
structure Verdict (options : Options K) (program : Program K m n) (point : Point K m n)
    (infeasibility : K) (converged : Bool) : Prop where
  rows : extremum (residuals program point).rows = .ok infeasibility
  tests : hasConverged options (residuals program point) infeasibility = .ok converged

/-- The step computed at a point. -/
def stepAt (program : Program K m n) (point : Point K m n) :
    Except (Trouble K) (Point K m n) :=
  let here := residuals program point
  direction program.A point.s point.y here.rows here.columns here.mu

/-- Steps from a point to another, with the points recorded on the way. -/
inductive Trail (options : Options K) (program : Program K m n) :
    Point K m n → List (Iterate K m n) → Point K m n → Prop
  | here (point : Point K m n) : Trail options program point [] point
  | step {point d last : Point K m n} {infeasibility : K} {rest : List (Iterate K m n)}
      (verdict : Verdict options program point infeasibility false)
      (found : stepAt program point = .ok d)
      (onward : Trail options program (advance options point d) rest last) :
      Trail options program point (record program point infeasibility :: rest) last

/-- Why a run went no further than its last point, after `steps` of at most `fuel` steps and with
`seen` recorded points. -/
inductive Halts (options : Options K) (program : Program K m n) (last : Point K m n)
    (infeasibility : K) (fuel steps seen : Nat) : Ending K → Prop
  | converged (verdict : Verdict options program last infeasibility true) :
      Halts options program last infeasibility fuel steps seen .converged
  | exhausted (verdict : Verdict options program last infeasibility false)
      (all : steps = fuel) :
      Halts options program last infeasibility fuel steps seen .exhausted
  | aborted {cause : Failure K} (verdict : Verdict options program last infeasibility false)
      (more : steps < fuel) (failed : stepAt program last = .error (.failure cause)) :
      Halts options program last infeasibility fuel steps seen (.aborted seen cause)

/-- What one turn of the loop can do when the run finishes: stop at a point that passes the tests,
stop because no step is left or because there is none, or go on along a step. -/
theorem loop_cases {options : Options K} {program : Program K m n} {fuel : Nat}
    {point : Point K m n} {seen : Array (Iterate K m n)} {run : Run K m n}
    (finished : loop options program fuel point seen = .ok run) :
    ∃ infeasibility,
      (Verdict options program point infeasibility true ∧
        run = ⟨(seen.push (record program point infeasibility)).toList, .converged⟩) ∨
      Verdict options program point infeasibility false ∧
        ((fuel = 0 ∧
          run = ⟨(seen.push (record program point infeasibility)).toList, .exhausted⟩) ∨
        (∃ cause, 0 < fuel ∧ stepAt program point = .error (.failure cause) ∧
          run = ⟨(seen.push (record program point infeasibility)).toList,
            .aborted (seen.push (record program point infeasibility)).size cause⟩) ∨
        ∃ less d, fuel = less + 1 ∧ stepAt program point = .ok d ∧
          loop options program less (advance options point d)
            (seen.push (record program point infeasibility)) = .ok run) := by
  unfold loop at finished
  dsimp only [bind, Except.bind] at finished
  split at finished
  · cases finished
  · rename_i infeasibility rows
    refine ⟨infeasibility, ?_⟩
    split at finished
    · cases finished
    · rename_i converged tests
      split at finished
      · rename_i accepted
        cases finished
        exact .inl ⟨⟨rows, accepted ▸ tests⟩, rfl⟩
      · rename_i refused
        rw [Bool.not_eq_true] at refused
        refine .inr ⟨⟨rows, refused ▸ tests⟩, ?_⟩
        cases fuel with
        | zero =>
            cases finished
            exact .inl ⟨rfl, rfl⟩
        | succ less =>
            dsimp only at finished
            split at finished
            · rename_i cause failed
              cases finished
              exact .inr (.inl ⟨cause, Nat.succ_pos less, failed, rfl⟩)
            · cases finished
            · rename_i d found
              exact .inr (.inr ⟨less, d, rfl, found, finished⟩)

/-- A run that finishes is a trail with the record of its last point behind it. -/
theorem loop_eq_ok {options : Options K} {program : Program K m n} {fuel : Nat}
    {point : Point K m n} {seen : Array (Iterate K m n)} {run : Run K m n}
    (finished : loop options program fuel point seen = .ok run) :
    ∃ iterates last infeasibility, Trail options program point iterates last ∧
      run.iterates = seen.toList ++ iterates ++ [record program last infeasibility] ∧
      Halts options program last infeasibility fuel iterates.length run.iterates.length
        run.ending := by
  induction fuel generalizing point seen with
  | zero =>
      obtain ⟨infeasibility, ⟨verdict, rfl⟩ | ⟨verdict, ⟨-, rfl⟩ | ⟨_, positive, _⟩ |
        ⟨_, _, impossible, _⟩⟩⟩ := loop_cases finished
      · exact ⟨[], point, infeasibility, .here point, by simp, .converged verdict⟩
      · exact ⟨[], point, infeasibility, .here point, by simp, .exhausted verdict rfl⟩
      · exact absurd positive (Nat.lt_irrefl 0)
      · exact absurd impossible.symm (Nat.succ_ne_zero _)
  | succ fuel inductionHypothesis =>
      obtain ⟨infeasibility, ⟨verdict, rfl⟩ | ⟨verdict, ⟨impossible, _⟩ |
        ⟨cause, _, failed, rfl⟩ | ⟨less, d, fuel_eq, found, onward⟩⟩⟩ := loop_cases finished
      · exact ⟨[], point, infeasibility, .here point, by simp, .converged verdict⟩
      · exact absurd impossible (Nat.succ_ne_zero fuel)
      · refine ⟨[], point, infeasibility, .here point, by simp, ?_⟩
        rw [← Array.length_toList]
        exact .aborted verdict (Nat.succ_pos fuel) failed
      · rw [Nat.succ_inj] at fuel_eq
        subst fuel_eq
        obtain ⟨iterates, last, lastInfeasibility, trail, recorded, halts⟩ :=
          inductionHypothesis onward
        refine ⟨record program point infeasibility :: iterates, last, lastInfeasibility,
          .step verdict found trail, by simp [recorded], ?_⟩
        obtain ⟨recordedIterates, ending⟩ := run
        dsimp only at halts ⊢
        cases halts with
        | converged verdict => exact .converged verdict
        | exhausted verdict all => exact .exhausted verdict (congrArg Nat.succ all)
        | aborted verdict more failed => exact .aborted verdict (Nat.succ_lt_succ more) failed

/-- A run records at least one point, and at most one more than it may take steps. -/
theorem length_iterates_of_loop {options : Options K} {program : Program K m n} {fuel : Nat}
    {point : Point K m n} {seen : Array (Iterate K m n)} {run : Run K m n}
    (finished : loop options program fuel point seen = .ok run) :
    seen.size < run.iterates.length ∧ run.iterates.length ≤ seen.size + fuel + 1 := by
  induction fuel generalizing point seen with
  | zero =>
      obtain ⟨infeasibility, ⟨_, rfl⟩ | ⟨_, ⟨_, rfl⟩ | ⟨_, positive, _⟩ |
        ⟨_, _, impossible, _⟩⟩⟩ := loop_cases finished
      · simp
      · simp
      · exact absurd positive (Nat.lt_irrefl 0)
      · exact absurd impossible.symm (Nat.succ_ne_zero _)
  | succ fuel inductionHypothesis =>
      obtain ⟨infeasibility, ⟨_, rfl⟩ | ⟨_, ⟨_, rfl⟩ | ⟨_, _, _, rfl⟩ |
        ⟨less, d, fuel_eq, _, onward⟩⟩⟩ := loop_cases finished
      · simp
      · simp
      · simp
      · rw [Nat.succ_inj] at fuel_eq
        subst fuel_eq
        have bounds := inductionHypothesis onward
        rw [Array.size_push] at bounds
        omega

/-! ## What steps keep -/

section Kept

variable {options : Options K} {program : Program K m n} {point last : Point K m n}
  {iterates : List (Iterate K m n)} {P : Point K m n → Prop}

/-- What every step keeps holds at the end of a trail that starts with it. -/
theorem Trail.last_of_kept (kept : ∀ point d, P point → P (advance options point d))
    (trail : Trail options program point iterates last) (holds : P point) : P last := by
  induction trail with
  | here => exact holds
  | step _ _ _ inductionHypothesis => exact inductionHypothesis (kept _ _ holds)

/-- What every step keeps holds of every point that is recorded along a trail. -/
theorem Trail.forall_iterates_of_kept (kept : ∀ point d, P point → P (advance options point d))
    (trail : Trail options program point iterates last) (holds : P point) :
    ∀ iterate ∈ iterates, ∃ visited infeasibility, P visited ∧
      Verdict options program visited infeasibility false ∧
      iterate = record program visited infeasibility := by
  induction trail with
  | here => exact fun _ member => absurd member List.not_mem_nil
  | @step point d last infeasibility rest verdict _ _ inductionHypothesis =>
      intro iterate member
      rcases List.mem_cons.mp member with rfl | member
      · exact ⟨point, infeasibility, holds, verdict, rfl⟩
      · exact inductionHypothesis (kept point d holds) iterate member

/-- The records of a trail, with that of its last point, start with the record of its first. -/
theorem Trail.exists_eq_cons (trail : Trail options program point iterates last)
    (lastInfeasibility : K) :
    ∃ infeasibility rest, iterates ++ [record program last lastInfeasibility] =
      record program point infeasibility :: rest := by
  cases trail with
  | here => exact ⟨lastInfeasibility, [], rfl⟩
  | step => exact ⟨_, _, rfl⟩

theorem Halts.rows {infeasibility : K} {fuel steps seen : Nat} {ending : Ending K}
    (halts : Halts options program last infeasibility fuel steps seen ending) :
    extremum (residuals program last).rows = .ok infeasibility := by
  cases halts with
  | converged verdict => exact verdict.rows
  | exhausted verdict => exact verdict.rows
  | aborted verdict => exact verdict.rows

/-- What every step keeps holds of every point that a run records. -/
theorem forall_iterates_of_loop (kept : ∀ point d, P point → P (advance options point d))
    {fuel : Nat} {run : Run K m n} (finished : loop options program fuel point #[] = .ok run)
    (holds : P point) :
    ∀ iterate ∈ run.iterates, ∃ visited infeasibility, P visited ∧
      extremum (residuals program visited).rows = .ok infeasibility ∧
      iterate = record program visited infeasibility := by
  obtain ⟨iterates, last, lastInfeasibility, trail, recorded, halts⟩ := loop_eq_ok finished
  intro iterate member
  rw [recorded, List.nil_append, List.mem_append, List.mem_singleton] at member
  rcases member with member | rfl
  · obtain ⟨visited, infeasibility, here, verdict, rfl⟩ :=
      trail.forall_iterates_of_kept kept holds iterate member
    exact ⟨visited, infeasibility, here, verdict.rows, rfl⟩
  · exact ⟨last, lastInfeasibility, trail.last_of_kept kept holds, halts.rows, rfl⟩

/-- What a step keeps relates the record of each point of a trail to the record of the next. -/
theorem Trail.isChain_of_kept (kept : ∀ point d, P point → P (advance options point d))
    {R : Iterate K m n → Iterate K m n → Prop}
    (related : ∀ point d infeasibility nextInfeasibility, P point →
      stepAt program point = .ok d →
      R (record program point infeasibility)
        (record program (advance options point d) nextInfeasibility))
    (trail : Trail options program point iterates last) (holds : P point)
    (lastInfeasibility : K) :
    (iterates ++ [record program last lastInfeasibility]).IsChain R := by
  induction trail with
  | here last => exact .singleton _
  | @step point d last infeasibility rest _ found onward inductionHypothesis =>
      have chain := inductionHypothesis (kept point d holds)
      obtain ⟨nextInfeasibility, others, recorded⟩ := onward.exists_eq_cons lastInfeasibility
      rw [recorded] at chain
      rw [List.cons_append, recorded]
      exact .cons_cons (related point d infeasibility nextInfeasibility holds found) chain

/-- What a step keeps relates each record of a run to the next. -/
theorem isChain_iterates_of_loop (kept : ∀ point d, P point → P (advance options point d))
    {R : Iterate K m n → Iterate K m n → Prop}
    (related : ∀ point d infeasibility nextInfeasibility, P point →
      stepAt program point = .ok d →
      R (record program point infeasibility)
        (record program (advance options point d) nextInfeasibility))
    {fuel : Nat} {run : Run K m n} (finished : loop options program fuel point #[] = .ok run)
    (holds : P point) : run.iterates.IsChain R := by
  obtain ⟨iterates, last, lastInfeasibility, trail, recorded, -⟩ := loop_eq_ok finished
  rw [recorded, List.nil_append]
  exact trail.isChain_of_kept kept related holds lastInfeasibility

end Kept

end PolyTrace.InteriorPoint
