import PolyTrace.Engine.CentralPath.Trace
import PolyTrace.Proofs.Failure

/-!
# What becomes of the levels of a path

`Ascent problem epsilon mu x last` says that Newton's method at the level `mu` goes from `x` to
`last`, where the gradient is small enough.  `Course options problem schedule x levels` says what
becomes of the levels of a schedule, one constructor for each way a level can end: a kept level
moves the path to a new point, and a skipped one leaves it where it is.

The levels of a path are exactly such a course, in every arithmetic.
-/

namespace PolyTrace.CentralPath

/-! ## Levels and their ends -/

variable {K : Type} [Analytic K] {m n : Nat}

/-- Steps of Newton's method up to a point where the gradient is small. -/
inductive Ascent (problem : Weighted K m n) (epsilon mu : K) : Vec K n → Vec K n → Prop
  | here {x : Vec K n} (stationary : isStationary epsilon (gradient problem mu x) = .ok true) :
      Ascent problem epsilon mu x x
  | step {x next last : Vec K n}
      (stepped : newtonNext problem mu x (gradient problem mu x) = .ok next)
      (onward : Ascent problem epsilon mu next last) : Ascent problem epsilon mu x last

/-- What becomes of the levels of a schedule, each solved from the last point kept. -/
inductive Course (options : Options K) (problem : Weighted K m n) :
    List K → Vec K n → List (Level K n) → Prop
  | finished (x : Vec K n) : Course options problem [] x []
  | kept {mu : K} {rest : List K} {x next : Vec K n} {more : List (Level K n)}
      (converged : newton problem options.epsilon mu options.maxit x = .ok (.converged next))
      (onward : Course options problem rest next more) :
      Course options problem (mu :: rest) x
        (.kept mu next (barrier problem mu next) (problem.c.dot next) :: more)
  | exhausted {mu : K} {rest : List K} {x last : Vec K n} {more : List (Level K n)}
      (exhausted : newton problem options.epsilon mu options.maxit x = .ok (.exhausted last))
      (onward : Course options problem rest x more) :
      Course options problem (mu :: rest) x (.skipped mu (.exhausted options.maxit) :: more)
  | failed {mu : K} {rest : List K} {x : Vec K n} {cause : Failure K} {more : List (Level K n)}
      (failed : newton problem options.epsilon mu options.maxit x = .ok (.failed cause))
      (onward : Course options problem rest x more) :
      Course options problem (mu :: rest) x (.skipped mu (.failed cause) :: more)

section Newton

variable {problem : Weighted K m n} {epsilon mu : K} {fuel : Nat} {x last : Vec K n}

/-- Newton's method converges where it stands, or takes a step and converges from there. -/
theorem newton_eq_converged (finished : newton problem epsilon mu fuel x = .ok (.converged last)) :
    (isStationary epsilon (gradient problem mu x) = .ok true ∧ last = x) ∨
      ∃ left next, fuel = left + 1 ∧
        newtonNext problem mu x (gradient problem mu x) = .ok next ∧
        newton problem epsilon mu left next = .ok (.converged last) := by
  unfold newton at finished
  obtain ⟨stationary, judged, finished⟩ := bind_eq_ok finished
  cases stationary with
  | true =>
      cases finished
      exact .inl ⟨judged, rfl⟩
  | false =>
      cases fuel with
      | zero => cases finished
      | succ left =>
          cases stepped : newtonNext problem mu x (gradient problem mu x) with
          | error trouble =>
              rw [stepped] at finished
              cases trouble <;> cases finished
          | ok next =>
              rw [stepped] at finished
              exact .inr ⟨left, next, rfl, rfl, finished⟩

theorem newton_of_isStationary
    (stationary : isStationary epsilon (gradient problem mu x) = .ok true) :
    newton problem epsilon mu fuel x = .ok (.converged x) := by
  unfold newton
  dsimp only
  rw [stationary]
  rfl

theorem newton_of_newtonNext {next : Vec K n}
    (moving : isStationary epsilon (gradient problem mu x) = .ok false)
    (stepped : newtonNext problem mu x (gradient problem mu x) = .ok next) :
    newton problem epsilon mu (fuel + 1) x = newton problem epsilon mu fuel next := by
  conv => lhs; unfold newton
  dsimp only
  rw [moving, stepped]
  rfl

theorem newton_ascent (finished : newton problem epsilon mu fuel x = .ok (.converged last)) :
    Ascent problem epsilon mu x last := by
  induction fuel generalizing x with
  | zero =>
      rcases newton_eq_converged finished with ⟨stationary, rfl⟩ | ⟨_, _, spent, _, _⟩
      · exact .here stationary
      · cases spent
  | succ fuel inductionHypothesis =>
      rcases newton_eq_converged finished with
        ⟨stationary, rfl⟩ | ⟨left, next, spent, stepped, onward⟩
      · exact .here stationary
      · cases spent
        exact .step stepped (inductionHypothesis onward)

end Newton

/-- The levels of a path are its course. -/
theorem levels_eq_ok_iff {options : Options K} {problem : Weighted K m n} {schedule : List K}
    {x : Vec K n} {found : List (Level K n)} :
    levels options problem schedule x = .ok found ↔ Course options problem schedule x found := by
  constructor
  · intro solved
    induction schedule generalizing x found with
    | nil =>
        cases solved
        exact .finished x
    | cons mu rest inductionHypothesis =>
        unfold levels at solved
        obtain ⟨inner, ended, solved⟩ := bind_eq_ok solved
        cases inner with
        | converged next =>
            obtain ⟨more, onward, found_eq⟩ := bind_eq_ok solved
            cases found_eq
            exact .kept ended (inductionHypothesis onward)
        | exhausted last =>
            obtain ⟨more, onward, found_eq⟩ := bind_eq_ok solved
            cases found_eq
            exact .exhausted ended (inductionHypothesis onward)
        | failed cause =>
            obtain ⟨more, onward, found_eq⟩ := bind_eq_ok solved
            cases found_eq
            exact .failed ended (inductionHypothesis onward)
  · intro course
    induction course with
    | finished x => rfl
    | kept converged _ inductionHypothesis =>
        rw [levels, converged]
        dsimp only [bind, Except.bind]
        rw [inductionHypothesis]
        rfl
    | exhausted exhausted _ inductionHypothesis =>
        rw [levels, exhausted]
        dsimp only [bind, Except.bind]
        rw [inductionHypothesis]
        rfl
    | failed failed _ inductionHypothesis =>
        rw [levels, failed]
        dsimp only [bind, Except.bind]
        rw [inductionHypothesis]
        rfl

/-- A path is a course through its whole schedule. -/
theorem trace_eq_ok_iff {options : Options K} {problem : Weighted K m n} {start : Vec K n}
    {path : Path K n} :
    trace options problem start = .ok path ↔ path.schedule = schedule options.niter ∧
      Course options problem (schedule options.niter) start path.levels := by
  rw [← levels_eq_ok_iff]
  unfold trace
  dsimp only
  cases levels options problem (schedule options.niter) start with
  | error cause => simp [Except.map]
  | ok found =>
      obtain ⟨tried, kept⟩ := path
      simp [Except.map, eq_comm]

end PolyTrace.CentralPath
