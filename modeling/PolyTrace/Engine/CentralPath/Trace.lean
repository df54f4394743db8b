import PolyTrace.Engine.CentralPath.Newton
import PolyTrace.Log.Diary
import PolyTrace.Table

/-!
# Tracing the central path

The barrier levels fall geometrically from `1e3` to `1e-5`.  Each level starts at the last point
that was kept.  A level whose inner solve does not converge is skipped with a warning and leaves the
path unchanged; the path is complete when the last level was kept.
-/

namespace PolyTrace.CentralPath

/-- The settings of the central path. -/
structure Options (K : Type) where
  verbose : Bool := false
  niter : Nat
  weights : Option (List K) := none
  maxit : Nat
  epsilon : K
deriving DecidableEq

/-- The exponent of the first level. -/
def firstExponent : Int := 3

/-- The exponent of the last level. -/
def lastExponent : Int := -5

variable {K : Type} [Analytic K] {m n : Nat}

/-- The exponent of level `k` out of `count` levels. -/
def levelExponent (count k : Nat) : K :=
  let first : K := Scalar.ofRat firstExponent
  let last : K := Scalar.ofRat lastExponent
  if k + 1 = count ∧ k ≠ 0 then last
  else Scalar.ofRat k * ((last - first) / Scalar.ofRat ((count : Int) - 1)) + first

/-- The given number of barrier levels, spaced geometrically. -/
def schedule (count : Nat) : List K :=
  if count = 1 then [Analytic.powTen (Scalar.ofRat firstExponent)]
  else (List.range count).map fun k => Analytic.powTen (levelExponent count k)

/-- Why a level was skipped. -/
inductive Reason (K : Type) where
  | failed (cause : Failure K)
  | exhausted (steps : Nat)

/-- What became of one level. -/
inductive Level (K : Type) (n : Nat) where
  | kept (mu : K) (x : Vec K n) (barrier : BarrierValue K) (objective : K)
  | skipped (mu : K) (reason : Reason K)

/-- Solve the levels one after the other, each from the last point kept. -/
def levels (options : Options K) (problem : Weighted K m n) :
    (schedule : List K) → Vec K n → Except Fault (List (Level K n))
  | [], _ => .ok []
  | mu :: rest, x => do
    match ← newton problem options.epsilon mu options.maxit x with
    | .converged next =>
      let more ← levels options problem rest next
      return .kept mu next (barrier problem mu next) (problem.c.dot next) :: more
    | .exhausted _ =>
      let more ← levels options problem rest x
      return .skipped mu (.exhausted options.maxit) :: more
    | .failed cause =>
      let more ← levels options problem rest x
      return .skipped mu (.failed cause) :: more

/-- A path: the levels that were tried and what became of them. -/
structure Path (K : Type) (n : Nat) where
  schedule : List K
  levels : List (Level K n)

/-- The central path of a problem from a starting point. -/
def trace (options : Options K) (problem : Weighted K m n) (start : Vec K n) :
    Except Fault (Path K n) :=
  let tried := schedule options.niter
  (levels options problem tried start).map fun found => ⟨tried, found⟩

namespace Level

/-- The level of a kept point. -/
def keptMu? : Level K n → Option K
  | kept mu _ _ _ => some mu
  | skipped _ _ => none

/-- The level of a skipped point. -/
def skippedMu? : Level K n → Option K
  | kept _ _ _ _ => none
  | skipped mu _ => some mu

/-- The point that was kept. -/
def point? : Level K n → Option (Vec K n)
  | kept _ x _ _ => some x
  | skipped _ _ => none

/-- The barrier objective of the point that was kept. -/
def barrier? : Level K n → Option (BarrierValue K)
  | kept _ _ value _ => some value
  | skipped _ _ => none

end Level

namespace Path

/-- The levels of the kept points. -/
def mu (path : Path K n) : List K :=
  path.levels.filterMap Level.keptMu?

/-- The levels that were skipped. -/
def skipped (path : Path K n) : List K :=
  path.levels.filterMap Level.skippedMu?

/-- The kept points. -/
def points (path : Path K n) : List (Vec K n) :=
  path.levels.filterMap Level.point?

/-- The barrier objectives of the kept points. -/
def barriers (path : Path K n) : List (BarrierValue K) :=
  path.levels.filterMap Level.barrier?

/-- The last level of the schedule was kept. -/
def complete (path : Path K n) : Bool :=
  match path.mu.getLast?, path.schedule.getLast? with
  | some kept, some last => decide (Scalar.Same kept last)
  | _, _ => false

end Path

/-! ## The log of a path -/

variable [ReadsOut K]

/-- The table of the method. -/
def table : Table :=
  [⟨"Iter", 4, .whole⟩, .firstCoordinate, .secondCoordinate, .objective, .barrier]

/-- The warning about a skipped level. -/
def skipText (mu : K) (reason : Reason K) : String :=
  "Skipping barrier level mu=" ++ (Numeral.scientific 3).render (ReadsOut.readout mu) ++ ": " ++
    match reason with
    | .failed cause => cause.message
    | .exhausted steps => "no convergence in " ++ Numeral.digits steps ++ " Newton steps"

/-- The notes of the levels, the kept ones being numbered from `count + 1` on. -/
def levelNotes : (count : Nat) → List (Level K n) → List Note
  | _, [] => []
  | count, .kept mu x _ objective :: rest =>
    .line (table.row
      [.whole (count + 1), .ofNumber x.leading.1, .ofNumber x.leading.2, .ofNumber objective,
        .ofNumber mu]) :: levelNotes (count + 1) rest
  | count, .skipped mu reason :: rest =>
    .warning (skipText mu reason) :: levelNotes count rest

/-- The message at the end of a path that took `elapsed` milliseconds. -/
def Path.message (path : Path K n) (elapsed : Readout) : String :=
  "Computed " ++ Numeral.digits path.points.length ++ " central path points (" ++
    Numeral.digits path.skipped.length ++ " barrier levels skipped) in " ++
    (Numeral.fixed 1).render elapsed ++ " ms"

/-- What is noted down along a path. -/
def Path.notes (path : Path K n) (elapsed : Readout) : List Note :=
  .line table.header :: levelNotes 0 path.levels ++ [.line (path.message elapsed)]

/-- The line of a problem without rows of positive or negative weight, and the message after it. -/
def noRowsNotes : List String :=
  ["No lines to process after filtering.",
    "Nothing to solve: every inequality has zero weight."]

/-- The line of an empty schedule, and the message after it. -/
def noLevelsNotes : List String :=
  ["Barrier schedule is empty (niter = 0); no central path points computed.",
    "Nothing to solve: niter is 0."]

end PolyTrace.CentralPath
