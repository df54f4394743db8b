/-!
# How a run ends

The status of a report names how the run behind it ended.  Two statuses belong to runs that went
through; the others say what stopped a run.
-/

namespace PolyTrace

/-- How a run ended. -/
inductive Status where
  | converged
  | maxIterations
  | error
  | infeasible
  | unbounded
  | singular
  | stalled
  | lineSearchStuck
  | invalidInput
deriving DecidableEq, Inhabited

namespace Status

/-- Every status, in the order in which they are listed to a user. -/
def all : List Status :=
  [converged, maxIterations, error, infeasible, unbounded, singular, stalled, lineSearchStuck,
    invalidInput]

/-- The word for a status. -/
def word : Status → String
  | converged => "converged"
  | maxIterations => "max_iterations"
  | error => "error"
  | infeasible => "infeasible"
  | unbounded => "unbounded"
  | singular => "singular"
  | stalled => "stalled"
  | lineSearchStuck => "line_search_stuck"
  | invalidInput => "invalid_input"

/-- The status with the given word. -/
def ofWord? (text : String) : Option Status :=
  all.find? fun status => status.word = text

/-- Every status is found again by its word. -/
theorem ofWord?_word (status : Status) : ofWord? status.word = some status := by
  cases status <;> decide

end Status

end PolyTrace
