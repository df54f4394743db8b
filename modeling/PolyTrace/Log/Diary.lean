import PolyTrace.Log.Level

/-!
# What an engine notes down

While it runs an engine writes lines, which end up in the log of its report, and warnings, which do
not.  Both are handed on as log records: a warning at its own level, a line at the level of
information when the caller asked for it and at the level of debugging otherwise.
-/

namespace PolyTrace

/-- Something an engine notes down. -/
inductive Note where
  | line (text : String)
  | warning (text : String)
deriving DecidableEq

/-- A record handed to the logging system. -/
structure LogRecord where
  logger : String
  level : Level
  text : String
deriving DecidableEq

namespace Note

/-- The text of a line. -/
def line? : Note → Option String
  | line text => some text
  | warning _ => none

/-- The lines among some notes. -/
def lines (notes : List Note) : List String :=
  notes.filterMap line?

/-- The record of a note. -/
def toRecord (logger : String) (verbose : Bool) : Note → LogRecord
  | line text => ⟨logger, if verbose then infoLevel else debugLevel, text⟩
  | warning text => ⟨logger, warningLevel, text⟩

end Note

end PolyTrace
