import PolyTrace.Data.Datum
import PolyTrace.Log.Layout

/-!
# Loggers

Loggers are kept by their full names, which are divided by dots.  The loggers of this program have
names that begin with the program's own; such a logger is set up when it is first asked for, with one
handler that writes to the error stream.  Setting the level, or configuring the logging, reaches
every logger of the program and the ones that are asked for later.  What is set as the level of later
loggers is kept as it was asked for; if it is no level, asking for a new logger fails.

A record that is logged is handed to the handlers of its logger and, as long as the loggers pass
records on, to those of its ancestors.  A logger without a level of its own takes the level of its
nearest ancestor that has one.
-/

namespace PolyTrace

/-- Where a handler writes. -/
inductive LogStream where
  | errors
  | other
deriving DecidableEq

/-- A handler: the least level it writes, where it writes, and in which layout. -/
structure Handler where
  level : Level
  stream : LogStream
  layout : RecordLayout
deriving DecidableEq

/-- A logger: its level, of value zero for none, its handlers, and whether it passes records on. -/
structure Logger where
  level : Level := .unset
  propagate : Bool := true
  handlers : List Handler := []
deriving DecidableEq

/-- All loggers, the names of those that belong to the program, and what is to be the level of future
ones. -/
structure LogRegistry where
  defaultLevel : Datum := warningLevel.toDatum
  root : Logger := { level := warningLevel }
  loggers : List (String × Logger) := []
  known : List String := []

/-- The name that the program's loggers begin with. -/
def programName : String := "lpviz_solvers"

/-- The full name of a logger of the program. -/
def fullName : Option String → String
  | none => programName
  | some name =>
    if programName.toList.isPrefixOf name.toList then name else programName ++ "." ++ name

namespace LogRegistry

/-- The logger of a full name. -/
def find? (registry : LogRegistry) (name : String) : Option Logger :=
  (registry.loggers.find? fun entry => entry.1 = name).map Prod.snd

/-- A full name that stands for the root. -/
def isRoot (name : String) : Bool :=
  name = "" || name = "root"

/-- Put a logger in place of the one of the same name, or add it at the end. -/
def putIn (name : String) (logger : Logger) : List (String × Logger) → List (String × Logger)
  | [] => [(name, logger)]
  | entry :: rest =>
    if entry.1 = name then (name, logger) :: rest else entry :: putIn name logger rest

/-- Put a logger under its full name. -/
def put (registry : LogRegistry) (name : String) (logger : Logger) : LogRegistry :=
  { registry with loggers := putIn name logger registry.loggers }

/-- The logger as it is when the program first asks for it.  One that has handlers is left alone. -/
def setUp (registry : LogRegistry) (logger : Logger) : Except Fault Logger :=
  if logger.handlers.isEmpty then
    (Level.ofDatum registry.defaultLevel).map fun level =>
      { level := level, propagate := false, handlers := [⟨level, .errors, .standard⟩] }
  else .ok logger

/-- Ask for a logger of the program. -/
def get (registry : LogRegistry) (name : Option String) : Except Fault (String × LogRegistry) :=
  let full := fullName name
  if full ∈ registry.known then .ok (full, registry)
  else
    (registry.setUp ((registry.find? full).getD {})).map fun logger =>
      (full, { registry.put full logger with known := registry.known ++ [full] })

/-- Change every logger of the program. -/
def mapKnown (registry : LogRegistry) (change : Logger → Logger) : LogRegistry :=
  { registry with
    loggers := registry.loggers.map fun entry =>
      if entry.1 ∈ registry.known then (entry.1, change entry.2) else entry }

/-- Bring every logger of the program to a level, and future ones too.  If there are none so far,
nothing shows whether it is a level. -/
def mapLevel (registry : LogRegistry) (level : Datum) (change : Level → Logger → Logger) :
    Except Fault LogRegistry :=
  let asked := Level.asked level
  if registry.known.isEmpty then .ok { registry with defaultLevel := asked }
  else
    (Level.ofDatum asked).map fun level =>
      { registry.mapKnown (change level) with defaultLevel := asked }

/-- Set the level of every logger of the program and of its handlers. -/
def setLevel (registry : LogRegistry) (level : Datum) : Except Fault LogRegistry :=
  registry.mapLevel level fun level logger =>
    { logger with
      level := level
      handlers := logger.handlers.map fun handler => { handler with level := level } }

/-- The layout that is asked for; an empty one is the standard one. -/
def layoutOf : Datum → Except Fault RecordLayout
  | .text text => if text.isEmpty then .ok .standard else RecordLayout.parse text
  | data => if data.truth then .error .argument else .ok .standard

/-- Give every logger of the program a level and one new handler.  A bad layout or level changes
nothing; the layout is looked at first. -/
def configure (registry : LogRegistry) (level layout : Datum) (stream : LogStream) :
    Except Fault LogRegistry := do
  let layout ← layoutOf layout
  registry.mapLevel level fun level logger =>
    { logger with level := level, handlers := [⟨level, stream, layout⟩] }

/-- Add a handler that writes messages alone to the logger of a full name, or to the root. -/
def attach (registry : LogRegistry) (name : String) : LogRegistry :=
  let handler : Handler := ⟨.unset, .other, .messageOnly⟩
  if isRoot name then
    { registry with
      root := { registry.root with handlers := registry.root.handlers ++ [handler] } }
  else
    let logger := (registry.find? name).getD {}
    registry.put name { logger with handlers := logger.handlers ++ [handler] }

/-! ## Logging a record -/

/-- The names above a name, nearest first: what stands before each dot, where of two dots next to
each other only the last counts.  The name is given last character first. -/
def ancestorsReversed : List Char → List (List Char)
  | [] => []
  | '.' :: '.' :: rest => ('.' :: rest) :: ancestorsReversed rest
  | c :: rest => if c = '.' then rest :: ancestorsReversed rest else ancestorsReversed rest

/-- The names above a name, nearest first. -/
def ancestors (name : String) : List String :=
  ((ancestorsReversed name.toList.reverse).map fun chars => String.ofList chars.reverse).filter
    fun ancestor => !ancestor.isEmpty

/-- The loggers a record passes, from its own to the root. -/
def lineage (registry : LogRegistry) (name : String) : List Logger :=
  (name :: ancestors name).filterMap registry.find? ++ [registry.root]

/-- The level that decides whether a record is made. -/
def effectiveLevel (registry : LogRegistry) (name : String) : Int :=
  ((registry.lineage name).find? fun logger => logger.level.value ≠ 0).elim 0 fun logger =>
    logger.level.value

/-- The handlers that a record reaches. -/
def reached : List Logger → List Handler
  | [] => []
  | logger :: rest =>
    logger.handlers ++ if logger.propagate then reached rest else []

/-- A record is made when its level is positive and not below the level of its logger. -/
def isEnabled (registry : LogRegistry) (record : LogRecord) : Bool :=
  0 < record.level.value && registry.effectiveLevel record.logger ≤ record.level.value

/-- The line that a handler writes for a record. -/
def line? (record : LogRecord) (handler : Handler) : Option (LogStream × String) :=
  if handler.level.value ≤ record.level.value then
    (handler.layout.render? record).map fun line => (handler.stream, line ++ "\n")
  else none

/-- The lines that a record writes, each with its stream. -/
def emit (registry : LogRegistry) (record : LogRecord) : List (LogStream × String) :=
  if registry.isEnabled record then
    (reached (registry.lineage record.logger)).filterMap (line? record)
  else []

/-- The text that some records write to one stream. -/
def written (registry : LogRegistry) (stream : LogStream) (records : List LogRecord) : String :=
  String.join ((records.flatMap registry.emit).filterMap fun line =>
    if line.1 = stream then some line.2 else none)

end LogRegistry

end PolyTrace
