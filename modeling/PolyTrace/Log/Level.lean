import PolyTrace.Data.Datum
import PolyTrace.Failure

/-!
# Levels of log records

A level is a whole number, or a flag in its place, which counts as one or zero.  A record is written
only by those whose level does not exceed its own.

A level is asked for by plain data.  A word, in any case, stands for a level; a few words are known
for other things, and what they stand for is no level.  Whether data is a level shows only when it
is given to a logger.
-/

namespace PolyTrace

/-- A level. -/
inductive Level where
  | number (value : Int)
  | flag (value : Bool)
deriving DecidableEq

/-- The level of debugging output. -/
def debugLevel : Level := .number 10

/-- The level of information. -/
def infoLevel : Level := .number 20

/-- The level of warnings. -/
def warningLevel : Level := .number 30

/-- The level of errors. -/
def errorLevel : Level := .number 40

/-- The level of critical errors. -/
def criticalLevel : Level := .number 50

namespace Level

/-- The number that a level counts as. -/
def value : Level → Int
  | number value => value
  | flag value => if value then 1 else 0

/-- No level at all. -/
def unset : Level := .number 0

/-- The text of a level. -/
def text : Level → String
  | number value => intText value
  | flag value => if value then "True" else "False"

/-- The word for a level. -/
def word (level : Level) : String :=
  if level.value = debugLevel.value then "DEBUG"
  else if level.value = infoLevel.value then "INFO"
  else if level.value = warningLevel.value then "WARNING"
  else if level.value = errorLevel.value then "ERROR"
  else if level.value = criticalLevel.value then "CRITICAL"
  else if level.value = unset.value then "NOTSET"
  else "Level " ++ level.text

/-! ## Asking for a level -/

/-- A level as data. -/
def toDatum : Level → Datum
  | number value => .whole value
  | flag value => .flag value

/-- A character in upper case.  Besides the plain letters, the dotless i and the long s have a plain
upper case. -/
def upperCase (c : Char) : Char :=
  if c.toNat = 0x131 then 'I' else if c.toNat = 0x17f then 'S' else c.toUpper

/-- What a word stands for.  An unknown word stands for warnings; the names of the plain layout and
of the table of styles are known. -/
def ofWord (word : String) : Datum :=
  match word.map upperCase with
  | "DEBUG" => debugLevel.toDatum
  | "INFO" => infoLevel.toDatum
  | "WARNING" => warningLevel.toDatum
  | "WARN" => warningLevel.toDatum
  | "ERROR" => errorLevel.toDatum
  | "CRITICAL" => criticalLevel.toDatum
  | "FATAL" => criticalLevel.toDatum
  | "NOTSET" => unset.toDatum
  | "BASIC_FORMAT" => .text "%(levelname)s:%(name)s:%(message)s"
  | "_STYLES" => .object []
  | _ => warningLevel.toDatum

/-- What data asks for: text stands for something else, all other data for itself. -/
def asked : Datum → Datum
  | .text word => ofWord word
  | data => data

/-- The level that data is. -/
def ofDatum : Datum → Except Fault Level
  | .whole value => .ok (.number value)
  | .flag value => .ok (.flag value)
  | .text _ => .error .notANumber
  | _ => .error .argument

/-- Every level is the level that it is as data. -/
theorem ofDatum_toDatum (level : Level) : ofDatum level.toDatum = .ok level := by
  cases level <;> rfl

end Level

end PolyTrace
