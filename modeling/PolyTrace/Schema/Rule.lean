import PolyTrace.Data.Datum
import PolyTrace.Schema.Issue
import PolyTrace.Schema.NumberText

/-!
# Rules for single values

A rule turns data into a value of a certain kind, or says what is wrong with it.  Rules are lenient:
a flag counts as a number, a number may be written as text, a whole number may be written with a
point, and a flag may be a word or a digit.
-/

namespace PolyTrace.Rule

/-- A machine number, from a number, a flag or text. -/
def number : Datum → Except Issue.Kind Float
  | .flag value => .ok (if value then 1 else 0)
  | .whole value =>
    match Binary64.ofInt? value with
    | some found => .ok found
    | none => .error .floatType
  | .number value => .ok value
  | .text value =>
    match NumberText.number? value with
    | some found => .ok (Binary64.ofReadout found)
    | none => .error .floatParsing
  | _ => .error .floatType

/-- The whole number that a machine number stands for, if it has no fraction and less than 64
bits. -/
def wholeOfNumber (value : Float) : Except Issue.Kind Int :=
  match (Binary64.readout value).toRat? with
  | none => .error .finiteNumber
  | some exact =>
    if exact.den ≠ 1 then .error .intFromFloat
    else if exact.num.natAbs < twoPow 63 then .ok exact.num
    else .error .intParsingSize

/-- A whole number, from a number, a flag or text. -/
def whole : Datum → Except Issue.Kind Int
  | .flag value => .ok (if value then 1 else 0)
  | .whole value => .ok value
  | .number value => wholeOfNumber value
  | .text value => NumberText.whole value
  | _ => .error .intType

/-- The words for yes and no. -/
def wordFlag? (word : String) : Option Bool :=
  let lower := word.map Char.toLower
  if lower ∈ ["1", "true", "t", "yes", "y", "on"] then some true
  else if lower ∈ ["0", "false", "f", "no", "n", "off"] then some false
  else none

/-- The digits for yes and no. -/
def digitFlag (value : Int) : Except Issue.Kind Bool :=
  if value = 1 then .ok true
  else if value = 0 then .ok false
  else .error .boolParsing

/-- A flag, from a flag, a digit or a word. -/
def flag : Datum → Except Issue.Kind Bool
  | .flag value => .ok value
  | .whole value =>
    if -(twoPow 63 : Int) ≤ value ∧ value < (twoPow 63 : Int) then digitFlag value else .error .boolType
  | .number value =>
    match wholeOfNumber value with
    | .ok found => digitFlag found
    | .error _ => .error .boolType
  | .text value =>
    match wordFlag? value with
    | some found => .ok found
    | none => .error .boolParsing
  | _ => .error .boolType

/-- Text. -/
def text : Datum → Except Issue.Kind String
  | .text value => .ok value
  | _ => .error .stringType

/-- One of several words, each standing for a value. -/
def choice {α : Type} (choices : List (String × α)) (data : Datum) : Except Issue.Kind α :=
  let refusal := Issue.Kind.literal (choices.map Prod.fst)
  match data with
  | .text value =>
    match choices.find? fun entry => entry.1 = value with
    | some entry => .ok entry.2
    | none => .error refusal
  | _ => .error refusal

/-- A positive number. -/
def positive (value : Float) : Except Issue.Kind Float :=
  if 0 < value then .ok value else .error (.greaterThan 0)

/-- A positive number that is at most one. -/
def share (value : Float) : Except Issue.Kind Float :=
  if 0 < value then if value ≤ 1 then .ok value else .error (.lessThanEqual 1)
  else .error (.greaterThan 0)

/-- A whole number between two bounds. -/
def between (low high : Nat) (value : Int) : Except Issue.Kind Nat :=
  if (low : Int) ≤ value then
    if value ≤ high then .ok value.toNat else .error (.lessThanEqual high)
  else .error (.greaterThanEqual low)

/-- The members of a list, checked one by one from the given place on. -/
def membersFrom {α : Type} (rule : Datum → Validated α) : Nat → List Datum → Validated (List α)
  | _, [] => .valid []
  | place, item :: rest =>
    List.cons <$> (rule item).within (.index place) <*> membersFrom rule (place + 1) rest

/-- A list, each member of which follows a rule. -/
def list {α : Type} (rule : Datum → Validated α) : Datum → Validated (List α)
  | .list items => membersFrom rule 0 items
  | _ => .invalid [⟨[], .listType⟩]

/-- A list of numbers. -/
def numbers : Datum → Validated (List Float) :=
  list fun item => .ofExcept (number item)

/-- A list of lists of numbers. -/
def rows : Datum → Validated (List (List Float)) :=
  list numbers

/-- Nothing, or a value that follows a rule. -/
def optional {α : Type} (rule : Datum → Validated α) : Datum → Validated (Option α)
  | .null => .valid none
  | data => some <$> rule data

/-! ## Fields of an object -/

/-- The first of the given names that an object has a field for, with the field. -/
def find? (names : List String) (fields : List (String × Datum)) : Option (String × Datum) :=
  names.findSome? fun name => (Datum.field? name fields).map fun data => (name, data)

/-- A field that may be left out.  If it has several names, the first one that is given counts. -/
def field {α : Type} (names : List String) (default : α) (rule : Datum → Validated α)
    (fields : List (String × Datum)) : Validated α :=
  match find? names fields with
  | some (name, data) => (rule data).within (.field name)
  | none => .valid default

/-- A field that has to be given. -/
def required {α : Type} (name : String) (rule : Datum → Validated α)
    (fields : List (String × Datum)) : Validated α :=
  match Datum.field? name fields with
  | some data => (rule data).within (.field name)
  | none => .invalid [⟨[.field name], .missing⟩]

/-- The fields of an object that follows the named schema. -/
def object {α : Type} (name : String) (rule : List (String × Datum) → Validated α) :
    Datum → Validated α
  | .object fields => rule fields
  | _ => .invalid [⟨[], .modelType name⟩]

end PolyTrace.Rule
