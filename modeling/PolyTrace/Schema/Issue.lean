import PolyTrace.Failure

/-!
# What is wrong with some data

Data is checked against a schema, and everything that is wrong with it is reported at once: an
`Issue` says where and what.  `Validated` collects the issues of the parts of a value in the order
of the parts.
-/

namespace PolyTrace

/-- What is wrong with a value. -/
inductive Issue.Kind where
  | floatParsing
  | floatType
  | intFromFloat
  | intParsingSize
  | intParsing
  | intType
  | finiteNumber
  | boolParsing
  | boolType
  | greaterThan (bound : Nat)
  | greaterThanEqual (bound : Nat)
  | lessThanEqual (bound : Nat)
  | literal (choices : List String)
  | missing
  | listType
  | dictType
  | stringType
  | modelType (name : String)
deriving DecidableEq

namespace Issue.Kind

/-- The word for a kind of issue. -/
def word : Kind → String
  | floatParsing => "float_parsing"
  | floatType => "float_type"
  | intFromFloat => "int_from_float"
  | intParsingSize => "int_parsing_size"
  | intParsing => "int_parsing"
  | intType => "int_type"
  | finiteNumber => "finite_number"
  | boolParsing => "bool_parsing"
  | boolType => "bool_type"
  | greaterThan _ => "greater_than"
  | greaterThanEqual _ => "greater_than_equal"
  | lessThanEqual _ => "less_than_equal"
  | literal _ => "literal_error"
  | missing => "missing"
  | listType => "list_type"
  | dictType => "dict_type"
  | stringType => "string_type"
  | modelType _ => "model_type"

/-- Some choices as a list in words. -/
def choiceText : List String → String
  | [] => ""
  | [only] => "'" ++ only ++ "'"
  | [first, last] => "'" ++ first ++ "' or '" ++ last ++ "'"
  | first :: rest => "'" ++ first ++ "', " ++ choiceText rest

/-- The message of a kind of issue. -/
def message : Kind → String
  | floatParsing => "Input should be a valid number, unable to parse string as a number"
  | floatType => "Input should be a valid number"
  | intFromFloat => "Input should be a valid integer, got a number with a fractional part"
  | intParsingSize => "Unable to parse input string as an integer, exceeded maximum size"
  | intParsing => "Input should be a valid integer, unable to parse string as an integer"
  | intType => "Input should be a valid integer"
  | finiteNumber => "Input should be a finite number"
  | boolParsing => "Input should be a valid boolean, unable to interpret input"
  | boolType => "Input should be a valid boolean"
  | greaterThan bound => "Input should be greater than " ++ Numeral.digits bound
  | greaterThanEqual bound => "Input should be greater than or equal to " ++ Numeral.digits bound
  | lessThanEqual bound => "Input should be less than or equal to " ++ Numeral.digits bound
  | literal choices => "Input should be " ++ choiceText choices
  | missing => "Field required"
  | listType => "Input should be a valid list"
  | dictType => "Input should be a valid dictionary"
  | stringType => "Input should be a valid string"
  | modelType name => "Input should be a valid dictionary or instance of " ++ name

end Issue.Kind

/-- One step on the way to a part of a value. -/
inductive Issue.Step where
  | field (name : String)
  | index (place : Nat)
deriving DecidableEq

/-- Something wrong with a part of a value. -/
structure Issue where
  place : List Issue.Step
  kind : Issue.Kind
deriving DecidableEq

namespace Issue

/-- The text of one step. -/
def Step.text : Step → String
  | .field name => name
  | .index place => Numeral.digits place

/-- The lines of an issue: its place, unless it is the value itself, and its message. -/
def lines (issue : Issue) : List String :=
  let detail := "  " ++ issue.kind.message ++ " [type=" ++ issue.kind.word ++ "]"
  match issue.place with
  | [] => [detail]
  | place => [".".intercalate (place.map Step.text), detail]

/-- The summary of all issues of a value of the named schema. -/
def summary (name : String) (issues : List Issue) : String :=
  let noun := if issues.length = 1 then " validation error for " else " validation errors for "
  "\n".intercalate
    ((Numeral.digits issues.length ++ noun ++ name) :: issues.flatMap lines)

end Issue

/-- A value that passed the checks, or everything that is wrong with it. -/
inductive Validated (α : Type) where
  | valid (value : α)
  | invalid (issues : List Issue)
deriving DecidableEq

namespace Validated

variable {α β : Type}

/-- A valid value is mapped. -/
def map (f : α → β) : Validated α → Validated β
  | valid value => valid (f value)
  | invalid issues => invalid issues

/-- Both parts are checked, and the issues of both are kept. -/
def apply (f : Validated (α → β)) (x : Validated α) : Validated β :=
  match f, x with
  | valid f, valid x => valid (f x)
  | valid _, invalid issues => invalid issues
  | invalid issues, valid _ => invalid issues
  | invalid first, invalid second => invalid (first ++ second)

instance : Functor Validated where
  map := map

instance : Applicative Validated where
  pure := valid
  seq f x := apply f (x ())

/-- The issues of a part, placed in the whole. -/
def within (step : Issue.Step) : Validated α → Validated α
  | valid value => valid value
  | invalid issues => invalid (issues.map fun issue => { issue with place := step :: issue.place })

/-- A check on a value by itself. -/
def ofExcept : Except Issue.Kind α → Validated α
  | .ok value => valid value
  | .error kind => invalid [⟨[], kind⟩]

/-- A further check on a valid value. -/
def andThen (x : Validated α) (check : α → Except Issue.Kind β) : Validated β :=
  match x with
  | valid value => ofExcept (check value)
  | invalid issues => invalid issues

end Validated

end PolyTrace
