import PolyTrace.Decimal.Reader
import PolyTrace.Schema.Issue

/-!
# Numbers as text under a schema

A schema takes a number that is written as text, in bare form between blanks.  Underscores may stand
anywhere inside the text but not at its ends and not next to each other; a text with underscores
must not have blanks around it.

A whole number may also have a sign of either kind, leading zeros after it, between which any
underscores are ignored, and a point followed by one or more zeros.  More digits than the limit are
refused as such.
-/

namespace PolyTrace.NumberText

/-- Two underscores stand next to each other. -/
def hasDouble : List Char → Bool
  | '_' :: '_' :: _ => true
  | _ :: rest => hasDouble rest
  | [] => false

/-- A text that holds underscores, none of them at its ends or next to another, without them. -/
def unseparated? (text : List Char) : Option (List Char) :=
  if text.contains '_' ∧ text.head? ≠ some '_' ∧ text.getLast? ≠ some '_' ∧ hasDouble text = false then
    some (text.filter fun c => c ≠ '_')
  else none

/-- Text without the blanks at its ends. -/
def trim (text : List Char) : List Char :=
  Digit.strip Digit.isBlank text

/-- The number that text stands for. -/
def number? (text : String) : Option Readout :=
  match Reader.bareNumber? (trim text.toList) with
  | some found => some found
  | none => (unseparated? text.toList).bind Reader.bareNumber?

/-! ## Whole numbers -/

/-- A strict whole number: digits without a leading zero, after a minus sign at most.  A number whose
sign and digits exceed the limit is refused as too long, whatever follows it. -/
def strictWhole (text : List Char) : Except Issue.Kind Int :=
  let (negative, body) :=
    match text with
    | '-' :: rest => (true, rest)
    | rest => (false, rest)
  match body with
  | ['0'] => .ok 0
  | '0' :: _ => .error .intParsing
  | _ =>
    match Reader.digitRun body 0 0 with
    | (_, 0, _) => .error .intParsing
    | (value, count, rest) =>
      if Reader.digitLimit < count + (if negative then 1 else 0) then .error .intParsingSize
      else if rest.isEmpty then .ok (if negative then -(value : Int) else value)
      else .error .intParsing

/-- The text after some leading zeros, the last of which is given.  Underscores among the zeros are
passed over; before a point one character is kept. -/
def afterZeros? (last : Char) : List Char → Option (List Char)
  | [] => some [last]
  | c :: rest =>
    if c = '0' ∨ c = '_' then afterZeros? c rest
    else if c.isDigit ∨ c = '-' then some (c :: rest)
    else if c = '.' then some (last :: c :: rest)
    else none

/-- The text of a number, its sign set aside, without its leading zeros. -/
def withoutZeros? : List Char → Option (List Char)
  | [] => none
  | c :: rest =>
    if c = '0' then afterZeros? c rest
    else if c.isDigit then some (c :: rest)
    else none

/-- The text before the first point, if zeros stand after it, at least one, and nothing else. -/
def withoutFraction (text : List Char) : List Char :=
  match text.dropWhile fun c => c ≠ '.' with
  | _ :: place :: rest =>
    if (place :: rest).all fun c => c = '0' then text.takeWhile fun c => c ≠ '.' else text
  | _ => text

/-- The strict form of the digits of a whole number: no zeros in front, no fraction, no underscores. -/
def strictDigits? (text : List Char) : Option (List Char) :=
  (withoutZeros? text).map fun digits =>
    let cut := withoutFraction digits
    (unseparated? cut).getD cut

/-- The strict form of a whole number.  A plus sign is dropped and a minus sign is kept; zeros in
front of the digits are dropped behind either. -/
def strictForm? (text : List Char) : Option (List Char) :=
  match trim text with
  | '+' :: rest => strictDigits? rest
  | '-' :: rest => (strictDigits? rest).map fun digits => '-' :: digits
  | rest => strictDigits? rest

/-- The whole number that text stands for. -/
def whole (text : String) : Except Issue.Kind Int :=
  match strictWhole text.toList with
  | .ok found => .ok found
  | .error .intParsingSize => .error .intParsingSize
  | .error _ =>
    match strictForm? text.toList with
    | some digits => strictWhole digits
    | none => .error .intParsing

end PolyTrace.NumberText
