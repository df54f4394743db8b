import PolyTrace.Arith.Binary64
import PolyTrace.Decimal.Numeral
import PolyTrace.Text.Digit

/-!
# Reading decimal text

A number is written as an optional sign followed by digits with an optional point and an optional
exponent, or by one of the words for an infinite or an undefined number.  A whole number is a sign
and digits.  That is the bare form.

In free text the digits may be those of any script, blanks around the number are ignored, and
single underscores may separate two digits.
-/

namespace PolyTrace.Reader

/-- The longest run of digits at the front, and the text after it.  The value and the number of the
digits are given. -/
def digitRun : List Char → (value count : Nat) → Nat × Nat × List Char
  | c :: rest, value, count =>
    if c.isDigit then digitRun rest (10 * value + (c.toNat - 48)) (count + 1)
    else (value, count, c :: rest)
  | [], value, count => (value, count, [])

/-- A sign at the front, true for minus, and the text after it. -/
def signed : List Char → Bool × List Char
  | '-' :: rest => (true, rest)
  | '+' :: rest => (false, rest)
  | text => (false, text)

/-- The number `value * 10 ^ power` as an exact reading, with the magnitudes that no machine number
can hold or resolve brought to an infinity or to zero. -/
def scaled (negative : Bool) (value : Nat) (power : Int) : Readout :=
  if value = 0 then .finite negative 0 1
  else
    let lead := ((Numeral.digits value).length : Int) + power
    if 400 < lead then .infinite negative
    else if lead < -400 then .finite negative 0 1
    else if 0 ≤ power then .finite negative (value * tenPow power.toNat) 1
    else .finite negative value (tenPow (-power).toNat)

/-- An exponent mark with its digits at the front of the text; the whole text has to be used up. -/
def exponent? : List Char → Option Int
  | [] => some 0
  | mark :: rest =>
    if mark = 'e' ∨ mark = 'E' then
      let (negative, text) := signed rest
      match digitRun text 0 0 with
      | (_, 0, _) => none
      | (value, _, []) => some (if negative then -(value : Int) else value)
      | _ => none
    else none

/-- A number in bare form. -/
def bareNumber? (text : List Char) : Option Readout :=
  let (negative, body) := signed text
  let word := String.ofList (body.map Char.toLower)
  if word = "nan" then some .undefined
  else if word = "inf" ∨ word = "infinity" then some (.infinite negative)
  else
    match digitRun body 0 0 with
    | (whole, count, '.' :: rest) =>
      let (value, places, after) := digitRun rest whole 0
      if count + places = 0 then none
      else (exponent? after).map fun e => scaled negative value (e - places)
    | (_, 0, _) => none
    | (whole, _, after) => (exponent? after).map fun e => scaled negative whole e

/-- Text without the underscores in it, each of which has to stand between two digits.  The flag
says whether a digit stands before the text. -/
def unseparated? : Bool → List Char → Option (List Char)
  | _, [] => some []
  | afterDigit, c :: rest =>
    if c = '_' then
      match rest with
      | d :: more => if afterDigit && d.isDigit then unseparated? false (d :: more) else none
      | [] => none
    else (unseparated? c.isDigit rest).map fun others => c :: others

/-- Free text in bare form. -/
def bareForm? (text : String) : Option (List Char) :=
  (Digit.plainForm? text.toList).bind fun chars =>
    unseparated? false (Digit.strip Digit.isPlainBlank chars)

/-- The number that free text stands for. -/
def number? (text : String) : Option Readout :=
  (bareForm? text).bind bareNumber?

/-- The machine number that free text stands for. -/
def float? (text : String) : Option Float :=
  (number? text).map Binary64.ofReadout

/-- The most digits that a whole number in free text may have. -/
def digitLimit : Nat := 4300

/-- A whole number in bare form. -/
def bareWhole? (text : List Char) : Option Int :=
  let (negative, body) := signed text
  match digitRun body 0 0 with
  | (_, 0, _) => none
  | (value, count, []) =>
    if count ≤ digitLimit then some (if negative then -(value : Int) else value) else none
  | _ => none

/-- The whole number that free text stands for. -/
def int? (text : String) : Option Int :=
  (bareForm? text).bind bareWhole?

end PolyTrace.Reader
