import PolyTrace.Data.Datum
import PolyTrace.Decimal.Shortest
import PolyTrace.Failure
import PolyTrace.Text.Unseen

/-!
# Quoting data in messages

A message that repeats a value shows text in quotes: in single quotes, unless it holds a single
quote and no double one.  The quote and the backslash are marked by a backslash, and characters
that cannot be seen by their code.
-/

namespace PolyTrace.Quoted

/-- The hexadecimal digits of a number, at least `width` of them. -/
def hex (width n : Nat) : List Char :=
  let digits := Nat.toDigits 16 n
  List.replicate (width - digits.length) '0' ++ digits

/-- A character shown by its code. -/
def code (c : Char) : List Char :=
  if c.toNat < 0x100 then '\\' :: 'x' :: hex 2 c.toNat
  else if c.toNat < 0x10000 then '\\' :: 'u' :: hex 4 c.toNat
  else '\\' :: 'U' :: hex 8 c.toNat

/-- One character inside quotes. -/
def character (quote c : Char) : List Char :=
  if c = quote ∨ c = '\\' then ['\\', c]
  else if c = '\n' then ['\\', 'n']
  else if c = '\r' then ['\\', 'r']
  else if c = '\t' then ['\\', 't']
  else if Unseen.isUnseen c then code c
  else [c]

/-- Text in quotes. -/
def text (value : String) : String :=
  let chars := value.toList
  let quote := if chars.contains '\'' && !chars.contains '"' then '"' else '\''
  String.ofList (quote :: (chars.flatMap (character quote) ++ [quote]))

/-- A character by its code, unless it is plain. -/
def plainCharacter (c : Char) : List Char :=
  if c.toNat < 0x7f then [c] else code c

/-- Text in quotes, with every character beyond the plain ones shown by its code. -/
def plainText (value : String) : String :=
  String.ofList ((text value).toList.flatMap plainCharacter)

/-- A single value in a message; lists and objects have no short form. -/
def datum? : Datum → Option String
  | .null => some "None"
  | .flag value => some (if value then "True" else "False")
  | .whole value => some (intText value)
  | .number value => some (Shortest.render (Binary64.readout value))
  | .text value => some (text value)
  | _ => none

end PolyTrace.Quoted

namespace PolyTrace

/-- The amount that data stands for.  Text is shown without quotes. -/
def Datum.amount : Datum → Amount
  | .whole value => .whole value
  | .flag value => .other (some (if value then 1 else 0)) (if value then "True" else "False")
  | .number value =>
    let exact :=
      match (Binary64.readout value).toRat? with
      | some rational => if rational.den = 1 then some rational.num else none
      | none => none
    .other exact (Shortest.render (Binary64.readout value))
  | .text value => .other none value
  | data => .other none ((Quoted.datum? data).getD "")

end PolyTrace
