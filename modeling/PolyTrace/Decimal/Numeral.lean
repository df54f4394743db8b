import PolyTrace.Arith.Power
import PolyTrace.Decimal.Readout

/-!
# Decimal numerals

A numeral shows a number in one of three ways: with a fixed number of places after the point, in
scientific form with one digit before the point, or in the general form that picks one of the two
by the size of the number and drops trailing zeros.  The digits come from the exact reading, so
each numeral is the rounding of the number itself.

An exponent is written with its sign and at least two digits.
-/

namespace PolyTrace

/-- How the digits of a numeral are laid out. -/
inductive Numeral.Style where
  | fixed (places : Nat)
  | scientific (places : Nat)
  | general (digits : Nat)
deriving DecidableEq

/-- The form of a numeral: the layout of its digits, and whether a plus sign is shown. -/
structure Numeral where
  style : Numeral.Style
  plus : Bool := false
deriving DecidableEq

namespace Numeral

/-- The decimal digits of a whole number. -/
def digits (n : Nat) : String :=
  String.ofList (Nat.toDigits 10 n)

/-- The text padded on the left with `fill` to `width` characters. -/
def padLeft (fill : Char) (width : Nat) (text : String) : String :=
  String.ofList (List.replicate (width - text.length) fill) ++ text

/-- An exponent with its sign and at least two digits. -/
def exponent (e : Int) : String :=
  (if e < 0 then "e-" else "e+") ++ padLeft '0' 2 (digits e.natAbs)

/-- A whole number of units of the `places`-th decimal place, with its point. -/
def point (places units : Nat) : String :=
  if places = 0 then digits units
  else
    digits (units / tenPow places) ++ "." ++ padLeft '0' places (digits (units % tenPow places))

/-- The exponent of the leading digit of a fraction; zero has exponent zero. -/
def leadingExponent (num den : Nat) : Int :=
  if num = 0 then 0
  else
    let guess : Int := ((digits num).length : Int) - (digits den).length
    let (scaledNum, scaledDen) :=
      if 0 ≤ guess then (num, den * tenPow guess.toNat) else (num * tenPow (-guess).toNat, den)
    if scaledNum < scaledDen then guess - 1 else guess

/-- The fraction rounded to `places + 1` significant digits, as a whole number and the exponent of
its leading digit. -/
def significant (places num den : Nat) : Nat × Int :=
  let e := leadingExponent num den
  let shift : Int := (places : Int) - e
  let units :=
    if 0 ≤ shift then roundDiv (num * tenPow shift.toNat) den
    else roundDiv num (den * tenPow (-shift).toNat)
  if units = tenPow (places + 1) then (tenPow places, e + 1) else (units, e)

/-- Text without the zeros at its end, and without the point before them. -/
def dropZeros (text : String) : String :=
  if text.toList.contains '.' then
    let kept := text.toList.reverse.dropWhile fun c => c = '0'
    String.ofList (kept.dropWhile fun c => c = '.').reverse
  else text

/-- The unsigned numeral of a fraction. -/
def magnitude (style : Style) (num den : Nat) : String :=
  match style with
  | .fixed places => point places (roundDiv (num * tenPow places) den)
  | .scientific places =>
    let (units, e) := significant places num den
    point places units ++ exponent e
  | .general digits =>
    let places := digits - 1
    let (units, e) := significant places num den
    if -4 ≤ e ∧ e < (places : Int) + 1 then
      let after := ((places : Int) - e).toNat
      dropZeros (point after (roundDiv (num * tenPow after) den))
    else dropZeros (point places units) ++ exponent e

/-- The sign shown before the digits. -/
def sign (plus negative : Bool) : String :=
  if negative then "-" else if plus then "+" else ""

/-- The numeral of a number in the given form. -/
def render (form : Numeral) : Readout → String
  | .undefined => sign form.plus false ++ "nan"
  | .infinite negative => sign form.plus negative ++ "inf"
  | .finite negative num den => sign form.plus negative ++ magnitude form.style num den

/-- Scientific form with the given number of places. -/
def scientific (places : Nat) : Numeral :=
  { style := .scientific places }

/-- Fixed form with the given number of places. -/
def fixed (places : Nat) : Numeral :=
  { style := .fixed places }

/-- General form with the given number of digits. -/
def general (digits : Nat) : Numeral :=
  { style := .general digits }

end Numeral

end PolyTrace
