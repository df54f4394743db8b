/-!
# Exact readings of numbers

A number that is to be written down is first read out exactly: it is undefined, infinite, or a
fraction with a sign.  The sign is kept apart from the fraction because a zero can carry one.

`roundDiv` is the one rounding rule of the project: to the nearest whole number, and from the
middle to the even one.
-/

namespace PolyTrace

/-- The exact reading of a number. -/
inductive Readout where
  | undefined
  | infinite (negative : Bool)
  | finite (negative : Bool) (num den : Nat)
deriving DecidableEq, Inhabited

/-- Numbers that can be read out exactly. -/
class ReadsOut (K : Type) where
  /-- The exact reading of a number. -/
  readout : K → Readout

/-- The whole number nearest to `num / den`; from the middle, the even one. -/
def roundDiv (num den : Nat) : Nat :=
  let quotient := num / den
  let remainder := num % den
  if 2 * remainder < den then quotient
  else if den < 2 * remainder then quotient + 1
  else if quotient % 2 = 0 then quotient
  else quotient + 1

namespace Readout

/-- The reading of a whole number. -/
def ofInt (value : Int) : Readout :=
  .finite (decide (value < 0)) value.natAbs 1

/-- The reading of a fraction. -/
def ofRat (value : Rat) : Readout :=
  .finite (decide (value.num < 0)) value.num.natAbs value.den

/-- The fraction that was read, if there is one. -/
def toRat? : Readout → Option Rat
  | undefined => none
  | infinite _ => none
  | finite negative num den =>
    some (mkRat (if negative then -(num : Int) else num) den)

/-- The number read is neither undefined nor infinite. -/
def isFinite : Readout → Bool
  | finite _ _ _ => true
  | _ => false

end Readout

instance instReadsOutRat : ReadsOut Rat :=
  ⟨Readout.ofRat⟩

end PolyTrace
