import PolyTrace.Arith.Power
import PolyTrace.Arith.Scalar
import PolyTrace.Decimal.Readout

/-!
# Machine numbers

A machine number of 64 bits is a sign and a significand `m` below `2 ^ 53` times a power of two of
exponent at least `-1074`.  `readout` takes such a number apart without loss; `nearest` finds the
machine number closest to a fraction, from the middle the one with the even significand, and an
infinity once the fraction is too large.
-/

namespace PolyTrace.Binary64

/-- Number of bits of a full significand. -/
def precision : Nat := 53

/-- The smallest exponent of a significand. -/
def leastExponent : Int := -1074

/-- The largest exponent of a significand. -/
def greatestExponent : Int := 971

/-- The significand and exponent stored in the lower 63 bits, for a finite number. -/
def split (bits : Nat) : Nat × Int :=
  let field : Nat := bits / twoPow 52 % twoPow 11
  let fraction : Nat := bits % twoPow 52
  if field = 0 then (fraction, leastExponent)
  else (twoPow 52 + fraction, (field : Int) - 1075)

/-- The fraction `m * 2 ^ q`, as numerator and denominator. -/
def fraction (m : Nat) (q : Int) : Nat × Nat :=
  if 0 ≤ q then (m * twoPow q.toNat, 1) else (m, twoPow (-q).toNat)

/-- The exact reading of the number with the given bits. -/
def readoutBits (bits : Nat) : Readout :=
  let negative := decide (bits / twoPow 63 % 2 = 1)
  if bits / twoPow 52 % twoPow 11 = twoPow 11 - 1 then
    if bits % twoPow 52 = 0 then .infinite negative else .undefined
  else
    let (m, q) := split bits
    let (num, den) := fraction m q
    .finite negative num den

/-- The exponent at which a positive fraction has a full significand, not below the least. -/
def exponentOf (num den : Nat) : Int :=
  let guess : Int := (num.log2 : Int) - den.log2 - 52
  let (scaledNum, scaledDen) :=
    if 0 ≤ guess then (num, den * twoPow guess.toNat) else (num * twoPow (-guess).toNat, den)
  let exponent := if scaledNum < twoPow 52 * scaledDen then guess - 1 else guess
  max exponent leastExponent

/-- The significand and exponent nearest to a fraction, or nothing if it is too large. -/
def nearestSplit? (num den : Nat) : Option (Nat × Int) :=
  if num = 0 then some (0, leastExponent)
  else
    let q := exponentOf num den
    let m :=
      if 0 ≤ q then roundDiv num (den * twoPow q.toNat) else roundDiv (num * twoPow (-q).toNat) den
    let (m, q) := if m = twoPow 53 then (twoPow 52, q + 1) else (m, q)
    if greatestExponent < q then none else some (m, q)

/-- The lower 63 bits of a significand and exponent. -/
def join (m : Nat) (q : Int) : Nat :=
  if m < twoPow 52 then m else (q + 1075).toNat * twoPow 52 + (m - twoPow 52)

/-- The bits of the number nearest to a signed fraction. -/
def nearestBits (negative : Bool) (num den : Nat) : Nat :=
  let sign := if negative then twoPow 63 else 0
  match nearestSplit? num den with
  | some (m, q) => sign + join m q
  | none => sign + (twoPow 11 - 1) * twoPow 52

/-- The exact reading of a machine number. -/
def readout (value : Float) : Readout :=
  readoutBits value.toBits.toNat

/-- The machine number nearest to a signed fraction. -/
def nearest (negative : Bool) (num den : Nat) : Float :=
  Float.ofBits (UInt64.ofNat (nearestBits negative num den))

/-- The machine number nearest to a fraction. -/
def ofRat (value : Rat) : Float :=
  nearest (decide (value.num < 0)) value.num.natAbs value.den

/-- The machine number nearest to a whole number, or nothing if it is too large. -/
def ofInt? (value : Int) : Option Float :=
  match nearestSplit? value.natAbs 1 with
  | some _ => some (nearest (decide (value < 0)) value.natAbs 1)
  | none => none

/-- Positive infinity. -/
def infinity : Float :=
  Float.ofBits 0x7ff0000000000000

/-- Negative infinity. -/
def negativeInfinity : Float :=
  Float.ofBits 0xfff0000000000000

/-- The undefined number. -/
def undefined : Float :=
  Float.ofBits 0x7ff8000000000000

/-- The machine number that a reading came from. -/
def ofReadout : Readout → Float
  | .undefined => undefined
  | .infinite false => infinity
  | .infinite true => negativeInfinity
  | .finite negative num den => nearest negative num den

end PolyTrace.Binary64

namespace PolyTrace

/-- Machine numbers as the arithmetic of an engine.  A pivot counts as zero when it is at most eight
units of relative rounding error of the largest pivot. -/
instance instAnalyticFloat : Analytic Float where
  zero := 0
  one := 1
  ltDecidable := inferInstance
  leDecidable := inferInstance
  ofRat := Binary64.ofRat
  pivotTolerance := Binary64.ofRat (mkRat 8 (twoPow 52))
  sqrt := Float.sqrt
  log := Float.log
  powTen := fun exponent => Float.pow (Binary64.ofRat 10) exponent

instance instReadsOutFloat : ReadsOut Float :=
  ⟨Binary64.readout⟩

end PolyTrace
