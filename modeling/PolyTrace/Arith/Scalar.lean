import PolyTrace.Arith.Power

/-!
# Arithmetic of the engines

Every engine is written once, over a type of numbers that can be added, multiplied, divided and
compared.  Run on machine numbers it reproduces their rounding, their infinities and their
undefined results; read over an ordered field it is the method of the textbooks.

Only the comparisons are primitive.  Whether a number is defined, whether it is finite, its
absolute value and the larger of two numbers are all said through them, in the way that also fits
an arithmetic in which a number need not be equal to itself.
-/

namespace PolyTrace

/-- The numbers an engine computes with. -/
class Scalar (K : Type) extends Add K, Sub K, Mul K, Div K, Neg K, Zero K, One K, LT K, LE K where
  /-- The comparison of two numbers can be decided. -/
  ltDecidable : DecidableLT K
  /-- The weak comparison of two numbers can be decided. -/
  leDecidable : DecidableLE K
  /-- The number nearest to a fraction. -/
  ofRat : Rat → K
  /-- A pivot of at most this share of the largest pivot counts as zero. -/
  pivotTolerance : K

instance Scalar.decidableLT {K : Type} [Scalar K] : DecidableLT K :=
  Scalar.ltDecidable

instance Scalar.decidableLE {K : Type} [Scalar K] : DecidableLE K :=
  Scalar.leDecidable

/-- Numbers with a square root, a logarithm and the powers of ten. -/
class Analytic (K : Type) extends Scalar K where
  /-- The square root. -/
  sqrt : K → K
  /-- The natural logarithm. -/
  log : K → K
  /-- Ten to the given power. -/
  powTen : K → K

namespace Scalar

variable {K : Type} [Scalar K]

/-- A number is undefined when it does not compare with itself. -/
abbrev Undefined (a : K) : Prop :=
  ¬ a ≤ a

/-- A number is finite when its difference with itself is defined. -/
abbrev Finite (a : K) : Prop :=
  a - a ≤ a - a

/-- Two numbers have the same value.  An undefined number has none. -/
abbrev Same (a b : K) : Prop :=
  a ≤ b ∧ b ≤ a

/-- A number has no finite bound below it and is not undefined: it lies below every finite number. -/
abbrev BelowAll (a : K) : Prop :=
  ¬ Finite a ∧ a < 0

/-- The absolute value; zero of either sign gives the positive zero. -/
def abs (a : K) : K :=
  if a ≤ 0 then 0 - a else a

/-- The larger of two numbers, undefined as soon as one of them is. -/
def larger (a b : K) : K :=
  if b ≤ a ∨ Undefined a then a else b

/-- The smaller of two numbers, undefined as soon as one of them is. -/
def smaller (a b : K) : K :=
  if a ≤ b ∨ Undefined a then a else b

/-- The value of `a` moved into the interval from `low` to `high`. -/
def clamp (low high a : K) : K :=
  smaller (larger a low) high

/-- The unit of the given decimal place. -/
def unitAt (places : Nat) : K :=
  ofRat (mkRat 1 (tenPow places))

/-- Two, as a number of the arithmetic. -/
def two : K :=
  1 + 1

end Scalar

end PolyTrace
