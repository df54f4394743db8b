import PolyTrace.Arith.Binary64
import PolyTrace.Decimal.Numeral

/-!
# Shortest decimals

The shortest decimal of a machine number has the fewest digits among the decimals that read back
as that number, and is the closest of those; between two equally close ones the even one is taken.

The numbers that read back as `m * 2 ^ q` form an interval around it, which includes its ends when
`m` is even.  For one digit, two digits and so on up to seventeen, the two neighbours of the value
on the grid of that many digits are tested against the interval.
-/

namespace PolyTrace.Shortest

/-- An interval of fractions with the common denominator `den`. -/
structure Interval where
  low : Nat
  value : Nat
  high : Nat
  den : Nat
  closed : Bool

/-- The fractions that read back as `m * 2 ^ q`.  Below a power of two the next number is only half
as far away. -/
def interval (m : Nat) (q : Int) : Interval :=
  let below := if m = twoPow 52 ∧ Binary64.leastExponent < q then 1 else 2
  let (unit, den) := Binary64.fraction 1 (q - 2)
  { low := (4 * m - below) * unit
    value := 4 * m * unit
    high := (4 * m + 2) * unit
    den := den
    closed := m % 2 = 0 }

/-- The decimal `digits * 10 ^ power` lies in the interval. -/
def Interval.contains (range : Interval) (digits : Nat) (power : Int) : Bool :=
  let (num, den) :=
    if 0 ≤ power then (digits * tenPow power.toNat, 1) else (digits, tenPow (-power).toNat)
  let scaled := num * range.den
  let low := range.low * den
  let high := range.high * den
  if range.closed then low ≤ scaled && scaled ≤ high else low < scaled && scaled < high

/-- The closest multiple of `10 ^ power` that lies in the interval, if one does. -/
def Interval.onGrid? (range : Interval) (power : Int) : Option Nat :=
  let (num, den) :=
    if 0 ≤ power then (range.value, range.den * tenPow power.toNat)
    else (range.value * tenPow (-power).toNat, range.den)
  let below := num / den
  let nearest := roundDiv num den
  let other := if nearest = below then below + 1 else below
  if range.contains nearest power then some nearest
  else if range.contains other power then some other
  else none

/-- Search the grids of `count`, `count + 1`, … digits, at most `fuel` of them. -/
def search (range : Interval) (lead : Int) : (fuel count : Nat) → Option (Nat × Int)
  | 0, _ => none
  | fuel + 1, count =>
    let power := lead - (count : Int) + 1
    match range.onGrid? power with
    | some digits => some (digits, power)
    | none => search range lead fuel (count + 1)

/-- The shortest decimal of the machine number nearest to a fraction, as digits and a power of
ten. -/
def decimal (num den : Nat) : Nat × Int :=
  match Binary64.nearestSplit? num den with
  | none => (num, 0)
  | some (0, _) => (0, 0)
  | some (m, q) =>
    let (num, den) := Binary64.fraction m q
    let lead := Numeral.leadingExponent num den
    (search (interval m q) lead 17 1).getD (0, 0)

/-- The digits of a decimal without the zeros at the end. -/
def significantDigits (digits : Nat) : String :=
  let text := (Numeral.digits digits).toList
  match (text.reverse.dropWhile fun c => c = '0').reverse with
  | [] => "0"
  | kept => String.ofList kept

/-- A decimal in plain writing: positional while the leading digit stands for at least `10 ^ (-4)`
and less than `10 ^ 16`, always with a point, and in scientific form otherwise. -/
def plain (digits : Nat) (power : Int) : String :=
  if digits = 0 then "0.0"
  else
    let text := significantDigits digits
    let lead := ((Numeral.digits digits).length : Int) + power - 1
    if lead < -4 ∨ 16 ≤ lead then
      let chars := text.toList
      let mantissa :=
        match chars with
        | first :: second :: rest => String.ofList (first :: '.' :: second :: rest)
        | _ => text
      mantissa ++ Numeral.exponent lead
    else if lead < 0 then
      "0." ++ String.ofList (List.replicate (-lead - 1).toNat '0') ++ text
    else
      let whole := (lead + 1).toNat
      let chars := text.toList
      let front := chars.take whole ++ List.replicate (whole - chars.length) '0'
      match chars.drop whole with
      | [] => String.ofList front ++ ".0"
      | fraction => String.ofList front ++ "." ++ String.ofList fraction

/-- The plain text of a number. -/
def render : Readout → String
  | .undefined => "nan"
  | .infinite negative => Numeral.sign false negative ++ "inf"
  | .finite negative num den =>
    let (digits, power) := decimal num den
    Numeral.sign false negative ++ plain digits power

end PolyTrace.Shortest
