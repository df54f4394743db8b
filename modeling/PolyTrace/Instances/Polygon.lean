import PolyTrace.Data.Datum
import PolyTrace.Failure
import PolyTrace.Instances.Twister
import PolyTrace.Linear.Vec

/-!
# Random polygons

A polygon around the origin is made of rows `cos θ · x + sin θ · y ≤ C`.  The directions `θ` are
spread evenly and then moved by at most three tenths of their distance, so that the region of four
rows or more stays bounded; the bounds `C` lie between one and five, so that the origin stays inside.
-/

namespace PolyTrace.Polygon

section Directions

variable {K : Type} [Scalar K]

/-- The distance of the directions when a full turn is divided evenly. -/
def step (turn : K) (count : Nat) : K :=
  turn / Scalar.ofRat count

/-- The direction with the given index, moved by the share `jitter` of the distance. -/
def angle (distance : K) (index : Nat) (jitter : K) : K :=
  Scalar.ofRat index * distance + jitter * distance

/-- All directions, one for each share. -/
def angles (turn : K) (jitters : List K) : List K :=
  jitters.mapIdx (angle (step turn jitters.length))

end Directions

/-- How directions become coefficients: the full turn, the cosine and the sine, and what becomes of a
number when it is written down. -/
structure Compass (K : Type) where
  turn : K
  cosine : K → K
  sine : K → K
  written : K → K

namespace Compass

variable {K : Type} [Scalar K]

/-- The row with the given direction and bound. -/
def row (compass : Compass K) (theta bound : K) : List K :=
  [compass.written (compass.cosine theta), compass.written (compass.sine theta),
    compass.written bound]

/-- The rows of a polygon, one for each share and bound. -/
def rows (compass : Compass K) (jitters bounds : List K) : List (List K) :=
  (angles compass.turn jitters).zipWith compass.row bounds

end Compass

/-- The largest share by which a direction is moved. -/
def jitterLimit : Rat := mkRat 3 10

/-- The least bound of a row. -/
def leastBound : Rat := 1

/-- The greatest bound of a row. -/
def greatestBound : Rat := 5

/-- A full turn: the machine number nearest to the number of radians in it. -/
def fullTurn : Float :=
  2 * Float.ofBits 0x400921fb54442d18

/-- The machine number nearest to a number rounded to six places. -/
def roundSix (value : Float) : Float :=
  match Binary64.readout value with
  | .finite negative num den => Binary64.nearest negative (roundDiv (num * tenPow 6) den) (tenPow 6)
  | _ => value

/-- Directions as machine numbers, written down with six places. -/
def machineCompass : Compass Float :=
  ⟨fullTurn, Float.cos, Float.sin, roundSix⟩

/-- A problem in the plane: rows of two coefficients and a bound, and an objective. -/
structure Instance where
  lines : List (List Float)
  objective : List Float

/-- A random polygon.  With no directions at all their distance has no value. -/
def random (count : Int) (seed : Int) : Except Fault Instance :=
  if count = 0 then .error .divisionByZero
  else if (Binary64.ofInt? count).isNone then .error .overflow
  else
    let limit := Binary64.ofRat jitterLimit
    let twister := Twister.ofSeed seed
    let (jitters, twister) := twister.uniforms (-limit) limit count.toNat
    let (bounds, twister) :=
      twister.uniforms (Binary64.ofRat leastBound) (Binary64.ofRat greatestBound) count.toNat
    let (objective, _) := twister.uniforms (-1) 1 2
    .ok ⟨machineCompass.rows jitters bounds, objective.map roundSix⟩

/-- A random polygon whose number of directions is given as data.  A number that is not whole has a
distance between directions but no directions. -/
def ofData (count : Datum) (seed : Int) : Except Fault Instance :=
  match count with
  | .whole n => random n seed
  | .flag value => random (if value then 1 else 0) seed
  | .number value => if value == 0 then .error .divisionByZero else .error .argument
  | _ => .error .argument

end PolyTrace.Polygon
