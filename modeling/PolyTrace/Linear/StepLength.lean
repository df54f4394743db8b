import PolyTrace.Linear.Vec

/-!
# The longest step

`maxStep v d` is the largest share, at most the whole, of the step `d` that can be taken from `v`
without a coordinate becoming negative.  Only the coordinates in which the step decreases limit it.
-/

namespace PolyTrace

variable {K : Type} [Scalar K] {n : Nat}

/-- The shares of the step at which the decreasing coordinates reach zero. -/
def stepRatios (v d : Vec K n) : List K :=
  (List.finRange n).filterMap fun (i : Fin n) => if d i < 0 then some (-v i / d i) else none

/-- The smaller of one and the least of the given shares. -/
def leastShare : List K → K
  | [] => 1
  | share :: rest =>
    let least := rest.foldl Scalar.smaller share
    if least < 1 then least else 1

/-- The largest share of the step `d` that keeps `v` nonnegative. -/
def maxStep (v d : Vec K n) : K :=
  leastShare (stepRatios v d)

end PolyTrace
