import PolyTrace.Failure
import PolyTrace.Linear.Elimination

/-!
# Factoring a square matrix

`factorize` eliminates a matrix and refuses it when it is singular: when an entry is infinite or
undefined, when all pivots are zero, or when the smallest pivot is no more than the tolerance of
the arithmetic times the largest.  In an exact arithmetic the tolerance is zero, and exactly the
matrices with a zero pivot are refused.
-/

namespace PolyTrace

variable {K : Type} [Scalar K] {n : Nat}

/-- The largest absolute value in a list that starts with `a`. -/
def Elimination.largestPivot (a : K) (rest : List K) : K :=
  (rest.map Scalar.abs).foldl Scalar.larger (Scalar.abs a)

/-- The smallest absolute value in a list that starts with `a`. -/
def Elimination.smallestPivot (a : K) (rest : List K) : K :=
  (rest.map Scalar.abs).foldl Scalar.smaller (Scalar.abs a)

/-- The pivots stand for a singular matrix. -/
def Elimination.Singular (smallest largest : K) : Prop :=
  Scalar.Same largest 0 ∨ smallest ≤ Scalar.pivotTolerance * largest

instance (smallest largest : K) : Decidable (Elimination.Singular smallest largest) :=
  inferInstanceAs (Decidable (_ ∨ _))

/-- The elimination of a matrix that is not singular. -/
def factorize (A : Mat K n n) : Except (Failure K) (Elimination K n) :=
  let elimination := Elimination.ofMat A
  match elimination.pivots with
  | [] => .error (.mismatch .emptyMatrix)
  | a :: rest =>
    if A.allFinite then
      let largest := Elimination.largestPivot a rest
      let smallest := Elimination.smallestPivot a rest
      if Elimination.Singular smallest largest then .error (.singular smallest largest)
      else .ok elimination
    else .error .notFinite

end PolyTrace
