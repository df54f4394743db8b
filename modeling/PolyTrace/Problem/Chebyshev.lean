import PolyTrace.Decimal.Readout
import PolyTrace.Exact.Tableau
import PolyTrace.Failure

/-!
# The centre of the largest ball

The point in the middle of a region is the centre of the largest ball inside it: the largest `r` with
`a · x + r |a| ≤ b` for every row.  The lengths of the rows are computed in the arithmetic of the
problem and the program is then solved exactly.  When the ball can grow without bound its radius is
limited to one.
-/

namespace PolyTrace.Chebyshev

variable {m n : Nat}

/-- The program of the largest ball: the rows of the region and `r ≥ 0`. -/
def ballProgram (A : Mat Rat m n) (norms b : Vec Rat m) : Problem Rat (m + 1) (n + 1) where
  A := (Vector.ofFn fun i => (A i).push (norms i)).push ((Vec.zero n : Vec Rat n).push (-1))
  b := b.push 0
  c := (Vec.zero n : Vec Rat n).push 1

/-- The program of the largest ball of radius at most one. -/
def cappedProgram (A : Mat Rat m n) (norms b : Vec Rat m) : Problem Rat (m + 1 + 1) (n + 1) where
  A := (ballProgram A norms b).A.push ((Vec.zero n : Vec Rat n).push 1)
  b := (ballProgram A norms b).b.push 1
  c := (ballProgram A norms b).c

/-- The largest ball, as its centre followed by its radius. -/
def largestBall (A : Mat Rat m n) (norms b : Vec Rat m) : Exact.Outcome (n + 1) :=
  match Exact.maximise (ballProgram A norms b) with
  | .unbounded => Exact.maximise (cappedProgram A norms b)
  | outcome => outcome

/-- The region is too thin when its largest ball has at most this radius. -/
def leastRadius : Rat :=
  mkRat 1 (tenPow 12)

variable {K : Type} [Analytic K] [ReadsOut K]

/-- The exact fractions of a vector, all of which have to be finite. -/
def fractions? (u : Vec K n) : Option (Vec Rat n) :=
  u.mapM fun a => (ReadsOut.readout a).toRat?

/-- The centre of the largest ball inside the region `A x ≤ b`. -/
def centre (A : Mat K m n) (b : Vec K m) : Except (Trouble K) (Vec K n) :=
  match A.mapM fractions?, fractions? (A.map Vec.norm), fractions? b with
  | some rows, some norms, some bounds =>
    match largestBall rows norms bounds with
    | .optimal ball =>
      if ball (Fin.last n) ≤ leastRadius then .error (.failure .emptyInterior)
      else .ok (Vector.ofFn fun i => Scalar.ofRat (ball i.castSucc))
    | _ => .error (.failure .noInteriorPoint)
  | _, _, _ => .error (.fault .programNotFinite)

end PolyTrace.Chebyshev
