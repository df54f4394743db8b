import PolyTrace.Linear.Factorize
import PolyTrace.Linear.StepLength
import PolyTrace.Log.Diary
import PolyTrace.Problem.Basic
import PolyTrace.Table

/-!
# The interior point method

The method works on `min c · x` subject to `A x - s = b` and `s ≥ 0`, with multipliers `y ≥ 0` that
pair with the slacks; a maximisation problem is negated into this form.  It starts at `x = 0` and
`s = y = 1`.  Each step solves the linearised optimality conditions; when the full step would leave
the positive orthant early, a second solve with the same factors moves it towards the centre.

The method converges when the rows hold up to `epsP`, the columns up to `epsD`, and the two
objectives agree up to the relative error `epsOpt`.
-/

namespace PolyTrace.InteriorPoint

/-- The settings of the interior point method. -/
structure Options (K : Type) where
  verbose : Bool := false
  epsP : K
  epsD : K
  epsOpt : K
  maxit : Nat
  alphaMax : K
deriving DecidableEq

/-- A point of the method: variables, slacks and multipliers. -/
structure Point (K : Type) (m n : Nat) where
  x : Vec K n
  s : Vec K m
  y : Vec K m

/-- A recorded point, its mean complementarity, its objective and its largest row residual. -/
structure Iterate (K : Type) (m n : Nat) extends Point K m n where
  mu : K
  objective : K
  infeasibility : K

variable {K : Type} [Scalar K] {m n : Nat}

/-- A step long enough to be taken without a second solve. -/
def correctorThreshold : K :=
  Scalar.ofRat (mkRat 9 10)

/-- The least weight of the centre. -/
def sigmaMin : K :=
  Scalar.unitAt 8

/-- The greatest weight of the centre. -/
def sigmaMax : K :=
  1 - sigmaMin

/-- The linearised conditions: the rows of `A x - s`, the columns of `Aᵀ y`, and the products
`s y`. -/
def system (A : Mat K m n) (s y : Vec K m) : Mat K (n + m + m) (n + m + m) :=
  let rows : Mat K m (n + m + m) :=
    (A.beside (Mat.identity m : Mat K m m).neg).beside (Mat.zero m m : Mat K m m)
  let columns : Mat K n (n + m + m) := (Mat.zero n (n + m) : Mat K n (n + m)).beside A.transpose
  let products : Mat K m (n + m + m) :=
    ((Mat.zero m n : Mat K m n).beside (Mat.diagonal y)).beside (Mat.diagonal s)
  (rows ++ columns ++ products).cast (by omega)

/-- A right-hand side of the linearised conditions, block by block. -/
def rightSide (rows : Vec K m) (columns : Vec K n) (products : Vec K m) : Vec K (n + m + m) :=
  (rows ++ columns ++ products).cast (by omega)

/-- A solution of the linearised conditions, block by block. -/
def blocks (solution : Vec K (n + m + m)) : Point K m n where
  x := Vector.ofFn fun i => solution ((i.castAdd m).castAdd m)
  s := Vector.ofFn fun i => solution ((i.natAdd n).castAdd m)
  y := Vector.ofFn fun i => solution (i.natAdd (n + m))

/-- The sum of two steps. -/
def Point.add (d e : Point K m n) : Point K m n :=
  ⟨d.x.add e.x, d.s.add e.s, d.y.add e.y⟩

/-- The weight of the centre: the cube of the ratio of the complementarity that a full step would
leave to the present one.  A finite ratio whose cube is too large has no weight. -/
def centreWeight (affine mu : K) : Except Fault K :=
  let ratio := if 0 < mu then affine / mu else 0
  let cube := ratio * ratio * ratio
  if Scalar.Finite ratio ∧ ¬ Scalar.Finite cube then .error .overflow
  else .ok (Scalar.clamp sigmaMin sigmaMax cube)

/-- The mean of the products of slacks and multipliers. -/
def complementarity (s y : Vec K m) : K :=
  s.dot y / Scalar.ofRat (m : Int)

/-- The step at a point with the given residuals. -/
def direction (A : Mat K m n) (s y rowResidual : Vec K m) (columnResidual : Vec K n) (mu : K) :
    Except (Trouble K) (Point K m n) := do
  let factors ← Trouble.ofFailure (factorize (system A s y))
  let full := blocks (factors.solve (rightSide rowResidual columnResidual (s.neg.mul y)))
  let alphaP := maxStep s full.s
  let alphaD := maxStep y full.y
  if correctorThreshold ≤ alphaP ∧ correctorThreshold ≤ alphaD then
    return full
  let affine := complementarity (s.along alphaP full.s) (y.along alphaD full.y)
  let sigma ← Trouble.ofFault (centreWeight affine mu)
  let centring := (full.s.mul full.y).map fun product => sigma * mu - product
  return full.add (blocks (factors.solve (rightSide (Vec.zero m) (Vec.zero n) centring)))

/-- What the method looks at in a point. -/
structure Residuals (K : Type) (m n : Nat) where
  rows : Vec K m
  columns : Vec K n
  mu : K
  objective : K
  gap : K

/-- The residuals of a point. -/
def residuals (program : Program K m n) (point : Point K m n) : Residuals K m n :=
  let objective := program.c.dot point.x
  { rows := program.b.sub ((program.A.mulVec point.x).sub point.s)
    columns := program.c.sub (program.A.transposeMulVec point.y)
    mu := complementarity point.s point.y
    objective := objective
    gap := Scalar.abs (objective - program.b.dot point.y) / (1 + Scalar.abs objective) }

/-- The largest absolute value among the entries, which have to exist. -/
def extremum {k : Nat} (u : Vec K k) : Except Fault K :=
  match u.largestAbs? with
  | some value => .ok value
  | none => .error .emptyExtremum

/-- The point passes the three tests.  The columns are looked at only when the rows have passed. -/
def hasConverged (options : Options K) (residuals : Residuals K m n) (infeasibility : K) :
    Except Fault Bool :=
  if infeasibility ≤ options.epsP then
    (extremum residuals.columns).map fun columns =>
      decide (columns ≤ options.epsD ∧ residuals.gap ≤ options.epsOpt)
  else .ok false

/-- The next point along a step. -/
def advance (options : Options K) (point d : Point K m n) : Point K m n :=
  let stepP := options.alphaMax * maxStep point.s d.s
  let stepD := options.alphaMax * maxStep point.y d.y
  ⟨point.x.along stepP d.x, point.s.along stepP d.s, point.y.along stepD d.y⟩

/-- How the method ended. -/
inductive Ending (K : Type) where
  | converged
  | exhausted
  | aborted (iteration : Nat) (cause : Failure K)

/-- What the method went through and how it ended. -/
structure Run (K : Type) (m n : Nat) where
  iterates : List (Iterate K m n)
  ending : Ending K

/-- Go on from a point with at most `fuel` more steps. -/
def loop (options : Options K) (program : Program K m n) :
    (fuel : Nat) → Point K m n → Array (Iterate K m n) → Except Fault (Run K m n)
  | fuel, point, seen => do
    let here := residuals program point
    let infeasibility ← extremum here.rows
    let seen := seen.push ⟨point, here.mu, here.objective, infeasibility⟩
    if ← hasConverged options here infeasibility then
      return ⟨seen.toList, .converged⟩
    match fuel with
    | 0 => return ⟨seen.toList, .exhausted⟩
    | fuel + 1 =>
      match direction program.A point.s point.y here.rows here.columns here.mu with
      | .error (.failure cause) => return ⟨seen.toList, .aborted seen.size cause⟩
      | .error (.fault cause) => throw cause
      | .ok d => loop options program fuel (advance options point d) seen

/-- The starting point. -/
def start (m n : Nat) : Point K m n :=
  ⟨Vec.zero n, Vec.ones m, Vec.ones m⟩

/-- The interior point method on a maximisation problem. -/
def solve (options : Options K) (problem : Problem K m n) : Except Fault (Run K m n) :=
  loop options problem.negated options.maxit (start m n) #[]

/-! ## The log of a run -/

variable [ReadsOut K]

/-- The table of the method. -/
def table : Table :=
  [.iteration, .firstCoordinate, .secondCoordinate, .objective, .infeasibility, .barrier]

/-- The line of a recorded point. -/
def iterateLine (index : Nat) (iterate : Iterate K m n) : String :=
  table.row
    [.whole index, .ofNumber iterate.x.leading.1, .ofNumber iterate.x.leading.2,
      .ofNumber (-iterate.objective), .ofNumber iterate.infeasibility, .ofNumber iterate.mu]

/-- The message at the end of a run that took `elapsed` milliseconds. -/
def Run.message (run : Run K m n) (elapsed : Readout) : String :=
  match run.ending with
  | .converged =>
    "Converged to primal-dual optimal solution in " ++ (Numeral.fixed 1).render elapsed ++ " ms"
  | .exhausted =>
    "Did not converge after " ++ Numeral.digits (run.iterates.length - 1) ++ " iterations in " ++
      (Numeral.fixed 1).render elapsed ++ " ms"
  | .aborted _ cause => cause.message

/-- What is noted down during a run. -/
def Run.notes (run : Run K m n) (elapsed : Readout) : List Note :=
  (table.header :: run.iterates.mapIdx iterateLine).map .line ++
    match run.ending with
    | .aborted iteration cause =>
      [.line ("Aborted at iteration " ++ Numeral.digits iteration ++ ": " ++ cause.message)]
    | _ => [.line (run.message elapsed)]

end PolyTrace.InteriorPoint
