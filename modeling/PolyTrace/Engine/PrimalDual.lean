import PolyTrace.Linear.Vec
import PolyTrace.Log.Diary
import PolyTrace.Problem.Basic
import PolyTrace.Table

/-!
# The primal-dual gradient method

The method minimises `c · x`, either over the nonnegative solutions of `A x = b` (the standard form)
or over the points with `A x ≤ b` (the inequality form).  It takes alternating gradient steps of
fixed lengths `eta` and `tau` in the variables and in the multipliers, the second one at a point
extrapolated from the first.  The standard form keeps the variables nonnegative, the inequality form
the multipliers.

A state is judged by its relative error: the sum of the relative residuals of the rows and of the
columns and the relative gap of the two objectives.  The run ends when the error falls to the
tolerance, when it is no longer finite, or when the steps are used up; only the first end is a
success, and none of them is a failure.
-/

namespace PolyTrace.PrimalDual

/-- The settings of the primal-dual method. -/
structure Options (K : Type) where
  verbose : Bool := false
  ineq : Bool := false
  maxit : Nat
  eta : K
  tau : K
  tol : K
  showBasis : Bool := false
deriving DecidableEq

/-- Variables and multipliers. -/
structure State (K : Type) (m p : Nat) where
  x : Vec K p
  y : Vec K m

/-- The two forms of a program the method works on. -/
inductive Form where
  | standard
  | inequality
deriving DecidableEq

/-- The form that the settings ask for. -/
def Options.form {K : Type} (options : Options K) : Form :=
  if options.ineq then .inequality else .standard

namespace Form

variable {K : Type} [Scalar K] {m n : Nat}

/-- The number of variables of a problem in a form. -/
def columns (form : Form) (m n : Nat) : Nat :=
  match form with
  | .standard => n + n + m
  | .inequality => n

/-- The program that a problem is in a form: its split form, or its rows with the objective
negated. -/
def program (form : Form) (problem : Problem K m n) : Program K m (form.columns m n) :=
  match form with
  | .standard => problem.split
  | .inequality => ⟨problem.A, problem.b, problem.c.neg⟩

/-- The point of a problem that the variables of its program stand for. -/
def point (form : Form) (x : Vec K (form.columns m n)) : Vec K n :=
  match form, x with
  | .standard, x => unsplit x
  | .inequality, x => x

end Form

section Steps

variable {K : Type} [Scalar K] {m p : Nat}

/-- Twice the first vector less the second. -/
def extrapolate {n : Nat} (next last : Vec K n) : Vec K n :=
  (next.scale Scalar.two).sub last

/-- One step on the standard form: first the variables, then the multipliers. -/
def standardStep (eta tau : K) (program : Program K m p) (state : State K m p) : State K m p :=
  let gradient := program.c.add (program.A.transposeMulVec state.y)
  let next := (state.x.sub (gradient.scale eta)).project
  let residual := (program.A.mulVec (extrapolate next state.x)).sub program.b
  ⟨next, state.y.along tau residual⟩

/-- One step on the inequality form: first the multipliers, then the variables. -/
def inequalityStep (eta tau : K) (program : Program K m p) (state : State K m p) : State K m p :=
  let residual := (program.A.mulVec state.x).sub program.b
  let next := (state.y.along tau residual).project
  let gradient := program.c.add (program.A.transposeMulVec (extrapolate next state.y))
  ⟨state.x.sub (gradient.scale eta), next⟩

/-- The gap between two objectives, which have opposite signs at an optimum, relative to their
size. -/
def objectiveGap (primal dual : K) : K :=
  Scalar.abs (primal + dual) / (1 + Scalar.abs primal + Scalar.abs dual)

/-- The gap between the objectives of a state. -/
def relativeGap (program : Program K m p) (state : State K m p) : K :=
  objectiveGap (program.c.dot state.x) (program.b.dot state.y)

/-- The rows whose multiplier exceeds the threshold `1e-10`. -/
def activeRows (y : Vec K m) : Vector Bool m :=
  y.map fun multiplier => decide (Scalar.unitAt 10 < multiplier)

/-- The colour of a set of rows: the number with these binary digits, modulo ten. -/
def phaseColour (active : Vector Bool m) : Nat :=
  Fin.foldl m (fun total (i : Fin m) => if active i then total + twoPow i.val else total) 0 % 10

/-- The largest violation of a row, as the log shows it. -/
def violation (form : Form) (program : Program K m p) (state : State K m p) : Except Fault K :=
  let residual := (program.A.mulVec state.x).sub program.b
  match form with
  | .standard => .ok (residual.largestAbs?.getD 0)
  | .inequality =>
    match residual.project.largest? with
    | some value => .ok value
    | none => .error .emptyExtremum

/-- The state a run starts from. -/
def start (form : Form) (m p : Nat) : State K m p :=
  match form with
  | .standard => ⟨Vec.zero p, Vec.zero m⟩
  | .inequality => ⟨Vec.zero p, Vec.ones m⟩

/-- One step on either form. -/
def step (form : Form) (options : Options K) (program : Program K m p) (state : State K m p) :
    State K m p :=
  match form with
  | .standard => standardStep options.eta options.tau program state
  | .inequality => inequalityStep options.eta options.tau program state

end Steps

variable {K : Type} [Analytic K] {m p q : Nat}

/-- The length of a residual relative to the data it is compared with. -/
def relativeNorm {k l : Nat} (residual : Vec K k) (data : Vec K l) : K :=
  residual.norm / (1 + data.norm)

/-- The relative error of a state of the standard form. -/
def standardError (program : Program K m p) (state : State K m p) : K :=
  let rows := (program.A.mulVec state.x).sub program.b
  let columns := ((program.A.transposeMulVec state.y).neg.sub program.c).project
  relativeNorm rows program.b + relativeNorm columns program.c + relativeGap program state

/-- The relative error of a state of the inequality form. -/
def inequalityError (program : Program K m p) (state : State K m p) : K :=
  let rows := ((program.A.mulVec state.x).sub program.b).project
  relativeNorm rows program.b + relativeNorm state.y.neg.project program.c +
    relativeGap program state

/-- The relative error of a state. -/
def relativeError (form : Form) (program : Program K m p) (state : State K m p) : K :=
  match form with
  | .standard => standardError program state
  | .inequality => inequalityError program state

/-- A recorded state: the point shown for it, its objective, its largest violation and its error. -/
structure Iterate (K : Type) (m p q : Nat) extends State K m p where
  point : Vec K q
  objective : K
  violation : K
  error : K

/-- How the method ended. -/
inductive Ending where
  | converged
  | diverged
  | exhausted
deriving DecidableEq

/-- What the method went through and how it ended. -/
structure Run (K : Type) (m p q : Nat) where
  iterates : List (Iterate K m p q)
  ending : Ending

/-- Record a state with its error. -/
def record (form : Form) (program : Program K m p) (view : Vec K p → Vec K q)
    (seen : Array (Iterate K m p q)) (state : State K m p) (error : K) :
    Except Fault (Array (Iterate K m p q)) :=
  (violation form program state).map fun violation =>
    seen.push ⟨state, view state.x, program.c.dot state.x, violation, error⟩

/-- The end of a run at a state.  A state within the tolerance closes the trace. -/
def finish (form : Form) (options : Options K) (program : Program K m p)
    (view : Vec K p → Vec K q) (seen : Array (Iterate K m p q)) (state : State K m p) (error : K) :
    Except Fault (Run K m p q) :=
  if error ≤ options.tol then
    (record form program view seen state error).map fun all => ⟨all.toList, .converged⟩
  else if Scalar.Finite error then .ok ⟨seen.toList, .exhausted⟩
  else .ok ⟨seen.toList, .diverged⟩

/-- Go on from a state with at most `fuel` more steps. -/
def loop (form : Form) (options : Options K) (program : Program K m p)
    (view : Vec K p → Vec K q) :
    (fuel : Nat) → Array (Iterate K m p q) → State K m p → K → Except Fault (Run K m p q)
  | 0, seen, state, error => finish form options program view seen state error
  | fuel + 1, seen, state, error =>
    if options.tol < error then do
      let seen ← record form program view seen state error
      let next := step form options program state
      let nextError := relativeError form program next
      if Scalar.Finite nextError then
        loop form options program view fuel seen next nextError
      else finish form options program view seen next nextError
    else finish form options program view seen state error

/-- The primal-dual method on a program.  `view` is the point shown for a vector of variables. -/
def run (form : Form) (options : Options K) (program : Program K m p)
    (view : Vec K p → Vec K q) : Except Fault (Run K m p q) :=
  let state := start form m p
  loop form options program view options.maxit #[] state (relativeError form program state)

/-- The primal-dual method on a problem, in the form that the settings ask for. -/
def solve {n : Nat} (options : Options K) (problem : Problem K m n) :
    Except Fault (Run K m (options.form.columns m n) n) :=
  run options.form options (options.form.program problem) options.form.point

/-! ## The log of a run -/

variable [ReadsOut K]

/-- The set of active rows is shown for the inequality form, when it is asked for. -/
def showsBasis (form : Form) (options : Options K) : Bool :=
  match form with
  | .standard => false
  | .inequality => options.showBasis

/-- The table of the method on a program of `m` rows. -/
def table (m : Nat) (basis : Bool) : Table :=
  let columns : Table :=
    [.iteration, .firstCoordinate, .secondCoordinate, ⟨" Obj", 10, .numeral ⟨.scientific 1, true⟩⟩,
      .infeasibility, .relativeError]
  if basis then columns ++ [.basis m] else columns

/-- The line of a recorded state. -/
def iterateLine (basis : Bool) (index : Nat) (iterate : Iterate K m p q) : String :=
  let cells : List Cell :=
    [.whole (index + 1), .ofNumber iterate.point.leading.1, .ofNumber iterate.point.leading.2,
      .ofNumber (-iterate.objective), .ofNumber iterate.violation, .ofNumber iterate.error]
  (table m basis).row
    (if basis then cells ++ [.text (flagText (activeRows iterate.y).toList)] else cells)

/-- The message at the end of a run that took `elapsed` milliseconds. -/
def Run.message (run : Run K m p q) (elapsed : Readout) : String :=
  let time := (Numeral.fixed 2).render elapsed ++ "ms"
  let count := Numeral.digits run.iterates.length
  match run.ending with
  | .converged => "Converged to primal-dual optimal solution in " ++ time
  | .diverged =>
    "Diverged after " ++ count ++ " iterations in " ++ time ++ "; try smaller eta/tau"
  | .exhausted => "Did not converge after " ++ count ++ " iterations in " ++ time

/-- What is noted down during a run. -/
def Run.notes (run : Run K m p q) (basis : Bool) (elapsed : Readout) : List Note :=
  ((table m basis).header :: run.iterates.mapIdx (iterateLine basis) ++
    [run.message elapsed]).map .line

end PolyTrace.PrimalDual
