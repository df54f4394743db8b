import PolyTrace.Engine.Simplex.Phase
import PolyTrace.Log.Diary

/-!
# The two-phase method

The first phase works on the rows multiplied by the sign of their bound, with one artificial
variable for each row; it drives the sum of the artificial variables down.  If an artificial
variable stays above the tolerance the problem is infeasible.  Otherwise the artificial columns
left in the basis are replaced by the slacks of their rows, and the second phase maximises the
objective over the split form from there.
-/

namespace PolyTrace.Simplex

variable {K : Type} [Scalar K] {m n : Nat}

/-- The sign of each bound, zero counting as positive. -/
def rowSigns (b : Vec K m) : Vec K m :=
  b.map fun bound => if bound < 0 then -1 else 1

/-- The program of the first phase. -/
def phaseOne (problem : Problem K m n) : Program K m (n + n + m + m) :=
  let signs := rowSigns problem.b
  let rows := problem.A.scaleRows signs
  { A := ((rows.beside rows.neg).beside (Mat.diagonal signs)).beside (Mat.identity m : Mat K m m)
    b := signs.mul problem.b
    c := (Vec.zero (n + n + m) : Vec K _) ++ (Vec.ones m : Vec K m).neg }

/-- The basis of the artificial variables. -/
def artificialBasis (m n : Nat) : Basis (n + n + m + m) :=
  Vector.replicate (n + n + m) false ++ Vector.replicate m true

/-- The program of the second phase. -/
def phaseTwo (problem : Problem K m n) : Program K m (n + n + m) :=
  { A := Problem.splitMatrix problem.A
    b := problem.b
    c := problem.c ++ problem.c.neg ++ (Vec.zero m : Vec K m) }

/-- The first coordinates of the split variables of the first phase. -/
def viewOne (x : Vec K (n + n + m + m)) : Vec K n :=
  Vector.ofFn fun i =>
    x (((i.castAdd n).castAdd m).castAdd m) - x (((i.natAdd n).castAdd m).castAdd m)

/-- The column of the slack of a row, in the second phase. -/
def slackColumn (i : Fin m) : Fin (n + n + m) :=
  i.natAdd (n + n)

/-- The column of the artificial variable of a row, in the first phase. -/
def artificialColumn (i : Fin m) : Fin (n + n + m + m) :=
  i.natAdd (n + n + m)

/-- A change made to the basis between the phases. -/
inductive Repair where
  | replaced (artificial slack : Nat)
  | padded (members slack : Nat)
deriving DecidableEq

/-- The warning that tells of a change. -/
def Repair.message : Repair → String
  | replaced artificial slack =>
    "Degenerate Phase I basis: replacing artificial " ++ Numeral.digits artificial ++
      " with slack " ++ Numeral.digits slack
  | padded members slack =>
    "Phase I basis short of " ++ Numeral.digits members ++ " members: padding with slack " ++
      Numeral.digits slack

/-- A basis of the second phase, and the changes that led to it. -/
structure Repaired (p : Nat) where
  basis : Basis p
  changes : List Repair

/-- Row `i` has a basic artificial variable above the tolerance. -/
def isStuck (tol : K) (basis : Basis (n + n + m + m)) (x : Vec K (n + n + m + m)) (i : Fin m) :
    Bool :=
  basis (artificialColumn i) && decide (tol < x (artificialColumn i))

/-- Replace the artificial variable of row `i`, if it is basic, by the slack of that row. -/
def replaceArtificial (basis : Basis (n + n + m + m)) (state : Repaired (n + n + m))
    (i : Fin m) : Repaired (n + n + m) :=
  if basis (artificialColumn i) && !state.basis (slackColumn i) then
    { basis := Vec.put state.basis (slackColumn i) true
      changes := state.changes ++ [.replaced (n + n + m + i.val) (n + n + i.val)] }
  else state

/-- Add the slack of row `i` while the basis has too few members. -/
def padSlack (state : Repaired (n + n + m)) (i : Fin m) : Repaired (n + n + m) :=
  if state.basis.members.length < m ∧ state.basis (slackColumn i) = false then
    { basis := Vec.put state.basis (slackColumn i) true
      changes := state.changes ++ [.padded m (n + n + i.val)] }
  else state

/-- The basis of the first phase without its artificial columns. -/
def dropArtificials (basis : Basis (n + n + m + m)) : Basis (n + n + m) :=
  Vector.ofFn fun j => basis (j.castAdd m)

/-- The basis of the second phase made from the last basis of the first. -/
def repair (basis : Basis (n + n + m + m)) : Repaired (n + n + m) :=
  Fin.foldl m padSlack (Fin.foldl m (replaceArtificial basis) ⟨dropArtificials basis, []⟩)

/-- The hand-over between the phases: what was changed, and the new basis or a failure. -/
structure Handover (K : Type) (p : Nat) where
  changes : List Repair
  outcome : Except (Failure K) (Basis p)

/-- Turn the end of the first phase into the start of the second. -/
def handover (tol : K) (basis : Basis (n + n + m + m)) (x : Vec K (n + n + m + m))
    (objective : K) : Handover K (n + n + m) :=
  if (List.finRange m).any (isStuck tol basis x) then ⟨[], .error (.infeasible (-objective))⟩
  else
    let repaired := repair basis
    match repaired.basis.check m with
    | .error cause => ⟨repaired.changes, .error cause⟩
    | .ok () => ⟨repaired.changes, .ok repaired.basis⟩

/-- What the method went through: the first phase, then the hand-over, then the second phase, as far
as it came, and how it ended. -/
structure Run (K : Type) (m n : Nat) where
  first : Phase K (n + n + m + m) n
  between : Option (Handover K (n + n + m))
  second : Option (Phase K (n + n + m) n)
  outcome : Except (Failure K) (Final K (n + n + m))

/-- The two-phase method, with at most `cap` vertices in each phase. -/
def solve (options : Options K) (cap : Int) (problem : Problem K m n) : Run K m n :=
  let first := Phase.run options cap (phaseOne problem) viewOne (artificialBasis m n)
  match first.outcome with
  | .error cause => ⟨first, none, none, .error cause⟩
  | .ok final =>
    let between := handover options.tol final.basis final.full final.objective
    match between.outcome with
    | .error cause => ⟨first, some between, none, .error cause⟩
    | .ok basis =>
      let second := Phase.run options cap (phaseTwo problem) unsplit basis
      ⟨first, some between, some second, second.outcome⟩

/-- Two numbers are equal up to a relative error of `1e-5` and an absolute error of `1e-8`. -/
def closeTo (a b : K) : Bool :=
  decide (Scalar.abs (a - b) ≤
      Scalar.unitAt 8 + Scalar.unitAt 5 * Scalar.abs b ∧
    Scalar.Finite b) || decide (Scalar.Same a b)

/-- Two points are equal up to small errors in every coordinate. -/
def closePoints (u v : Vec K n) : Bool :=
  (List.finRange n).all fun (i : Fin n) => closeTo (u i) (v i)

namespace Run

/-- The vertices of the second phase. -/
def secondVertices (run : Run K m n) : List (Vertex K (n + n + m) n) :=
  match run.second with
  | some phase => phase.vertices
  | none => []

/-- The points of the first phase. -/
def firstPoints (run : Run K m n) : List (Vec K n) :=
  run.first.vertices.map Vertex.point

/-- The points of both phases.  The second phase starts where the first ended, so its first point is
left out when it repeats the last one. -/
def points (run : Run K m n) : List (Vec K n) :=
  let first := run.firstPoints
  let second := run.secondVertices.map Vertex.point
  match first.getLast?, second with
  | some last, next :: rest => if closePoints last next then first ++ rest else first ++ second
  | _, _ => first ++ second

/-- The bases of both phases, as texts. -/
def bases (run : Run K m n) : List String :=
  run.first.vertices.map (fun v => v.basis.text) ++ run.secondVertices.map (fun v => v.basis.text)

end Run

/-! ## The log of a run -/

variable [ReadsOut K]

/-- The table of a phase with `p` columns. -/
def table (p : Nat) : Table :=
  [.iteration, .firstCoordinate, .secondCoordinate, .objective, .basis p]

/-- The line of a vertex. -/
def vertexLine {p q : Nat} (index : Nat) (vertex : Vertex K p q) : String :=
  (table p).row
    [.whole index, .ofNumber vertex.point.leading.1, .ofNumber vertex.point.leading.2,
      .ofNumber vertex.objective, .text vertex.basis.text]

/-- The lines of a phase: the titles and one line for each vertex. -/
def Phase.lines {p q : Nat} (phase : Phase K p q) : List String :=
  (table p).header :: phase.vertices.mapIdx fun i vertex => vertexLine (i + 1) vertex

/-- The line that closes a phase finished with the basis of the given text. -/
def finishedLine (phase : Nat) (basis : String) : String :=
  "Phase " ++ Numeral.digits phase ++ " finished - basis " ++ basis

/-- What is noted down during the first phase and the hand-over. -/
def Run.firstNotes (run : Run K m n) : List Note :=
  run.first.lines.map .line ++
    match run.first.outcome with
    | .error cause => [.line cause.message]
    | .ok _ =>
      match run.between with
      | none => []
      | some between =>
        between.changes.map (fun change => .warning change.message) ++
          match between.outcome with
          | .error cause => [.line cause.message]
          | .ok basis => [.line (finishedLine 1 basis.text)]

/-- What is noted down during the second phase. -/
def Run.secondNotes (run : Run K m n) : List Note :=
  match run.second with
  | none => []
  | some phase =>
    phase.lines.map .line ++
      match phase.outcome with
      | .error cause => [.line cause.message]
      | .ok final => [.line (finishedLine 2 final.basis.text)]

end PolyTrace.Simplex
