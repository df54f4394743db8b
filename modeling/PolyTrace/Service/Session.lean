import PolyTrace.Engine.CentralPath.Stacked
import PolyTrace.Engine.Simplex.TwoPhase
import PolyTrace.Problem.Chebyshev
import PolyTrace.Problem.Load
import PolyTrace.Service.Report

/-!
# Running an engine

A session is one call of an engine: the settings are resolved, the problem is read, the engine runs
and its run is written up as a report.  A run that ends in a failure still has a report of what it
went through; a call that fails before the engine has started has none.  What the engine noted down
on the way is handed on as log records.
-/

namespace PolyTrace

/-- How a call of an engine ends. -/
inductive Outcome where
  | finished (report : Report)
  | failed (cause : Failure Float) (reached : Option Report)

/-- A call of an engine: how it ended, and the log records made on the way. -/
structure Session where
  outcome : Outcome
  records : List LogRecord := []

namespace Session

/-- A call that failed before the engine started. -/
def refused (cause : Failure Float) : Session :=
  { outcome := .failed cause none }

/-- Go on with a part of a call, or end the call with its failure or fault. -/
def proceed {α : Type} (part : Except (Trouble Float) α) (next : α → Except Fault Session) :
    Except Fault Session :=
  match part with
  | .ok value => next value
  | .error (.failure cause) => .ok (refused cause)
  | .error (.fault cause) => .error cause

end Session

/-- The name of an engine's logger. -/
def Engine.logger : Engine → String
  | simplex => "lpviz_solvers.solvers.simplex"
  | ipm => "lpviz_solvers.solvers.ipm"
  | pdhg => "lpviz_solvers.solvers.pdhg"
  | central => "lpviz_solvers.solvers.central_path"

/-- The notes of an engine as log records. -/
def Engine.records (engine : Engine) (verbose : Bool) (notes : List Note) : List LogRecord :=
  notes.map (Note.toRecord engine.logger verbose)

/-- A time in seconds, read out in milliseconds. -/
def milliseconds (elapsed : Float) : Readout :=
  Binary64.readout (elapsed * Binary64.ofRat 1000)

/-! ## The simplex method -/

namespace Simplex

/-- The largest number of vertices in a phase. -/
def vertexLimit : Int := twoPow 16

/-- The report of a run, apart from its status and message. -/
def Run.draft {m n : Nat} (run : Run Float m n) (elapsed : Float) : Report :=
  let phases := [Note.lines run.firstNotes, Note.lines run.secondNotes]
  { solver := .simplex
    iterates := run.points.map Vector.toList
    logs := phases.flatten
    elapsed := elapsed
    detail := some (.simplex (phases.filter fun lines => !lines.isEmpty) run.bases
      run.firstPoints.length) }

/-- The outcome of a run. -/
def Run.result {m n : Nat} (run : Run Float m n) (elapsed : Float) : Outcome :=
  match run.outcome with
  | .ok final =>
    .finished
      { run.draft elapsed with
        status := .converged
        message := "Optimal objective " ++
          (Numeral.general 6).render (ReadsOut.readout final.objective) }
  | .error cause =>
    .failed cause
      (some { run.draft elapsed with status := cause.status, message := cause.message })

/-- A call of the simplex method on a problem. -/
def session {m n : Nat} (options : Options Float) (cap : Int) (elapsed : Float)
    (problem : Problem Float m n) : Session :=
  let run := solve options cap problem
  { outcome := run.result elapsed
    records := Engine.records .simplex options.verbose (run.firstNotes ++ run.secondNotes) }

end Simplex

/-! ## The interior point method -/

namespace InteriorPoint

/-- The status of a run. -/
def Run.status {m n : Nat} (run : Run Float m n) : Status :=
  match run.ending with
  | .converged => .converged
  | .exhausted => .maxIterations
  | .aborted _ cause => cause.status

/-- The report of a run. -/
def Run.report {m n : Nat} (run : Run Float m n) (elapsed : Float) : Report :=
  { solver := .ipm
    iterates := run.iterates.map fun iterate => iterate.x.toList
    logs := Note.lines (run.notes (milliseconds elapsed))
    status := run.status
    elapsed := elapsed
    message := run.message (milliseconds elapsed)
    detail := some (.ipm (run.iterates.map fun iterate => iterate.s.toList)
      (run.iterates.map fun iterate => iterate.y.toList)
      (run.iterates.map fun iterate => iterate.mu)) }

/-- A call of the interior point method on a problem. -/
def session {m n : Nat} (options : Options Float) (elapsed : Float)
    (problem : Problem Float m n) : Except Fault Session :=
  (solve options problem).map fun run =>
    { outcome :=
        match run.ending with
        | .aborted _ cause => .failed cause (some (run.report elapsed))
        | _ => .finished (run.report elapsed)
      records := Engine.records .ipm options.verbose (run.notes (milliseconds elapsed)) }

end InteriorPoint

/-! ## The primal-dual method -/

namespace PrimalDual

/-- The status of a run. -/
def Run.status {m p q : Nat} (run : Run Float m p q) : Status :=
  match run.ending with
  | .converged => .converged
  | _ => .maxIterations

/-- The report of a run. -/
def Run.report {m p q : Nat} (run : Run Float m p q) (basis : Bool) (elapsed : Float) : Report :=
  { solver := .pdhg
    iterates := run.iterates.map fun iterate => iterate.point.toList
    logs := Note.lines (run.notes basis (milliseconds elapsed))
    status := run.status
    elapsed := elapsed
    message := run.message (milliseconds elapsed)
    detail := some (.pdhg (run.iterates.map fun iterate => iterate.error)
      (if basis then run.iterates.map fun iterate => (phaseColour (activeRows iterate.y) : Int)
        else [])) }

/-- A run on a program in some form as the end of a call. -/
def Run.session {m p q : Nat} (run : Run Float m p q) (form : Form) (options : Options Float)
    (elapsed : Float) : Session :=
  let basis := showsBasis form options
  { outcome := .finished (run.report basis elapsed)
    records := Engine.records .pdhg options.verbose (run.notes basis (milliseconds elapsed)) }

/-- A call of the primal-dual method on a program, with the points shown by `view`. -/
def programSession {m p q : Nat} (form : Form) (options : Options Float) (elapsed : Float)
    (program : Program Float m p) (view : Vec Float p → Vec Float q) : Except Fault Session :=
  (run form options program view).map fun run => run.session form options elapsed

/-- A call of the primal-dual method on a problem. -/
def session {m n : Nat} (options : Options Float) (elapsed : Float)
    (problem : Problem Float m n) : Except Fault Session :=
  (solve options problem).map fun run => run.session options.form options elapsed

/-- The split that a vector of `p` variables is shown by, when `n` of them are asked for: the length
of the difference of its first two slices, each of which is repeated if it has length one. -/
def splitLength? (p : Nat) (n : Int) : Option Nat :=
  let first := sliceIndex p n
  let second := sliceIndex p (2 * n) - first
  if first = second then some first
  else if first = 1 then some second
  else if second = 1 then some first
  else none

/-- The difference of the first two slices of a vector. -/
def splitView {p q : Nat} (n : Int) (x : Vec Float p) : Vec Float q :=
  let first := sliceIndex p n
  let second := sliceIndex p (2 * n) - first
  Vector.ofFn fun i =>
    x.toArray.getD (if first = 1 then 0 else i.val) 0 -
      x.toArray.getD (first + if second = 1 then 0 else i.val) 0

/-- A call of the primal-dual method on a program whose points cannot be shown, for the reason
given.  It ends well only when there is no point to show. -/
def unshownSession {m p : Nat} (options : Options Float) (elapsed : Float)
    (program : Program Float m p) (reason : Fault) : Except Fault Session :=
  match run .standard options program (id : Vec Float p → Vec Float p) with
  | .error cause => .error cause
  | .ok run =>
    if run.iterates.isEmpty then programSession .standard options elapsed program id
    else .error reason

/-- A call of the primal-dual method on a program in standard form.  If `n` is given, the variables
are shown as differences of their first `n` and their next `n` entries. -/
def standardSession {m p : Nat} (options : Options Float) (elapsed : Float)
    (program : Program Float m p) (n : Except Fault (Option Int)) : Except Fault Session :=
  match n with
  | .error reason => unshownSession options elapsed program reason
  | .ok none => programSession .standard options elapsed program id
  | .ok (some n) =>
    match splitLength? p n with
    | some q =>
      programSession .standard options elapsed program (splitView n : Vec Float p → Vec Float q)
    | none => unshownSession options elapsed program .shapes

end PrimalDual

/-! ## The central path -/

namespace CentralPath

/-- The value of a barrier as a machine number. -/
def BarrierValue.toFloat : BarrierValue Float → Float
  | .outside => Binary64.negativeInfinity
  | .inside value => value

/-- The report of a path. -/
def Path.report {n : Nat} (path : Path Float n) (elapsed : Float) : Report :=
  { solver := .central
    iterates := path.points.map Vector.toList
    logs := Note.lines (path.notes (milliseconds elapsed))
    status := if path.complete then .converged else .maxIterations
    elapsed := elapsed
    message := path.message (milliseconds elapsed)
    detail := some (.central path.mu (path.barriers.map BarrierValue.toFloat) path.skipped) }

/-- A call that has nothing to do, and says so in two lines. -/
def idleSession (options : Options Float) (elapsed : Float) (lines : List String) : Session :=
  { outcome := .finished
      { Report.empty .central with
        logs := lines
        status := .converged
        elapsed := elapsed
        message := lines.getLastD "" }
    records := Engine.records .central options.verbose (lines.map .line) }

/-- The centroid of some vertices of `n` coordinates. -/
def centroidPoint (n : Nat) (vertices : Except Fault (Tensor Float)) :
    Except (Trouble Float) (Vec Float n) := do
  let points ← Trouble.ofFault vertices
  match centroid points (some (.whole n)) with
  | .error cause => throw (.ofMismatch cause)
  | .ok centre =>
    match centre.toVec? n with
    | some x => return x
    | none => throw (.fault .shapes)

/-- The starting point: the centroid of the vertices if there are any given, and else the centre of
the largest ball in the region. -/
def startPoint {m n : Nat} (problem : Problem Float m n)
    (vertices : Option (Except Fault (Tensor Float))) : Except (Trouble Float) (Vec Float n) :=
  match vertices with
  | none => Chebyshev.centre problem.A problem.b
  | some points => centroidPoint n points

/-- The report of a path as the end of a call. -/
def pathSession {n : Nat} (options : Options Float) (elapsed : Float) (path : Path Float n) :
    Session :=
  { outcome := .finished (path.report elapsed)
    records := Engine.records .central options.verbose (path.notes (milliseconds elapsed)) }

/-- A call of the central path on a problem whose rows have weights. -/
def weightedSession {m n : Nat} (options : Options Float) (elapsed : Float)
    (problem : Weighted Float m n) (vertices : Option (Except Fault (Tensor Float))) :
    Except Fault Session :=
  if m = 0 then .ok (idleSession options elapsed noRowsNotes)
  else if options.niter = 0 then .ok (idleSession options elapsed noLevelsNotes)
  else
    Session.proceed (startPoint problem.toProblem vertices) fun start =>
      (trace options problem start).map (pathSession options elapsed)

/-- A call of the central path on a problem. -/
def session {m n : Nat} (options : Options Float) (elapsed : Float)
    (problem : Problem Float m n) (vertices : Option (Except Fault (Tensor Float))) :
    Except Fault Session :=
  match weightVector m options.weights with
  | .error cause => .ok (.refused (.mismatch cause))
  | .ok w =>
    let weighted : Weighted Float m n := ⟨problem, w⟩
    weightedSession options elapsed weighted.reduced vertices

/-- A call of the central path on a stack of problems, which has to be given vertices. -/
def stackedSession (options : Options Float) (elapsed : Float) (problem : StackedProblem Float)
    (vertices : Option (Except Fault (Tensor Float))) : Except Fault Session :=
  let n := problem.A.shape.getD 1 0
  if problem.A.shape.headD 0 = 0 then .ok (idleSession options elapsed noRowsNotes)
  else if options.niter = 0 then .ok (idleSession options elapsed noLevelsNotes)
  else
    match vertices with
    | none => .error .shapes
    | some points =>
      Session.proceed (centroidPoint n points) fun start =>
        Session.proceed (problem.trace options start) fun path =>
          .ok (pathSession options elapsed path)

/-- A call of the central path on arrays with too many dimensions for a problem. -/
def deepSession (options : Options Float) (elapsed : Float) (arrays : ProblemArrays)
    (vertices : Option (Except Fault (Tensor Float))) : Except Fault Session :=
  Session.proceed (filterWeighted arrays.A arrays.b options.weights) fun (A, b, w) =>
    stackedSession options elapsed ⟨A, b, arrays.c, w⟩ vertices

end CentralPath

/-! ## All engines -/

/-- A problem that was read: one of the right shape, or arrays with further dimensions. -/
inductive LoadedProblem where
  | flat (problem : SizedProblem Float)
  | deep (arrays : ProblemArrays)

namespace LoadedProblem

/-- Read a problem from rows of numbers. -/
def ofRows (lines : List (List Float)) (objective : List Float) :
    Except (Trouble Float) LoadedProblem :=
  match SizedProblem.ofRows lines objective with
  | .ok problem => .ok (.flat problem)
  | .error cause => .error (.ofMismatch cause)

/-- Read a problem from data. -/
def ofData (lines : Lines) (objective : Datum) : Except (Trouble Float) LoadedProblem :=
  (ProblemArrays.load lines objective).map fun arrays =>
    match arrays.problem? with
    | some problem => .flat problem
    | none => .deep arrays

end LoadedProblem

/-- What a call of an engine takes beside the settings: the limit on simplex vertices, the time that
the run will have taken, and the vertices to start the central path from. -/
structure Surroundings where
  cap : Int := Simplex.vertexLimit
  elapsed : Float := 0
  vertices : Option (Except Fault (Tensor Float)) := none

/-- A call of an engine on a problem of the right shape. -/
def EngineOptions.session (options : EngineOptions) (around : Surroundings) {m n : Nat}
    (problem : Problem Float m n) : Except Fault Session :=
  match options with
  | .simplex options => .ok (Simplex.session options around.cap around.elapsed problem)
  | .ipm options => InteriorPoint.session options around.elapsed problem
  | .pdhg options => PrimalDual.session options around.elapsed problem
  | .central options => CentralPath.session options around.elapsed problem around.vertices

/-- A call of an engine on arrays with too many dimensions. -/
def EngineOptions.deepSession (options : EngineOptions) (around : Surroundings)
    (arrays : ProblemArrays) : Except Fault Session :=
  match options with
  | .simplex _ => .error .shapes
  | .ipm _ => .error .shapes
  | .pdhg options =>
    if options.ineq then .ok (.refused (.mismatch (.matrixShape arrays.A.shape)))
    else .error .shapes
  | .central options => CentralPath.deepSession options around.elapsed arrays around.vertices

/-- A call of an engine with settings given as data. -/
def Engine.call (engine : Engine) (options : Datum) (around : Surroundings)
    (problem : Except (Trouble Float) LoadedProblem) : Except Fault Session :=
  match EngineOptions.resolve engine options with
  | .error cause => .ok (.refused cause)
  | .ok options =>
    Session.proceed problem fun loaded =>
      match loaded with
      | .flat sized => options.session around sized.problem
      | .deep arrays => options.deepSession around arrays

end PolyTrace
