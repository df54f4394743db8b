import PolyTrace.Data.Quoted
import PolyTrace.Service.Session

/-!
# Answering requests

A request names an engine and gives it a problem.  The answer to a request that follows the schema is
a report in every case in which the engine finishes or fails: a failure is logged as a warning and
becomes the status and the message of the report of what was reached.

A request may also be taken as it stands, without the schema.  Then the engine has to be one of the
known names, and the data is read only when it is needed.
-/

namespace PolyTrace

/-- A request that follows the schema. -/
structure SolveRequest where
  solver : Engine
  lines : List (List Float)
  objective : List Float
  options : List (String × Datum) := []
  vertices : Option (List (List Float)) := none

/-- A report together with the log records made on the way. -/
structure Answer where
  report : Report
  records : List LogRecord

/-- Why there is no report: the data does not follow the schema, or something has no result. -/
inductive Refusal where
  | invalid (issues : List Issue)
  | fault (cause : Fault)

/-- The name of the service's logger. -/
def serviceLogger : String := "lpviz_solvers.service"

/-- The record of a failure. -/
def failureRecord (engine : Engine) (cause : Failure Float) : LogRecord :=
  { logger := serviceLogger
    level := warningLevel
    text := engine.label ++ " failed (" ++ cause.status.word ++ "): " ++ cause.message }

/-- The answer that a call of an engine comes to. -/
def Session.answer (engine : Engine) (session : Session) : Answer :=
  match session.outcome with
  | .finished report => ⟨report, session.records⟩
  | .failed cause reached =>
    ⟨(reached.getD (Report.empty engine)).failed cause,
      session.records ++ [failureRecord engine cause]⟩

/-- Points given as rows of numbers, which have to be equally long. -/
def Tensor.ofRows (rows : List (List Float)) : Except Fault (Tensor Float) :=
  Datum.tensor (.list (rows.map Datum.ofNumbers))

namespace SolveRequest

/-- The rule of an object with any fields. -/
def anyObject : Datum → Validated (List (String × Datum))
  | .object fields => .valid fields
  | _ => .invalid [⟨[], .dictType⟩]

/-- Read a request from the fields of an object. -/
def readFields (fields : List (String × Datum)) : Validated SolveRequest :=
  SolveRequest.mk
    <$> Rule.required "solver" (fun data => .ofExcept (Rule.choice Report.engines data)) fields
    <*> Rule.required "lines" Rule.rows fields
    <*> Rule.required "objective" Rule.numbers fields
    <*> Rule.field ["options"] [] anyObject fields
    <*> Rule.field ["vertices"] none (Rule.optional Rule.rows) fields

/-- Read a request from data. -/
def read : Datum → Validated SolveRequest :=
  Rule.object "SolveRequest" readFields

/-- Answer a request.  Vertices matter only to the central path. -/
def solve (request : SolveRequest) (cap : Int) (elapsed : Float) : Except Fault Answer :=
  let vertices :=
    if request.solver = .central then request.vertices.map Tensor.ofRows else none
  (request.solver.call (.object request.options) ⟨cap, elapsed, vertices⟩
    (LoadedProblem.ofRows request.lines request.objective)).map fun session =>
      session.answer request.solver

end SolveRequest

/-- Read a request from data and answer it. -/
def answer (data : Datum) (cap : Int) (elapsed : Float) : Except Refusal Answer :=
  match SolveRequest.read data with
  | .invalid issues => .error (.invalid issues)
  | .valid request =>
    match request.solve cap elapsed with
    | .ok answer => .ok answer
    | .error cause => .error (.fault cause)

/-- The engine that data names. -/
def Engine.ofDatum (data : Datum) : Except Fault Engine :=
  match data, Quoted.datum? data with
  | _, none => .error .argument
  | .text name, some shown =>
    match Engine.ofName? name with
    | some engine => .ok engine
    | none => .error (.unknownEngine shown)
  | _, some shown => .error (.unknownEngine shown)

/-- A field that has to be there. -/
def neededField (name : String) (fields : List (String × Datum)) : Except Fault Datum :=
  match Datum.field? name fields with
  | some data => .ok data
  | none => .error .missingField

/-- Answer a request as it stands, without checking it first. -/
def answerUnchecked (fields : List (String × Datum)) (cap : Int) (elapsed : Float) :
    Except Fault Answer := do
  let engine ← Engine.ofDatum (← neededField "solver" fields)
  let lines ← neededField "lines" fields
  let objective ← neededField "objective" fields
  let options := (Datum.field? "options" fields).getD (.object [])
  let vertices :=
    if engine = .central then
      (Datum.present? (Datum.field? "vertices" fields)).map Datum.tensor
    else none
  let session ←
    engine.call options ⟨cap, elapsed, vertices⟩ (LoadedProblem.ofData (.rows lines) objective)
  return session.answer engine

end PolyTrace
