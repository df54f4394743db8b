import PolyTrace.Schema.Options
import PolyTrace.Status

/-!
# Reports

A report is what is handed to a caller after a run: the points the engine went through, the lines of
its log, how the run ended, and the traces that belong to the engine.  A report can also be read from
data, by the rules of a schema.
-/

namespace PolyTrace

/-- The traces of an engine beside its points. -/
inductive Report.Detail where
  | simplex (phaseLogs : List (List String)) (bases : List String) (phaseBoundary : Int)
  | ipm (slacks duals : List (List Float)) (mu : List Float)
  | pdhg (errors : List Float) (phases : List Int)
  | central (mu objectives skipped : List Float)

/-- What is handed to a caller after a run. -/
structure Report where
  solver : Engine
  iterates : List (List Float) := []
  logs : List String := []
  status : Status := .maxIterations
  elapsed : Float := 0
  message : String := ""
  detail : Option Report.Detail := none

namespace Report

/-- The run converged. -/
def converged (report : Report) : Bool :=
  report.status = .converged

/-- The traces of an engine that recorded nothing. -/
def Detail.empty : Engine → Detail
  | .simplex => simplex [] [] 0
  | .ipm => ipm [] [] []
  | .pdhg => pdhg [] []
  | .central => central [] [] []

/-- The report of an engine that recorded nothing. -/
def empty (engine : Engine) : Report :=
  { solver := engine, detail := some (Detail.empty engine) }

/-- The report of a run that ended in a failure.  The message of the failure ends the log. -/
def failed (report : Report) (cause : Failure Float) : Report :=
  let message := cause.message
  { report with
    status := cause.status
    message := message
    logs := if report.logs.getLast? = some message then report.logs
      else report.logs ++ [message] }

/-! ## Reading a report -/

/-- The statuses by their words. -/
def statuses : List (String × Status) :=
  Status.all.map fun status => (status.word, status)

/-- The engines by their names. -/
def engines : List (String × Engine) :=
  Engine.all.map fun engine => (engine.name, engine)

/-- A list of texts. -/
def texts : Datum → Validated (List String) :=
  Rule.list fun item => .ofExcept (Rule.text item)

/-- Read the traces of an engine. -/
def Detail.read (engine : Engine) (fields : List (String × Datum)) : Validated Detail :=
  match engine with
  | .simplex =>
    simplex
      <$> Rule.field ["phase_logs"] [] (Rule.list texts) fields
      <*> Rule.field ["bases"] [] texts fields
      <*> Rule.field ["phase_boundary"] 0 (fun data => .ofExcept (Rule.whole data)) fields
  | .ipm =>
    ipm
      <$> Rule.field ["slacks"] [] Rule.rows fields
      <*> Rule.field ["duals"] [] Rule.rows fields
      <*> Rule.field ["mu"] [] Rule.numbers fields
  | .pdhg =>
    pdhg
      <$> Rule.field ["eps"] [] Rule.numbers fields
      <*> Rule.field ["phases"] [] (Rule.list fun item => .ofExcept (Rule.whole item)) fields
  | .central =>
    central
      <$> Rule.field ["mu"] [] Rule.numbers fields
      <*> Rule.field ["objectives"] [] Rule.numbers fields
      <*> Rule.field ["skipped"] [] Rule.numbers fields

/-- Read the part that all reports have in common. -/
def readCommon (solver : Validated Engine) (fields : List (String × Datum))
    (detail : Validated (Option Detail)) : Validated Report :=
  Report.mk
    <$> solver
    <*> Rule.field ["iterates"] [] Rule.rows fields
    <*> Rule.field ["logs"] [] texts fields
    <*> Rule.field ["status"] .maxIterations
      (fun data => .ofExcept (Rule.choice statuses data)) fields
    <*> Rule.field ["elapsed"] 0 (fun data => .ofExcept (Rule.number data)) fields
    <*> Rule.field ["message"] "" (fun data => .ofExcept (Rule.text data)) fields
    <*> detail

/-- Read a report without traces of an engine, which has to be named. -/
def readPlain (fields : List (String × Datum)) : Validated Report :=
  readCommon
    (Rule.required "solver" (fun data => .ofExcept (Rule.choice engines data)) fields) fields
    (.valid none)

/-- Read the report of an engine. -/
def readFor (engine : Engine) (fields : List (String × Datum)) : Validated Report :=
  readCommon
    (Rule.field ["solver"] engine
      (fun data => .ofExcept (Rule.choice [(engine.name, engine)] data)) fields) fields
    (some <$> Detail.read engine fields)

/-- Read a report of the named schema. -/
def read? (schema : String) (data : Datum) : Option (Validated Report) :=
  if schema = "SolverResult" then some (Rule.object schema readPlain data)
  else
    (Engine.all.find? fun engine => engine.reportName = schema).map fun engine =>
      Rule.object schema (readFor engine) data

end Report

end PolyTrace
