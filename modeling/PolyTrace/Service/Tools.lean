import PolyTrace.Service.Solve

/-!
# The tools of the server

The service is offered as five tools: one for each engine, whose options follow the engine's schema,
and one that takes the engine by name.  A tool is called with named arguments.
-/

namespace PolyTrace

/-- The name under which the tools are offered. -/
def serverName : String := "LP Visualizer Solvers"

/-- A tool: for one engine, or for any. -/
inductive Tool where
  | engine (which : Engine)
  | any
deriving DecidableEq

namespace Tool

/-- Every tool. -/
def all : List Tool :=
  [.engine .simplex, .engine .ipm, .engine .pdhg, .engine .central, .any]

/-- The name of a tool. -/
def name : Tool → String
  | .engine .simplex => "solve_simplex"
  | .engine .ipm => "solve_ipm"
  | .engine .pdhg => "solve_pdhg"
  | .engine .central => "solve_central_path"
  | .any => "solve_lp"

/-- The tool of the given name. -/
def ofName? (text : String) : Option Tool :=
  all.find? fun tool => tool.name = text

/-- What a tool says about itself. -/
def description : Tool → String
  | .engine .simplex =>
    "Maximise objective . x subject to rows (a_1, ..., a_n, b) meaning a . x <= b, " ++
      "with two-phase simplex."
  | .engine .ipm =>
    "Solve the LP with a predictor-corrector interior point method and return its iterates."
  | .engine .pdhg => "Solve the LP with PDHG (standard form, or inequality form with ineq=true)."
  | .engine .central =>
    "Trace the log-barrier central path; vertices, if given, seed the start at their centroid."
  | .any => "Run any engine by name: simplex, ipm, pdhg or central."

/-- The arguments that have to be given. -/
def needed : Tool → List String
  | .engine _ => ["lines", "objective"]
  | .any => ["solver", "lines", "objective"]

/-- The arguments that may be left out. -/
def extra : Tool → List String
  | .engine .central => ["options", "vertices"]
  | .engine _ => ["options"]
  | .any => ["options", "vertices"]

/-- The arguments are those that the tool takes. -/
def takes (tool : Tool) (arguments : List (String × Datum)) : Bool :=
  (tool.needed.all fun name => (Datum.field? name arguments).isSome) &&
    arguments.all fun entry => entry.1 ∈ tool.needed ++ tool.extra

/-- An argument, which counts as nothing when it is left out. -/
def argument (name : String) (arguments : List (String × Datum)) : Datum :=
  (Datum.field? name arguments).getD .null

/-- The fields of the request that a tool makes of its arguments. -/
def requestFields (solver options : Datum) (arguments : List (String × Datum)) :
    List (String × Datum) :=
  [("solver", solver), ("lines", argument "lines" arguments),
    ("objective", argument "objective" arguments), ("options", options),
    ("vertices", argument "vertices" arguments)]

/-- The options of an engine given to its tool. -/
def engineOptions (engine : Engine) : Datum → Validated EngineOptions
  | .null => .valid (EngineOptions.standard engine)
  | data => EngineOptions.read engine data

/-- Call the tool of one engine, with options that were read. -/
def callEngine (engine : Engine) (options : EngineOptions) (arguments : List (String × Datum))
    (elapsed : Float) : Except Refusal Answer :=
  answer (.object (requestFields (.text engine.name) (.object options.dump) arguments))
    Simplex.vertexLimit elapsed

/-- Call the tool for any engine.  Empty options count as none. -/
def callAny (arguments : List (String × Datum)) (elapsed : Float) : Except Refusal Answer :=
  let options := argument "options" arguments
  answer (.object (requestFields (argument "solver" arguments)
    (if options.truth then options else .object []) arguments)) Simplex.vertexLimit elapsed

/-- Call a tool.  The options of an engine are read before the arguments are counted. -/
def call (tool : Tool) (arguments : List (String × Datum)) (elapsed : Float) :
    Except Refusal Answer :=
  match tool with
  | .engine which =>
    match engineOptions which (argument "options" arguments) with
    | .invalid issues => .error (.invalid issues)
    | .valid options =>
      if tool.takes arguments then callEngine which options arguments elapsed
      else .error (.fault .argument)
  | .any =>
    if tool.takes arguments then callAny arguments elapsed else .error (.fault .argument)

end Tool

end PolyTrace
