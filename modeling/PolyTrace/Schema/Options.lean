import PolyTrace.Engine.CentralPath.Trace
import PolyTrace.Engine.InteriorPoint
import PolyTrace.Engine.PrimalDual
import PolyTrace.Engine.Simplex.Pivot
import PolyTrace.Schema.Rule

/-!
# The options of the engines

For each engine the settings can be read from data and written back as data.  A setting that is left
out has its default, an unknown one is ignored, and three settings have a second name.  The settings
of one engine may be handed to another: what they have in common is taken over.

What `dump` writes is read back unchanged when the settings satisfy the bounds that reading checks.
-/

namespace PolyTrace

/-- The engines. -/
inductive Engine where
  | simplex
  | ipm
  | pdhg
  | central
deriving DecidableEq, Inhabited

namespace Engine

/-- Every engine. -/
def all : List Engine :=
  [simplex, ipm, pdhg, central]

/-- The name of an engine. -/
def name : Engine → String
  | simplex => "simplex"
  | ipm => "ipm"
  | pdhg => "pdhg"
  | central => "central"

/-- The engine of the given name. -/
def ofName? (text : String) : Option Engine :=
  all.find? fun engine => engine.name = text

/-- The name of an engine in messages. -/
def label : Engine → String
  | simplex => "Simplex"
  | ipm => "Interior Point Method"
  | pdhg => "PDHG"
  | central => "Central Path"

/-- The name of the schema of an engine's options. -/
def optionsName : Engine → String
  | simplex => "SimplexOptions"
  | ipm => "IPMOptions"
  | pdhg => "PDHGOptions"
  | central => "CentralPathOptions"

/-- The name of the schema of an engine's reports. -/
def reportName : Engine → String
  | simplex => "SimplexResult"
  | ipm => "IPMResult"
  | pdhg => "PDHGResult"
  | central => "CentralPathResult"

end Engine

/-- The largest number of iterations that may be asked for. -/
def iterationLimit : Nat := twoPow 16

/-- The largest number of barrier levels that may be asked for. -/
def levelLimit : Nat := twoPow 10

/-- The rule of a positive number. -/
def Rule.positiveNumber (data : Datum) : Validated Float :=
  (Validated.ofExcept (Rule.number data)).andThen Rule.positive

/-- The rule of a number of iterations. -/
def Rule.iterations (data : Datum) : Validated Nat :=
  (Validated.ofExcept (Rule.whole data)).andThen (Rule.between 1 iterationLimit)

/-- The rule of a flag. -/
def Rule.yesNo (data : Datum) : Validated Bool :=
  .ofExcept (Rule.flag data)

namespace Simplex.Options

/-- The settings when nothing is asked for. -/
def standard : Options Float :=
  { tol := Scalar.unitAt 5 }

/-- The pivot rules by their words. -/
def rules : List (String × PivotRule) :=
  [PivotRule.dantzig, PivotRule.bland].map fun rule => (rule.word, rule)

/-- Read the settings from the fields of an object. -/
def read (fields : List (String × Datum)) : Validated (Options Float) :=
  Options.mk
    <$> Rule.field ["verbose"] standard.verbose Rule.yesNo fields
    <*> Rule.field ["tol"] standard.tol Rule.positiveNumber fields
    <*> Rule.field ["pivotRule", "pivot_rule"] standard.rule
      (fun data => .ofExcept (Rule.choice rules data)) fields

/-- The settings as the fields of an object. -/
def dump (options : Options Float) : List (String × Datum) :=
  [("verbose", .flag options.verbose), ("tol", .number options.tol),
    ("pivot_rule", .text options.rule.word)]

end Simplex.Options

namespace InteriorPoint.Options

/-- The settings when nothing is asked for. -/
def standard : Options Float :=
  { epsP := Scalar.unitAt 6
    epsD := Scalar.unitAt 6
    epsOpt := Scalar.unitAt 6
    maxit := 30
    alphaMax := Binary64.ofRat (mkRat 999 1000) }

/-- Read the settings from the fields of an object. -/
def read (fields : List (String × Datum)) : Validated (Options Float) :=
  Options.mk
    <$> Rule.field ["verbose"] standard.verbose Rule.yesNo fields
    <*> Rule.field ["eps_p"] standard.epsP Rule.positiveNumber fields
    <*> Rule.field ["eps_d"] standard.epsD Rule.positiveNumber fields
    <*> Rule.field ["eps_opt"] standard.epsOpt Rule.positiveNumber fields
    <*> Rule.field ["maxit"] standard.maxit Rule.iterations fields
    <*> Rule.field ["alphaMax", "alpha_max"] standard.alphaMax
      (fun data => (Validated.ofExcept (Rule.number data)).andThen Rule.share) fields

/-- The settings as the fields of an object. -/
def dump (options : Options Float) : List (String × Datum) :=
  [("verbose", .flag options.verbose), ("eps_p", .number options.epsP),
    ("eps_d", .number options.epsD), ("eps_opt", .number options.epsOpt),
    ("maxit", .whole options.maxit), ("alpha_max", .number options.alphaMax)]

end InteriorPoint.Options

namespace PrimalDual.Options

/-- The settings when nothing is asked for. -/
def standard : Options Float :=
  { maxit := 1000
    eta := Binary64.ofRat (mkRat 1 4)
    tau := Binary64.ofRat (mkRat 1 4)
    tol := Scalar.unitAt 4 }

/-- Read the settings from the fields of an object. -/
def read (fields : List (String × Datum)) : Validated (Options Float) :=
  Options.mk
    <$> Rule.field ["verbose"] standard.verbose Rule.yesNo fields
    <*> Rule.field ["ineq"] standard.ineq Rule.yesNo fields
    <*> Rule.field ["maxit"] standard.maxit Rule.iterations fields
    <*> Rule.field ["eta"] standard.eta Rule.positiveNumber fields
    <*> Rule.field ["tau"] standard.tau Rule.positiveNumber fields
    <*> Rule.field ["tol"] standard.tol Rule.positiveNumber fields
    <*> Rule.field ["showBasis", "show_basis"] standard.showBasis Rule.yesNo fields

/-- The settings as the fields of an object. -/
def dump (options : Options Float) : List (String × Datum) :=
  [("verbose", .flag options.verbose), ("ineq", .flag options.ineq),
    ("maxit", .whole options.maxit), ("eta", .number options.eta), ("tau", .number options.tau),
    ("tol", .number options.tol), ("show_basis", .flag options.showBasis)]

end PrimalDual.Options

namespace CentralPath.Options

/-- The settings when nothing is asked for. -/
def standard : Options Float :=
  { niter := 100
    maxit := 2000
    epsilon := Scalar.unitAt 4 }

/-- Read the settings from the fields of an object. -/
def read (fields : List (String × Datum)) : Validated (Options Float) :=
  Options.mk
    <$> Rule.field ["verbose"] standard.verbose Rule.yesNo fields
    <*> Rule.field ["niter"] standard.niter
      (fun data => (Validated.ofExcept (Rule.whole data)).andThen (Rule.between 0 levelLimit))
      fields
    <*> Rule.field ["weights"] standard.weights (Rule.optional Rule.numbers) fields
    <*> Rule.field ["maxit"] standard.maxit Rule.iterations fields
    <*> Rule.field ["epsilon"] standard.epsilon Rule.positiveNumber fields

/-- The settings as the fields of an object. -/
def dump (options : Options Float) : List (String × Datum) :=
  [("verbose", .flag options.verbose), ("niter", .whole options.niter),
    ("weights", (options.weights.map Datum.ofNumbers).getD .null),
    ("maxit", .whole options.maxit), ("epsilon", .number options.epsilon)]

end CentralPath.Options

/-- The settings of some engine. -/
inductive EngineOptions where
  | simplex (options : Simplex.Options Float)
  | ipm (options : InteriorPoint.Options Float)
  | pdhg (options : PrimalDual.Options Float)
  | central (options : CentralPath.Options Float)

namespace EngineOptions

/-- The engine the settings are for. -/
def engine : EngineOptions → Engine
  | simplex _ => .simplex
  | ipm _ => .ipm
  | pdhg _ => .pdhg
  | central _ => .central

/-- The settings of an engine when nothing is asked for. -/
def standard : Engine → EngineOptions
  | .simplex => simplex Simplex.Options.standard
  | .ipm => ipm InteriorPoint.Options.standard
  | .pdhg => pdhg PrimalDual.Options.standard
  | .central => central CentralPath.Options.standard

/-- Read the settings of an engine from the fields of an object. -/
def readFields (engine : Engine) (fields : List (String × Datum)) : Validated EngineOptions :=
  match engine with
  | .simplex => simplex <$> Simplex.Options.read fields
  | .ipm => ipm <$> InteriorPoint.Options.read fields
  | .pdhg => pdhg <$> PrimalDual.Options.read fields
  | .central => central <$> CentralPath.Options.read fields

/-- Read the settings of an engine from data. -/
def read (engine : Engine) : Datum → Validated EngineOptions :=
  Rule.object engine.optionsName (readFields engine)

/-- The settings as the fields of an object. -/
def dump : EngineOptions → List (String × Datum)
  | simplex options => options.dump
  | ipm options => options.dump
  | pdhg options => options.dump
  | central options => options.dump

/-- The failure of settings that were refused. -/
def refusal (engine : Engine) (issues : List Issue) : Failure Float :=
  .badOptions ("Invalid " ++ engine.optionsName ++ ": " ++ Issue.summary engine.optionsName issues)

/-- The settings that data asks for; with nothing at all, the defaults. -/
def resolve (engine : Engine) (data : Datum) : Except (Failure Float) EngineOptions :=
  match data with
  | .null => .ok (standard engine)
  | data =>
    match read engine data with
    | .valid options => .ok options
    | .invalid issues => .error (refusal engine issues)

/-- The settings of an engine taken over from settings that were read before. -/
def convert (engine : Engine) (given : EngineOptions) : Except (Failure Float) EngineOptions :=
  if given.engine = engine then .ok given else resolve engine (.object given.dump)

end EngineOptions

end PolyTrace
