import PolyTrace.Service.Session

/-!
# Single steps of the primal-dual method

The relative error of a state, the active rows and a run on a program can be asked for on arrays from
outside.  The error is also defined when the arrays have more dimensions than a program, as long as
the two objectives are single numbers.
-/

namespace PolyTrace.PrimalDual

/-- The relative residuals of the rows and of the columns, for arrays of any shape. -/
def residualErrors (form : Form) (A b c x y : Tensor Float) : Except Fault Float := do
  let rows ← (← A.product x).sub b
  match form with
  | .standard =>
    let columns ← (← A.transposed.product y).neg.sub c
    return relativeNorm rows.flat b.flat + relativeNorm columns.project.flat c.flat
  | .inequality =>
    return relativeNorm rows.project.flat b.flat + relativeNorm y.neg.project.flat c.flat

/-- The relative error of a state, for arrays of any shape. -/
def errorArray (form : Form) (A b c x y : Tensor Float) : Except Fault Float := do
  let residuals ← residualErrors form A b c x y
  let primal ← (← c.product x).number
  let dual ← (← b.product y).number
  return residuals + objectiveGap primal dual

/-- The relative error of a state. -/
def errorAt (form : Form) (A b c x y : Tensor Float) : Except Fault Float :=
  match checkDimensions A b c with
  | .error _ => errorArray form A b c x y
  | .ok sized =>
    match x.toVec? sized.columns, y.toVec? sized.rows with
    | some x, some y => .ok (relativeError form sized.program ⟨x, y⟩)
    | _, _ => errorArray form A b c x y

/-- The active rows, from the first to the last, and their colour. -/
def activeAt (y : Tensor Float) : List Nat × Nat :=
  let active := activeRows y.flat
  ((List.range y.entries.size).filter fun i => active.toArray.getD i false, phaseColour active)

/-- The number of variables that are shown, as data gives it: none, or a whole number. -/
def shownAt : Datum → Except Fault (Option Int)
  | .null => .ok none
  | .whole n => .ok (some n)
  | .flag value => .ok (some (if value then 1 else 0))
  | _ => .error .argument

/-- A call of the primal-dual method on a program given by arrays, of which `shown` variables are
shown in the standard form. -/
def formSession (form : Form) (options A b c shown : Datum) (elapsed : Float) :
    Except Fault Session :=
  match EngineOptions.resolve .pdhg options with
  | .error cause => .ok (.refused cause)
  | .ok (.pdhg options) => do
    let A ← A.tensor
    let b ← b.tensor
    let c ← c.tensor
    match checkDimensions A b c with
    | .error cause => return .refused (.mismatch cause)
    | .ok sized =>
      match form with
      | .standard => standardSession options elapsed sized.program (shownAt shown)
      | .inequality => programSession .inequality options elapsed sized.program id
  | .ok _ => .error .argument

end PolyTrace.PrimalDual
