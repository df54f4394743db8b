import PolyTrace.Service.Session

/-!
# Single steps of the central path

The barrier, the two line searches and Newton's method at one level can be asked for one at a time,
on arrays from outside.  Where the arrays are those of a problem and a point of it, the step is the
one that the engine takes; otherwise it is the step over a stack of problems.
-/

namespace PolyTrace

/-- The centre of the largest ball in the region of some rows. -/
def Lines.centre (lines : Lines) : Except (Trouble Float) (List Float) := do
  let (A, b) ← lines.arrays
  let sized ← Trouble.ofFault A.matrix
  match b.toVec? sized.rows with
  | some bounds => return (← Chebyshev.centre sized.matrix bounds).toList
  | none => throw (.fault .shapes)

namespace CentralPath

/-- A problem with weights, together with its sizes. -/
structure SizedWeighted where
  rows : Nat
  unknowns : Nat
  problem : Weighted Float rows unknowns

/-- The arrays of a problem with weights, without its rows of weight zero, and the problem itself
when they have no further dimensions. -/
structure LoadedWeighted where
  stacked : StackedProblem Float
  flat? : Option SizedWeighted

/-- A problem with weights and a point of its space. -/
structure Placed extends SizedWeighted where
  x : Vec Float unknowns

namespace LoadedWeighted

/-- The problem of some arrays with the given weights. -/
def weigh (arrays : ProblemArrays) (weights : Option (List Float)) :
    Except (Trouble Float) LoadedWeighted := do
  let (A, b, w) ← filterWeighted arrays.A arrays.b weights
  let flat? : Option SizedWeighted :=
    match arrays.problem? with
    | none => none
    | some sized =>
      match weightVector sized.rows weights with
      | .error _ => none
      | .ok w =>
        let weighted : Weighted Float sized.rows sized.unknowns := ⟨sized.problem, w⟩
        some ⟨_, sized.unknowns, weighted.reduced⟩
  return ⟨⟨A, b, arrays.c, w⟩, flat?⟩

/-- The problem and a point, if the point lies in the space of the problem. -/
def placed? (loaded : LoadedWeighted) (x : Tensor Float) : Option Placed :=
  match loaded.flat? with
  | none => none
  | some sized => (x.toVec? sized.unknowns).map fun x => ⟨sized, x⟩

end LoadedWeighted

/-- The barrier objective at a point. -/
def barrierAt (loaded : LoadedWeighted) (mu : Float) (x : Tensor Float) : Except Fault Float :=
  match loaded.placed? x with
  | some here => .ok (barrier here.problem mu here.x).toFloat
  | none => (loaded.stacked.barrier mu x).map BarrierValue.toFloat

/-- The number of parts of an array. -/
def lengthOf (x : Tensor Float) : Except Fault Nat :=
  match x.shape with
  | [] => .error .notAList
  | length :: _ => .ok length

/-- The share of a step that stays inside the region. -/
def domainStepAt (loaded : LoadedWeighted) (x d : Tensor Float) : Except (Trouble Float) Float :=
  match loaded.placed? x with
  | none => loaded.stacked.domainShare x d domainHalvings 1
  | some here =>
    match d.toVec? here.unknowns with
    | some step => domainStep here.problem.toProblem here.x step
    | none => loaded.stacked.domainShare x d domainHalvings 1

/-- The share of a step that gains enough, from the share `alpha` on. -/
def armijoStepAt (loaded : LoadedWeighted) (mu : Float) (x d g : Tensor Float) (alpha : Float) :
    Except Fault Float :=
  match loaded.placed? x with
  | none => loaded.stacked.armijoStep mu x d g alpha
  | some here =>
    match d.toVec? here.unknowns, g.toVec? here.unknowns with
    | some step, some slope => .ok (armijoStep here.problem mu here.x step slope alpha)
    | _, _ => loaded.stacked.armijoStep mu x d g alpha

/-- The settings that data asks for. -/
def optionsAt (data : Datum) : Except (Failure Float) (Options Float) :=
  match EngineOptions.resolve .central data with
  | .ok (.central options) => .ok options
  | .ok _ => .ok Options.standard
  | .error cause => .error cause

/-- Newton's method at one level: the last point, and whether it converged. -/
def newtonAt (options : Options Float) (loaded : LoadedWeighted) (mu : Float) (x : Tensor Float) :
    Except (Trouble Float) (List Float × Bool) :=
  match loaded.placed? x with
  | some here => do
    match ← Trouble.ofFault (newton here.problem options.epsilon mu options.maxit here.x) with
    | .converged x => return (x.toList, true)
    | .exhausted x => return (x.toList, false)
    | .failed cause => throw (.failure cause)
  | none => do
    loaded.stacked.stationary options.epsilon mu x
    if x.rank = 1 then return (x.entries.toList, true) else throw (.fault .noNumericValue)

/-- The barrier levels for a count given as data.  A count that is no whole number has levels only
when it is not positive or one. -/
def scheduleAt (count : Datum) : Except Fault (List Float) :=
  match count with
  | .whole n => .ok (schedule n.toNat)
  | .flag value => .ok (schedule (if value then 1 else 0))
  | .number value =>
    if value ≤ 0 then .ok [] else if value == 1 then .ok (schedule 1) else .error .argument
  | _ => .error .argument

end CentralPath

end PolyTrace
