import PolyTrace.Data.LinearSystem
import PolyTrace.Service.Session

/-!
# Single steps of the interior point method

The step at a point can be asked for on arrays from outside.  The system is set up and factored
before the residuals are looked at.  With one row, the slacks and the multipliers may also be
matrices, whose diagonals then fill the last row of the system; such a step has no answer, and what
keeps it from one is found in the order in which the step is worked out.
-/

namespace PolyTrace.InteriorPoint

/-- The entries that an array adds to the last row of a system of one row. -/
def diagonalRow (t : Tensor Float) : Except Fault (List Float) :=
  match t.shape with
  | [1] => .ok t.entries.toList
  | [p, q] => .ok ((List.range (min p q)).map fun i => t.entries.getD (i * q + i) 0)
  | _ => .error .shapes

/-- The system of one row whose last row is filled by the given arrays. -/
def singleRowSystem {n : Nat} (A : Mat Float 1 n) (s y : Tensor Float) :
    Except (Trouble Float) (LinearSystem Float) := do
  let multipliers ← Trouble.ofFault (diagonalRow y)
  let slacks ← Trouble.ofFault (diagonalRow s)
  match multipliers ++ slacks with
  | [first, second] =>
    let factors ← Trouble.ofFailure (factorize (system A #v[second] #v[first]))
    return ⟨_, factors⟩
  | _ => throw (.fault .shapes)

/-- The right-hand side of the system: the residuals and the products, one after the other. -/
def rightSideArray (s y rowResidual columnResidual : Tensor Float) : Except Fault (Tensor Float) := do
  let products ← s.neg.mul y
  (← rowResidual.append columnResidual).append products

/-- What keeps the step of a system of one row from an answer when the slacks or the multipliers are
matrices. -/
def singleRowTrouble {n : Nat} (A : Mat Float 1 n) (s y rowResidual columnResidual : Tensor Float)
    (mu : Float) : Except (Trouble Float) Fault := do
  let linear ← singleRowSystem A s y
  let rightSide ← Trouble.ofFault (rightSideArray s y rowResidual columnResidual)
  let full ← linear.solveArray false rightSide
  let slackStep := full.rows n (n + 1)
  let multiplierStep := full.rows (n + 1) (n + 1 + 1)
  let alphaP ← Trouble.ofFault (maxStepArray s slackStep)
  let alphaD ← Trouble.ofFault (maxStepArray y multiplierStep)
  if correctorThreshold ≤ alphaP ∧ correctorThreshold ≤ alphaD then return .noNumericValue
  let slacks ← Trouble.ofFault (s.add (slackStep.scale alphaP))
  let multipliers ← Trouble.ofFault (y.add (multiplierStep.scale alphaD))
  let affine ← Trouble.ofFault (do (← slacks.product multipliers).number)
  let _ ← Trouble.ofFault (centreWeight affine mu)
  return .shapes

/-- The step at a point with the given residuals, which are taken one after the other. -/
def directionAt (A s y rowResidual columnResidual : Tensor Float) (mu : Float) :
    Except (Trouble Float) (List Float × List Float × List Float) := do
  let sized ← Trouble.ofFault A.matrix
  match s.toVec? sized.rows, y.toVec? sized.rows with
  | some slacks, some multipliers =>
    let _ ← Trouble.ofFailure (factorize (system sized.matrix slacks multipliers))
    let rightSide ← Trouble.ofFault (rightSideArray s y rowResidual columnResidual)
    let size := sized.columns + sized.rows + sized.rows
    if rightSide.size = size then
      let d ← direction sized.matrix slacks multipliers
        (Tensor.segment rightSide.entries 0 sized.rows)
        (Tensor.segment rightSide.entries sized.rows sized.columns) mu
      return (d.x.toList, d.s.toList, d.y.toList)
    else throw (.ofMismatch (.rightHandSide rightSide.size size))
  | _, _ =>
    match sized with
    | ⟨1, _, A⟩ => throw (.fault (← singleRowTrouble A s y rowResidual columnResidual mu))
    | _ => throw (.fault .shapes)

end PolyTrace.InteriorPoint
