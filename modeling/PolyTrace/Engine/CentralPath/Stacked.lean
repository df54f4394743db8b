import PolyTrace.Data.TensorAlgebra
import PolyTrace.Engine.CentralPath.Trace

/-!
# The barrier over arrays

Arrays with more dimensions than a problem has are a stack of problems, whose slacks are formed all
at once.  The barrier of a stack is outside as soon as one slack is not positive; only a barrier that
is a single number has a value inside.  Newton's method stops where the gradient of the whole stack is
small enough, and has no next step, because the curvature of a stack is no square matrix.
-/

namespace PolyTrace.CentralPath

/-- The coefficients, bounds, objective and weights of a stack of problems. -/
structure StackedProblem (K : Type) where
  A : Tensor K
  b : Tensor K
  c : Tensor K
  w : Tensor K

namespace StackedProblem

section Steps

variable {K : Type} [Scalar K]

/-- The slacks at a point. -/
def slacks (problem : StackedProblem K) (x : Tensor K) : Except Fault (Tensor K) := do
  problem.b.sub (← problem.A.product x)

/-- The gradient of the barrier objective, from the slacks. -/
def gradient (problem : StackedProblem K) (mu : K) (r : Tensor K) : Except Fault (Tensor K) := do
  let pull ← problem.A.transposed.product (← problem.w.div r)
  problem.c.sub (pull.scale mu)

/-- The curvature of the barrier objective, from the slacks. -/
def curvature (problem : StackedProblem K) (mu : K) (r : Tensor K) : Except Fault (Tensor K) := do
  let weights ← (← problem.w.div (r.map fun a => a * a)).secondAxis
  let scaled ← weights.mul problem.A
  return (← problem.A.transposed.product scaled).scale mu

/-- Newton's method at the level `mu`: it stays at a point where the gradient is small enough. -/
def stationary (problem : StackedProblem K) (epsilon mu : K) (x : Tensor K) :
    Except (Trouble K) Unit := do
  let r ← Trouble.ofFault (problem.slacks x)
  let g ← Trouble.ofFault (problem.gradient mu r)
  let largest ← Trouble.ofFault g.largestAbs
  if largest < epsilon then return ()
  let H ← Trouble.ofFault (problem.curvature mu r)
  throw (.ofMismatch (.notSquare H.shape))

/-- Halve a share at most `fuel` times until the step stays inside the region. -/
def domainShare (problem : StackedProblem K) (x d : Tensor K) :
    (fuel : Nat) → K → Except (Trouble K) K
  | 0, _ => .error (.failure (.leftInterior domainHalvings))
  | fuel + 1, alpha => do
    let r ← Trouble.ofFault (do problem.slacks (← x.add (d.scale alpha)))
    let slack ← Trouble.ofFault r.smallest
    if leastSlack < slack then return alpha
    problem.domainShare x d fuel (half alpha)

end Steps

variable {K : Type} [Analytic K]

/-- The barrier objective at the level `mu`. -/
def barrier (problem : StackedProblem K) (mu : K) (x : Tensor K) :
    Except Fault (BarrierValue K) := do
  let r ← problem.slacks x
  if r.entries.any fun slack => decide (slack ≤ 0) then return .outside
  let linear ← problem.c.product x
  let logarithms ← problem.w.product (r.map Analytic.log)
  return .inside (← (← linear.add (logarithms.scale mu)).number)

/-- Halve a share at most `fuel` times until the step gains enough over the value `last`; nothing if
it never does. -/
def gainShare? (problem : StackedProblem K) (mu : K) (x d : Tensor K) (slope : K)
    (last : BarrierValue K) : (fuel : Nat) → K → Except Fault (Option K)
  | 0, _ => .ok none
  | fuel + 1, alpha =>
    if leastStep ≤ alpha then do
      let next ← problem.barrier mu (← x.add (d.scale alpha))
      if gains (gainPart * alpha * slope) last next then return some alpha
      problem.gainShare? mu x d slope last fuel (half alpha)
    else .ok none

/-- The share of the step that gains enough, or the share `alpha` itself if no smaller one does. -/
def armijoStep (problem : StackedProblem K) (mu : K) (x d g : Tensor K) (alpha : K) :
    Except Fault K := do
  let last ← problem.barrier mu x
  let slope ← (← g.product d).number
  return (← problem.gainShare? mu x d slope last gainHalvings alpha).getD alpha

/-- The path of a stack from the point `x`, at which every level stays. -/
def trace {n : Nat} (options : Options K) (problem : StackedProblem K) (x : Vec K n) :
    Except (Trouble K) (Path K n) := do
  let tried := schedule options.niter
  let levels ← tried.mapM fun mu => do
    problem.stationary options.epsilon mu (.ofVec x)
    let value ← Trouble.ofFault (problem.barrier mu (.ofVec x))
    let objective ← Trouble.ofFault (do (← problem.c.product (.ofVec x)).number)
    return Level.kept mu x value objective
  return ⟨tried, levels⟩

end StackedProblem

end PolyTrace.CentralPath
