import PolyTrace.Engine.CentralPath.Barrier
import PolyTrace.Linear.Factorize

/-!
# Newton's method inside the region

One barrier level is solved by Newton's method.  The step is first halved until it stays inside the
region with a little room, and then until the barrier objective gains enough; when it never does,
the step that stays inside is taken.  The method has converged when every coordinate of the gradient
is smaller than the tolerance.
-/

namespace PolyTrace.CentralPath

/-- How often a step that leaves the region is halved. -/
def domainHalvings : Nat := 100

/-- How often a step that gains too little can be halved, at the very most. -/
def gainHalvings : Nat := 1100

section Steps

variable {K : Type} [Scalar K] {m n : Nat}

/-- The room that a step leaves to every row. -/
def leastSlack : K :=
  Scalar.unitAt 12

/-- Steps below this share of the Newton step are not looked at. -/
def leastStep : K :=
  Scalar.unitAt 10

/-- The part of the gain predicted by the slope that a step has to reach. -/
def gainPart : K :=
  Scalar.ofRat (mkRat 1 100)

/-- Half of a share. -/
def half (alpha : K) : K :=
  alpha * Scalar.ofRat (mkRat 1 2)

/-- The smallest slack at a point. -/
def smallestSlack (problem : Problem K m n) (x : Vec K n) : Except Fault K :=
  match (slacks problem x).smallest? with
  | some slack => .ok slack
  | none => .error .emptyExtremum

/-- Halve a share at most `fuel` times until the step stays inside the region. -/
def domainShare (problem : Problem K m n) (x d : Vec K n) :
    (fuel : Nat) → K → Except (Trouble K) K
  | 0, _ => .error (.failure (.leftInterior domainHalvings))
  | fuel + 1, alpha => do
    let slack ← Trouble.ofFault (smallestSlack problem (x.along alpha d))
    if leastSlack < slack then return alpha
    domainShare problem x d fuel (half alpha)

/-- The first share of the step among `1`, `1/2`, `1/4`, … that stays inside the region. -/
def domainStep (problem : Problem K m n) (x d : Vec K n) : Except (Trouble K) K :=
  domainShare problem x d domainHalvings 1

/-- The value `next` exceeds the value `last` by at least `gain`.  A gain without a finite value
above it is reached from outside only if it can be compared at all. -/
def gains (gain : K) (last next : BarrierValue K) : Bool :=
  match last, next with
  | .inside old, .inside new => decide (old + gain ≤ new)
  | .inside old, .outside => decide (Scalar.BelowAll (old + gain))
  | .outside, .inside new =>
    decide ((Scalar.Finite gain ∨ gain < 0) ∧ ¬ Scalar.Undefined new)
  | .outside, .outside => decide (Scalar.Finite gain ∨ gain < 0)

end Steps

variable {K : Type} [Analytic K] {m n : Nat}

/-- Halve a share at most `fuel` times until the step gains enough; nothing if it never does. -/
def gainShare? (problem : Weighted K m n) (mu : K) (x d : Vec K n) (slope : K) :
    (fuel : Nat) → K → Option K
  | 0, _ => none
  | fuel + 1, alpha =>
    if leastStep ≤ alpha then
      if gains (gainPart * alpha * slope) (barrier problem mu x) (barrier problem mu (x.along alpha d))
      then some alpha
      else gainShare? problem mu x d slope fuel (half alpha)
    else none

/-- The share of the step that gains enough, or the share `alpha` itself if no smaller one does. -/
def armijoStep (problem : Weighted K m n) (mu : K) (x d g : Vec K n) (alpha : K) : K :=
  (gainShare? problem mu x d (g.dot d) gainHalvings alpha).getD alpha

/-- The gradient is smaller than the tolerance in every coordinate. -/
def isStationary (epsilon : K) (g : Vec K n) : Except Fault Bool :=
  match g.largestAbs? with
  | some value => .ok (decide (value < epsilon))
  | none => .error .emptyExtremum

/-- The next point of Newton's method. -/
def newtonNext (problem : Weighted K m n) (mu : K) (x g : Vec K n) :
    Except (Trouble K) (Vec K n) := do
  let factors ← Trouble.ofFailure (factorize (curvature problem mu x))
  let d := factors.solve g
  let alpha ← domainStep problem.toProblem x d
  return x.along (armijoStep problem mu x d g alpha) d

/-- How Newton's method ended at one level. -/
inductive Inner (K : Type) (n : Nat) where
  | converged (x : Vec K n)
  | exhausted (x : Vec K n)
  | failed (cause : Failure K)

/-- Newton's method at the level `mu` with at most `fuel` steps. -/
def newton (problem : Weighted K m n) (epsilon mu : K) :
    (fuel : Nat) → Vec K n → Except Fault (Inner K n)
  | fuel, x => do
    let g := gradient problem mu x
    if ← isStationary epsilon g then return .converged x
    match fuel with
    | 0 => return .exhausted x
    | fuel + 1 =>
      match newtonNext problem mu x g with
      | .error (.failure cause) => return .failed cause
      | .error (.fault cause) => throw cause
      | .ok next => newton problem epsilon mu fuel next

end PolyTrace.CentralPath
