import PolyTrace.Problem.Basic

/-!
# The logarithmic barrier

Each row of a problem carries a weight.  At the level `mu` the barrier adds `mu * w · log r` to the
objective, where `r` lists the slacks of the rows; a point with a slack that is not positive lies
outside, and every point inside is better than it.

The gradient and the curvature of the barrier objective are written out, so that Newton's method
needs nothing else.
-/

namespace PolyTrace.CentralPath

/-- A problem whose rows carry weights. -/
structure Weighted (K : Type) (m n : Nat) extends Problem K m n where
  w : Vec K m

/-- The value of the barrier objective. -/
inductive BarrierValue (K : Type) where
  | outside
  | inside (value : K)
deriving DecidableEq

section Derivatives

variable {K : Type} [Scalar K] {m n : Nat}

/-- Every row with the weight one. -/
def Weighted.uniform (problem : Problem K m n) : Weighted K m n :=
  ⟨problem, Vec.ones m⟩

/-- The rows whose weight is not zero. -/
def keptRows (w : Vec K m) : List (Fin m) :=
  (List.finRange m).filter fun (i : Fin m) => decide (¬ Scalar.Same (w i) 0)

/-- A weighted problem without its rows of weight zero. -/
def Weighted.reduced (problem : Weighted K m n) :
    Weighted K (keptRows problem.w).length n where
  A := Vector.ofFn fun i => problem.A ((keptRows problem.w).get i)
  b := Vector.ofFn fun i => problem.b ((keptRows problem.w).get i)
  c := problem.c
  w := Vector.ofFn fun i => problem.w ((keptRows problem.w).get i)

/-- The slacks of the rows at a point. -/
def slacks (problem : Problem K m n) (x : Vec K n) : Vec K m :=
  problem.b.sub (problem.A.mulVec x)

/-- The gradient of the barrier objective. -/
def gradient (problem : Weighted K m n) (mu : K) (x : Vec K n) : Vec K n :=
  let r := slacks problem.toProblem x
  problem.c.sub ((problem.A.transposeMulVec (problem.w.div r)).scale mu)

/-- The curvature of the barrier objective, with its sign changed. -/
def curvature (problem : Weighted K m n) (mu : K) (x : Vec K n) : Mat K n n :=
  let r := slacks problem.toProblem x
  let scaled := problem.A.scaleRows (problem.w.div (r.mul r))
  (problem.A.transposeMul scaled).map (Vec.scale mu)

end Derivatives

/-- The barrier objective at the level `mu`. -/
def barrier {K : Type} [Analytic K] {m n : Nat} (problem : Weighted K m n) (mu : K)
    (x : Vec K n) : BarrierValue K :=
  let r := slacks problem.toProblem x
  if r.any fun slack => decide (slack ≤ 0) then .outside
  else .inside (problem.c.dot x + mu * problem.w.dot (r.map Analytic.log))

end PolyTrace.CentralPath
