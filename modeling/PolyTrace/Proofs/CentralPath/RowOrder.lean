import Mathlib
import PolyTrace.Proofs.CentralPath.Suboptimality
import PolyTrace.Proofs.Problem.Reorder
import PolyTrace.Service.Session

/-!
# The central path in another order

The gradient, the curvature and the value of the barrier are sums over the rows, and a point is
inside when all slacks are positive.  Over the real numbers nothing that Newton's method looks at
depends on the order of the rows, so that the path of a reordered problem is the same path.

Rows of weight zero are left out first.  What is left of a reordered problem is what is left of the
problem, in another order, so that a whole call from given vertices has the same answer too.
-/

namespace PolyTrace

namespace Mat

variable {K : Type} [ExactScalar K] {k m n p : Nat} (e : Fin k ≃ Fin m)

theorem transposeMulVec_rows (A : Mat K m n) (y : Vec K m) :
    transposeMulVec (Vec.reorder e A) (Vec.reorder e y) = A.transposeMulVec y := by
  rw [← reorder_refl, transposeMulVec_reorder, Vec.reorder_refl]

theorem scaleRows_rows (d : Vec K m) (A : Mat K m n) :
    scaleRows (Vec.reorder e d) (Vec.reorder e A) = Vec.reorder e (scaleRows d A) :=
  (Vec.reorder_zipWith e _ d A).symm

/-- The product with a matrix does not depend on the order of the rows that are summed over. -/
theorem transposeMul_rows (A : Mat K m n) (B : Mat K m p) :
    transposeMul (Vec.reorder e A) (Vec.reorder e B) = A.transposeMul B :=
  ext_get fun i j => by
    simp only [transposeMul, get_ofFn, Vec.get_reorder]
    exact Vec.sum_reorder e fun l => (A.get l).get i * (B.get l).get j

end Mat

namespace CentralPath

/-! ## The barrier -/

section Barrier

variable {K : Type} {k m n : Nat}

/-- The problem with its rows and their weights reordered. -/
def Weighted.reorder (e : Fin k ≃ Fin m) (problem : Weighted K m n) : Weighted K k n where
  toProblem := problem.toProblem.reorder e
  w := Vec.reorder e problem.w

variable [ExactScalar K] (e : Fin k ≃ Fin m) (problem : Weighted K m n)

theorem slacks_reorder (problem : Problem K m n) (x : Vec K n) :
    slacks (problem.reorder e) x = Vec.reorder e (slacks problem x) := by
  unfold slacks Problem.reorder Mat.mulVec
  rw [Vec.reorder_sub, Vec.reorder_map]

theorem gradient_reorder (mu : K) (x : Vec K n) :
    gradient (problem.reorder e) mu x = gradient problem mu x := by
  unfold gradient
  dsimp only [Weighted.reorder]
  rw [slacks_reorder, ← Vec.reorder_div]
  exact congrArg (fun u => problem.c.sub (Vec.scale mu u)) (Mat.transposeMulVec_rows e problem.A _)

theorem curvature_reorder (mu : K) (x : Vec K n) :
    curvature (problem.reorder e) mu x = curvature problem mu x := by
  unfold curvature
  dsimp only [Weighted.reorder]
  rw [slacks_reorder, ← Vec.reorder_mul, ← Vec.reorder_div]
  dsimp only [Problem.reorder]
  rw [Mat.scaleRows_rows, Mat.transposeMul_rows]

theorem smallestSlack_reorder (problem : Problem K m n) (x : Vec K n) :
    smallestSlack (problem.reorder e) x = smallestSlack problem x := by
  unfold smallestSlack
  rw [slacks_reorder, Vec.smallest?_reorder]

/-- The first share of a step that stays inside is the same. -/
theorem domainShare_reorder (problem : Problem K m n) (x d : Vec K n) (fuel : Nat) (alpha : K) :
    domainShare (problem.reorder e) x d fuel alpha = domainShare problem x d fuel alpha := by
  induction fuel generalizing alpha with
  | zero => rfl
  | succ fuel inductionHypothesis =>
      unfold domainShare
      rw [smallestSlack_reorder]
      simp only [inductionHypothesis]

end Barrier

/-! ## Newton's method -/

section Newton

variable {k m n : Nat} (e : Fin k ≃ Fin m) (problem : Weighted ℝ m n)

theorem barrier_reorder (mu : ℝ) (x : Vec ℝ n) :
    barrier (problem.reorder e) mu x = barrier problem mu x := by
  unfold barrier
  dsimp only [Weighted.reorder]
  rw [slacks_reorder, Vec.any_reorder, ← Vec.reorder_map, Vec.dot_reorder]
  rfl

/-- The first share of a step that gains enough is the same. -/
theorem gainShare?_reorder (mu : ℝ) (x d : Vec ℝ n) (slope : ℝ) (fuel : Nat) (alpha : ℝ) :
    gainShare? (problem.reorder e) mu x d slope fuel alpha =
      gainShare? problem mu x d slope fuel alpha := by
  induction fuel generalizing alpha with
  | zero => rfl
  | succ fuel inductionHypothesis =>
      unfold gainShare?
      simp only [barrier_reorder, inductionHypothesis]

theorem newtonNext_reorder (mu : ℝ) (x g : Vec ℝ n) :
    newtonNext (problem.reorder e) mu x g = newtonNext problem mu x g := by
  have inside : ∀ d, domainStep (problem.reorder e).toProblem x d =
      domainStep problem.toProblem x d :=
    fun d => domainShare_reorder e problem.toProblem x d domainHalvings 1
  unfold newtonNext armijoStep
  simp only [curvature_reorder, inside, gainShare?_reorder]

theorem newton_reorder (epsilon mu : ℝ) (fuel : Nat) (x : Vec ℝ n) :
    newton (problem.reorder e) epsilon mu fuel x = newton problem epsilon mu fuel x := by
  induction fuel generalizing x with
  | zero =>
      unfold newton
      simp only [gradient_reorder]
  | succ fuel inductionHypothesis =>
      unfold newton
      simp only [gradient_reorder, newtonNext_reorder, inductionHypothesis]

theorem levels_reorder (options : Options ℝ) (tried : List ℝ) (x : Vec ℝ n) :
    levels options (problem.reorder e) tried x = levels options problem tried x := by
  induction tried generalizing x with
  | nil => rfl
  | cons mu rest inductionHypothesis =>
      unfold levels
      simp only [newton_reorder, barrier_reorder, inductionHypothesis]
      rfl

/-- The path of a problem with its rows in another order is the same path. -/
theorem trace_reorder (options : Options ℝ) (x : Vec ℝ n) :
    trace options (problem.reorder e) x = trace options problem x := by
  unfold trace
  dsimp only
  rw [levels_reorder]

end Newton

/-! ## Rows of weight zero -/

section Kept

variable {K : Type} [ExactScalar K] {k m n : Nat} (e : Fin k ≃ Fin m)

theorem keptRows_nodup (w : Vec K m) : (keptRows w).Nodup :=
  (List.nodup_finRange m).filter _

/-- The order of the rows that are left of a reordered problem, among those left of the problem. -/
def keptOrder (w : Vec K m) :
    Fin (keptRows (Vec.reorder e w)).length ≃ Fin (keptRows w).length :=
  ((keptRows_nodup _).getEquiv _).trans
    ((e.subtypeEquiv fun i => by rw [mem_keptRows_iff, mem_keptRows_iff, Vec.get_reorder]).trans
      ((keptRows_nodup w).getEquiv _).symm)

theorem get_keptOrder (w : Vec K m) (i : Fin (keptRows (Vec.reorder e w)).length) :
    (keptRows w).get (keptOrder e w i) = e ((keptRows (Vec.reorder e w)).get i) := by
  have back := ((keptRows_nodup w).getEquiv (keptRows w)).apply_symm_apply
    ((e.subtypeEquiv fun i => by rw [mem_keptRows_iff, mem_keptRows_iff, Vec.get_reorder])
      ((keptRows_nodup _).getEquiv (keptRows (Vec.reorder e w)) i))
  exact congrArg Subtype.val back

/-- What is left of a reordered problem is what is left of the problem, in another order. -/
theorem reduced_reorder (problem : Weighted K m n) :
    (problem.reorder e).reduced = problem.reduced.reorder (keptOrder e problem.w) := by
  have entry : ∀ {α : Type} (u : Vec α m),
      (Vector.ofFn fun i => (Vec.reorder e u).get ((keptRows (Vec.reorder e problem.w)).get i)) =
        Vec.reorder (keptOrder e problem.w)
          (Vector.ofFn fun i => u.get ((keptRows problem.w).get i)) := by
    intro α u
    refine Vec.ext_get fun i => ?_
    rw [Vec.get_ofFn, Vec.get_reorder, Vec.get_reorder, Vec.get_ofFn, get_keptOrder]
  unfold Weighted.reduced Weighted.reorder Problem.reorder
  dsimp only
  rw [entry, entry, entry]

end Kept

/-! ## Calls with given vertices -/

section Calls

/-- What a call of the central path has to tell: that no row has a weight other than zero, that no
level is asked for, or a path. -/
inductive Answer (K : Type) (n : Nat) where
  | noRows
  | noLevels
  | path (path : Path K n)

variable {K : Type} [Analytic K] {m n : Nat}

/-- The centroid of some vertices of `n` coordinates. -/
def centre (n : Nat) (vertices : Tensor K) : Except (Trouble K) (Vec K n) :=
  match centroid vertices (some (.whole n)) with
  | .error cause => .error (.ofMismatch cause)
  | .ok centre =>
    match centre.toVec? n with
    | some x => .ok x
    | none => .error (.fault .shapes)

/-- The answer to a call on a problem without rows of weight zero. -/
def weightedAnswer (options : Options K) (problem : Weighted K m n) (vertices : Tensor K) :
    Except (Trouble K) (Answer K n) :=
  if m = 0 then .ok .noRows
  else if options.niter = 0 then .ok .noLevels
  else do
    let start ← centre n vertices
    return .path (← Trouble.ofFault (trace options problem start))

/-- The answer to a call on a problem, started from the centroid of some vertices. -/
def answer (options : Options K) (problem : Problem K m n) (vertices : Tensor K) :
    Except (Trouble K) (Answer K n) :=
  match weightVector m options.weights with
  | .error cause => .error (.ofMismatch cause)
  | .ok w =>
    let weighted : Weighted K m n := ⟨problem, w⟩
    weightedAnswer options weighted.reduced vertices

/-- An answer as the end of a call. -/
def Answer.session (options : Options Float) (elapsed : Float) : Answer Float n → Session
  | .noRows => idleSession options elapsed noRowsNotes
  | .noLevels => idleSession options elapsed noLevelsNotes
  | .path found => pathSession options elapsed found

/-- A call with given vertices ends with its answer. -/
theorem session_eq_answer (options : Options Float) (elapsed : Float) (problem : Problem Float m n)
    (vertices : Tensor Float) :
    CentralPath.session options elapsed problem (some (.ok vertices)) =
      Session.proceed (answer options problem vertices) fun answer =>
        .ok (answer.session options elapsed) := by
  unfold CentralPath.session answer
  cases weightVector m options.weights with
  | error cause => rfl
  | ok w =>
      unfold weightedSession weightedAnswer
      dsimp only
      split
      · rfl
      · split
        · rfl
        · unfold startPoint centroidPoint centre
          dsimp only [Trouble.ofFault, bind, Except.bind]
          cases centroid vertices (some (.whole n)) with
          | error cause => rfl
          | ok centre =>
              cases placed : centre.toVec? n with
              | none => simp only [placed]; rfl
              | some start =>
                  simp only [placed]
                  change (trace options (Weighted.reduced ⟨problem, w⟩) start).map
                    (pathSession options elapsed) = _
                  cases trace options (Weighted.reduced ⟨problem, w⟩) start <;> rfl

end Calls

/-! ## Weights -/

section Weights

variable {K : Type} {m n : Nat} (e : Equiv.Perm (Fin m))

/-- The weights of the rows in another order; as many as there are rows. -/
def reorderWeights [Zero K] (weights : List K) : List K :=
  if weights.length = m then List.ofFn fun i => weights.getD (e i).val 0 else weights

/-- The settings with the weights of the rows in another order. -/
def Options.reorder [Zero K] (options : Options K) : Options K :=
  { options with weights := options.weights.map (reorderWeights e) }

theorem weightVector_reorder [ExactScalar K] (weights : Option (List K)) :
    weightVector m (weights.map (reorderWeights e)) =
      (weightVector m weights).map (Vec.reorder e) := by
  cases weights with
  | none => exact congrArg Except.ok (Vec.reorder_ones e).symm
  | some weights =>
      unfold reorderWeights weightVector
      dsimp only [Option.map]
      by_cases fits : weights.length = m
      · rw [if_pos fits, if_pos fits, if_pos (List.length_ofFn ..)]
        refine congrArg Except.ok (Vec.ext_get fun i => ?_)
        rw [Vec.get_ofFn, Vec.get_reorder, Vec.get_ofFn]
        simp
      · rw [if_neg fits, if_neg fits]
        rfl

end Weights

/-- The settings are looked at for the steps of the levels alone. -/
theorem levels_weights {m n : Nat} (options : Options ℝ) (weights : Option (List ℝ))
    (problem : Weighted ℝ m n) (tried : List ℝ) (x : Vec ℝ n) :
    levels { options with weights := weights } problem tried x = levels options problem tried x := by
  induction tried generalizing x with
  | nil => rfl
  | cons mu rest inductionHypothesis =>
      unfold levels
      simp only [inductionHypothesis]

theorem trace_weights {m n : Nat} (options : Options ℝ) (weights : Option (List ℝ))
    (problem : Weighted ℝ m n) (x : Vec ℝ n) :
    trace { options with weights := weights } problem x = trace options problem x := by
  unfold trace
  dsimp only
  rw [levels_weights]

theorem weightedAnswer_reorder {k m n : Nat} (e : Fin k ≃ Fin m) (options : Options ℝ)
    (weights : Option (List ℝ)) (problem : Weighted ℝ m n) (vertices : Tensor ℝ) :
    weightedAnswer { options with weights := weights } (problem.reorder e) vertices =
      weightedAnswer options problem vertices := by
  have sameSize : k = m := Fin.equiv_iff_eq.mp ⟨e⟩
  unfold weightedAnswer
  simp only [sameSize, trace_weights, trace_reorder]

/-- A call from given vertices, on a problem with its rows and their weights in another order, has
the same answer. -/
theorem answer_reorder {m n : Nat} (e : Equiv.Perm (Fin m)) (options : Options ℝ)
    (problem : Problem ℝ m n) (vertices : Tensor ℝ) :
    answer (options.reorder e) (problem.reorder e) vertices = answer options problem vertices := by
  unfold answer Options.reorder
  dsimp only
  rw [weightVector_reorder]
  cases weightVector m options.weights with
  | error cause => rfl
  | ok w =>
      have left := reduced_reorder e (⟨problem, w⟩ : Weighted ℝ m n)
      have same := weightedAnswer_reorder (keptOrder e w) options
        (options.weights.map (reorderWeights e)) (Weighted.reduced ⟨problem, w⟩) vertices
      rw [← left] at same
      exact same

end CentralPath

end PolyTrace
