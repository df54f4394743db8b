import Mathlib
import PolyTrace.Proofs.InteriorPoint.Conditions
import PolyTrace.Proofs.InteriorPoint.Trail
import PolyTrace.Proofs.Problem.Reorder

/-!
# The interior point method in another order

Over an exact arithmetic, the method on a reordered program goes through the reordered points.  The
linearised conditions of a reordered point are the conditions in another order, so that they have
the reordered solution or none; the longest steps, the residuals and the tests are those of the
original point.  One step is shown to keep the points in step with each other, and then the loop, by
induction on the steps that are left.

The pivots that a singular system is refused for depend on the order.  Only the kind of a failure is
the same.
-/

namespace PolyTrace

section Cast

variable {α K : Type} {k l n : Nat}

theorem Vec.reorder_cast (same : k = l) (e : Equiv.Perm (Fin k)) (u : Vec α k) :
    Vec.reorder ((finCongr same).permCongr e) (u.cast same) = (Vec.reorder e u).cast same := by
  subst same
  rfl

theorem Mat.reorder_cast (same : k = l) (e : Equiv.Perm (Fin k)) (f : Equiv.Perm (Fin n))
    (A : Mat K k n) : Mat.reorder ((finCongr same).permCongr e) f (A.cast same : Mat K l n) =
      (Mat.reorder e f A).cast same := by
  subst same
  rfl

end Cast

namespace InteriorPoint

/-! ## Points and runs -/

section Orders

variable {K : Type} {m n : Nat}

/-- The point with its rows reordered by `e` and its variables by `f`. -/
def Point.reorder (e : Equiv.Perm (Fin m)) (f : Equiv.Perm (Fin n)) (point : Point K m n) :
    Point K m n :=
  ⟨Vec.reorder f point.x, Vec.reorder e point.s, Vec.reorder e point.y⟩

/-- The record of the reordered point. -/
def Iterate.reorder (e : Equiv.Perm (Fin m)) (f : Equiv.Perm (Fin n)) (iterate : Iterate K m n) :
    Iterate K m n :=
  { iterate with toPoint := iterate.toPoint.reorder e f }

/-- The residuals of the reordered point. -/
def Residuals.reorder (e : Equiv.Perm (Fin m)) (f : Equiv.Perm (Fin n))
    (here : Residuals K m n) : Residuals K m n :=
  { here with rows := Vec.reorder e here.rows, columns := Vec.reorder f here.columns }

/-- The same way to end.  Two runs abort in the same way if they do so at the same iteration with
failures of the same kind. -/
inductive Ending.Alike : Ending K → Ending K → Prop
  | converged : Alike .converged .converged
  | exhausted : Alike .exhausted .exhausted
  | aborted (iteration : Nat) {cause other : Failure K} (same : cause.kind = other.kind) :
      Alike (.aborted iteration cause) (.aborted iteration other)

/-- A run that goes through the reordered points and ends in the same way. -/
structure Run.Reordered (e : Equiv.Perm (Fin m)) (f : Equiv.Perm (Fin n)) (run other : Run K m n) :
    Prop where
  iterates : other.iterates = run.iterates.map (Iterate.reorder e f)
  ending : run.ending.Alike other.ending

end Orders

/-! ## The linearised conditions -/

section System

variable {K : Type} {m n : Nat} (e : Equiv.Perm (Fin m)) (f : Equiv.Perm (Fin n))

/-- The order of the conditions: those of the rows, of the columns and of the products. -/
def equationsOrder : Equiv.Perm (Fin (n + m + m)) :=
  (finCongr (conditions_eq_unknowns m n)).permCongr (besideOrder (besideOrder e f) e)

/-- The order of the unknowns: the variables, the slacks and the multipliers. -/
def unknownsOrder : Equiv.Perm (Fin (n + m + m)) :=
  besideOrder (besideOrder f e) e

theorem system_reorder [Scalar K] (A : Mat K m n) (s y : Vec K m) :
    system (Mat.reorder e f A) (Vec.reorder e s) (Vec.reorder e y) =
      Mat.reorder (equationsOrder e f) (unknownsOrder e f) (system A s y) := by
  unfold system equationsOrder unknownsOrder
  dsimp only
  rw [Mat.reorder_cast, Mat.reorder_append, Mat.reorder_append]
  simp only [Mat.reorder_beside, Mat.reorder_neg, Mat.reorder_identity, Mat.reorder_zero,
    Mat.reorder_diagonal, Mat.reorder_transpose]

theorem rightSide_reorder (rows : Vec K m) (columns : Vec K n) (products : Vec K m) :
    rightSide (Vec.reorder e rows) (Vec.reorder f columns) (Vec.reorder e products) =
      Vec.reorder (equationsOrder e f) (rightSide rows columns products) := by
  unfold rightSide equationsOrder
  rw [Vec.reorder_cast, Vec.reorder_append, Vec.reorder_append]

theorem blocks_reorder (solution : Vec K (n + m + m)) :
    blocks (Vec.reorder (unknownsOrder e f) solution) = (blocks solution).reorder e f := by
  unfold blocks Point.reorder unknownsOrder
  congr 1 <;> exact Vec.ext_get fun i => by simp

end System

/-! ## One step -/

section Exact

variable {K : Type} [ExactScalar K] {m n : Nat} (e : Equiv.Perm (Fin m)) (f : Equiv.Perm (Fin n))

theorem complementarity_reorder (s y : Vec K m) :
    complementarity (Vec.reorder e s) (Vec.reorder e y) = complementarity s y := by
  unfold complementarity
  rw [Vec.dot_reorder]

theorem residuals_reorder (program : Program K m n) (point : Point K m n) :
    residuals (program.reorder e f) (point.reorder e f) =
      (residuals program point).reorder e f := by
  simp only [residuals, Program.reorder, Point.reorder, Residuals.reorder, Mat.mulVec_reorder,
    Mat.transposeMulVec_reorder, Vec.reorder_sub, Vec.dot_reorder, complementarity_reorder]

theorem extremum_reorder {k : Nat} (e : Equiv.Perm (Fin k)) (u : Vec K k) :
    extremum (Vec.reorder e u) = extremum u := by
  unfold extremum
  rw [Vec.largestAbs?_reorder]

theorem hasConverged_reorder (options : Options K) (here : Residuals K m n) (infeasibility : K) :
    hasConverged options (here.reorder e f) infeasibility =
      hasConverged options here infeasibility := by
  unfold hasConverged Residuals.reorder
  dsimp only
  rw [extremum_reorder]

theorem advance_reorder (options : Options K) (point d : Point K m n) :
    advance options (point.reorder e f) (d.reorder e f) = (advance options point d).reorder e f := by
  simp only [advance, Point.reorder, Vec.maxStep_reorder, Vec.reorder_along]

theorem start_reorder : (start m n : Point K m n).reorder e f = start m n := by
  simp only [start, Point.reorder, Vec.reorder_zero, Vec.reorder_ones]

theorem add_reorder (d d' : Point K m n) :
    (d.add d').reorder e f = (d.reorder e f).add (d'.reorder e f) := by
  simp only [Point.add, Point.reorder, Vec.reorder_add]

/-- The step of the reordered point is the reordered step, or there is none for either. -/
theorem direction_reorder (A : Mat K m n) (s y rowResidual : Vec K m) (columnResidual : Vec K n)
    (mu : K) :
    Alike (fun cause cause' => cause.outcome = cause'.outcome)
      (fun d d' => d' = Point.reorder e f d)
      (direction A s y rowResidual columnResidual mu)
      (direction (Mat.reorder e f A) (Vec.reorder e s) (Vec.reorder e y)
        (Vec.reorder e rowResidual) (Vec.reorder f columnResidual) mu) := by
  unfold direction
  rw [system_reorder]
  refine (factorize_reorder (equationsOrder e f) (unknownsOrder e f) (system A s y)).ofFailure.bind
    fun factors others solves => ?_
  -- the two solves with the factors are those of the reordered right-hand sides
  have solved : ∀ (rows : Vec K m) (columns : Vec K n) (products : Vec K m),
      blocks (others.solve (rightSide (Vec.reorder e rows) (Vec.reorder f columns)
        (Vec.reorder e products))) =
      (blocks (factors.solve (rightSide rows columns products))).reorder e f := by
    intro rows columns products
    rw [rightSide_reorder, solves, blocks_reorder]
  have predicted := solved rowResidual columnResidual (s.neg.mul y)
  rw [Vec.reorder_mul, Vec.reorder_neg] at predicted
  rw [predicted]
  generalize blocks (factors.solve (rightSide rowResidual columnResidual (s.neg.mul y))) = full
  have longest : maxStep (Vec.reorder e s) (full.reorder e f).s = maxStep s full.s ∧
      maxStep (Vec.reorder e y) (full.reorder e f).y = maxStep y full.y :=
    ⟨Vec.maxStep_reorder e s full.s, Vec.maxStep_reorder e y full.y⟩
  dsimp only
  rw [longest.1, longest.2]
  split
  · exact .ok rfl
  · have affine : ∀ a b, complementarity ((Vec.reorder e s).along a (full.reorder e f).s)
        ((Vec.reorder e y).along b (full.reorder e f).y) =
          complementarity (s.along a full.s) (y.along b full.y) := by
      intro a b
      simp only [Point.reorder, ← Vec.reorder_along, complementarity_reorder]
    rw [affine]
    refine .bind_left ?_ fun sigma => ?_
    · exact fun _ => rfl
    have corrected := solved (Vec.zero m) (Vec.zero n)
      ((full.s.mul full.y).map fun product => sigma * mu - product)
    rw [Vec.reorder_zero, Vec.reorder_zero, Vec.reorder_map, Vec.reorder_mul] at corrected
    refine .ok ?_
    rw [add_reorder, ← corrected]
    rfl

/-! ## The loop -/

theorem record_reorder (program : Program K m n) (point : Point K m n) (infeasibility : K) :
    record (program.reorder e f) (point.reorder e f) infeasibility =
      (record program point infeasibility).reorder e f := by
  unfold record
  rw [residuals_reorder]
  rfl

theorem stepAt_reorder (program : Program K m n) (point : Point K m n) :
    Alike (fun cause cause' => cause.outcome = cause'.outcome)
      (fun d d' => d' = Point.reorder e f d) (stepAt program point)
      (stepAt (program.reorder e f) (point.reorder e f)) := by
  unfold stepAt
  rw [residuals_reorder]
  exact direction_reorder e f _ _ _ _ _ _

/-- One turn of the loop: stop at a point that passes the tests, or go on behind its record. -/
def turn (options : Options K) (program : Program K m n) (point : Point K m n)
    (seen : Array (Iterate K m n)) (rest : Array (Iterate K m n) → Except Fault (Run K m n)) :
    Except Fault (Run K m n) := do
  let infeasibility ← extremum (residuals program point).rows
  let all := seen.push (record program point infeasibility)
  if ← hasConverged options (residuals program point) infeasibility then
    return ⟨all.toList, .converged⟩
  rest all

theorem loop_zero (options : Options K) (program : Program K m n) (point : Point K m n)
    (seen : Array (Iterate K m n)) :
    loop options program 0 point seen =
      turn options program point seen fun all => .ok ⟨all.toList, .exhausted⟩ :=
  rfl

theorem loop_succ (options : Options K) (program : Program K m n) (fuel : Nat) (point : Point K m n)
    (seen : Array (Iterate K m n)) :
    loop options program (fuel + 1) point seen =
      turn options program point seen fun all =>
        match stepAt program point with
        | .error (.failure cause) => .ok ⟨all.toList, .aborted all.size cause⟩
        | .error (.fault cause) => .error cause
        | .ok d => loop options program fuel (advance options point d) all :=
  rfl

theorem turn_reorder (options : Options K) (program : Program K m n) (point : Point K m n)
    (seen : Array (Iterate K m n))
    {rest rest' : Array (Iterate K m n) → Except Fault (Run K m n)}
    (onward : ∀ all, Alike Eq (Run.Reordered e f) (rest all)
      (rest' (all.map (Iterate.reorder e f)))) :
    Alike Eq (Run.Reordered e f) (turn options program point seen rest)
      (turn options (program.reorder e f) (point.reorder e f) (seen.map (Iterate.reorder e f))
        rest') := by
  have sameRows : extremum ((residuals program point).reorder e f).rows =
      extremum (residuals program point).rows := extremum_reorder e _
  unfold turn
  rw [residuals_reorder, sameRows]
  refine .bind_left (fun _ => rfl) fun infeasibility => ?_
  dsimp only
  rw [hasConverged_reorder, record_reorder, ← Array.map_push]
  refine .bind_left (fun _ => rfl) fun converged => ?_
  cases converged with
  | true => exact .ok ⟨Array.toList_map, .converged⟩
  | false => exact onward _

/-- From the reordered point, behind the reordered records, the loop gives the reordered run. -/
theorem loop_reorder (options : Options K) (program : Program K m n) (fuel : Nat)
    (point : Point K m n) (seen : Array (Iterate K m n)) :
    Alike Eq (Run.Reordered e f) (loop options program fuel point seen)
      (loop options (program.reorder e f) fuel (point.reorder e f)
        (seen.map (Iterate.reorder e f))) := by
  induction fuel generalizing point seen with
  | zero =>
      rw [loop_zero, loop_zero]
      exact turn_reorder e f options program point seen fun all =>
        .ok ⟨Array.toList_map, .exhausted⟩
  | succ fuel inductionHypothesis =>
      rw [loop_succ, loop_succ]
      refine turn_reorder e f options program point seen fun all => ?_
      have steps := stepAt_reorder e f program point
      cases found : stepAt program point with
      | ok d =>
          rw [found] at steps
          obtain ⟨_, also, rfl⟩ := steps.exists_ok
          rw [also]
          dsimp only
          rw [advance_reorder]
          exact inductionHypothesis _ all
      | error trouble =>
          rw [found] at steps
          obtain ⟨other, also, same⟩ := steps.exists_error
          rw [also]
          cases trouble with
          | failure cause =>
              cases other with
              | failure cause' =>
                  refine .ok ⟨Array.toList_map, ?_⟩
                  rw [Array.size_map]
                  exact .aborted all.size (Sum.inl.inj same)
              | fault cause' => cases same
          | fault cause =>
              cases other with
              | failure cause' => cases same
              | fault cause' => exact .error (Sum.inr.inj same)

/-- On a problem with its rows in another order, the method goes through the same variables and
through the slacks and the multipliers in that order. -/
theorem solve_reorder (options : Options K) (problem : Problem K m n) :
    Alike Eq (Run.Reordered e (Equiv.refl (Fin n))) (solve options problem)
      (solve options (problem.reorder e)) := by
  have looped := loop_reorder e (Equiv.refl (Fin n)) options problem.negated options.maxit
    (start m n) #[]
  rw [start_reorder, ← Problem.negated_reorder, Array.map_empty] at looped
  exact looped

end Exact

end InteriorPoint

end PolyTrace
