import Mathlib
import PolyTrace.Engine.PrimalDual
import PolyTrace.Proofs.Arith.Real
import PolyTrace.Proofs.Failure
import PolyTrace.Proofs.Problem.Reorder

/-!
# The primal-dual method in another order

Over the real numbers, the method on a reordered program goes through the reordered states: steps
work entry by entry and by products, and errors, gaps and violations do not depend on the order.  The
standard form of a problem with its rows reordered is a reordered program whose slacks are in that
order, and shows the same points.

This is shown for one step and then for the loop, by induction on the steps that are left.
-/

namespace PolyTrace

theorem Vec.norm_reorder {k m : Nat} (e : Fin k ≃ Fin m) (u : Vec ℝ m) :
    (Vec.reorder e u).norm = u.norm :=
  congrArg Real.sqrt (Vec.dot_reorder e u u)

namespace PrimalDual

/-! ## States and runs -/

section Orders

variable {K : Type} {m p q : Nat} (e : Equiv.Perm (Fin m)) (f : Equiv.Perm (Fin p))

/-- The state with its rows reordered by `e` and its variables by `f`. -/
def State.reorder (state : State K m p) : State K m p :=
  ⟨Vec.reorder f state.x, Vec.reorder e state.y⟩

/-- The record of the reordered state, with the same point shown for it. -/
def Iterate.reorder (iterate : Iterate K m p q) : Iterate K m p q :=
  { iterate with toState := iterate.toState.reorder e f }

/-- The run through the reordered states. -/
def Run.reorder (run : Run K m p q) : Run K m p q :=
  ⟨run.iterates.map (Iterate.reorder e f), run.ending⟩

end Orders

/-! ## One step -/

section Exact

variable {K : Type} [ExactScalar K] {m p : Nat} (e : Equiv.Perm (Fin m)) (f : Equiv.Perm (Fin p))

theorem step_reorder (form : Form) (options : Options K) (program : Program K m p)
    (state : State K m p) :
    step form options (program.reorder e f) (state.reorder e f) =
      (step form options program state).reorder e f := by
  cases form with
  | standard =>
      simp only [step, standardStep, extrapolate, State.reorder, Program.reorder,
        Mat.mulVec_reorder, Mat.transposeMulVec_reorder, ← Vec.reorder_add, ← Vec.reorder_sub,
        ← Vec.reorder_scale, ← Vec.reorder_project, ← Vec.reorder_along]
  | inequality =>
      simp only [step, inequalityStep, extrapolate, State.reorder, Program.reorder,
        Mat.mulVec_reorder, Mat.transposeMulVec_reorder, ← Vec.reorder_add, ← Vec.reorder_sub,
        ← Vec.reorder_scale, ← Vec.reorder_project, ← Vec.reorder_along]

theorem violation_reorder (form : Form) (program : Program K m p) (state : State K m p) :
    violation form (program.reorder e f) (state.reorder e f) = violation form program state := by
  unfold violation
  simp only [State.reorder, Program.reorder, Mat.mulVec_reorder, ← Vec.reorder_sub,
    ← Vec.reorder_project, Vec.largest?_reorder, Vec.largestAbs?_reorder]

theorem start_reorder (form : Form) :
    (start form m p : State K m p).reorder e f = start form m p := by
  cases form <;> simp only [start, State.reorder, Vec.reorder_zero, Vec.reorder_ones]

end Exact

/-! ## The loop -/

section Loop

variable {m n p q : Nat} (e : Equiv.Perm (Fin m)) (f : Equiv.Perm (Fin p))

theorem relativeError_reorder (form : Form) (program : Program ℝ m p) (state : State ℝ m p) :
    relativeError form (program.reorder e f) (state.reorder e f) =
      relativeError form program state := by
  cases form with
  | standard =>
      simp only [relativeError, standardError, relativeNorm, relativeGap, State.reorder,
        Program.reorder, Mat.mulVec_reorder, Mat.transposeMulVec_reorder, ← Vec.reorder_sub,
        ← Vec.reorder_neg, ← Vec.reorder_project, Vec.norm_reorder, Vec.dot_reorder]
  | inequality =>
      simp only [relativeError, inequalityError, relativeNorm, relativeGap, State.reorder,
        Program.reorder, Mat.mulVec_reorder, ← Vec.reorder_sub, ← Vec.reorder_neg,
        ← Vec.reorder_project, Vec.norm_reorder, Vec.dot_reorder]

variable {form : Form} {options : Options ℝ} {program : Program ℝ m p}
  {view view' : Vec ℝ p → Vec ℝ q}

theorem record_reorder (shown : ∀ x, view' (Vec.reorder f x) = view x)
    (seen : Array (Iterate ℝ m p q)) (state : State ℝ m p) (error : ℝ) :
    record form (program.reorder e f) view' (seen.map (Iterate.reorder e f)) (state.reorder e f)
        error =
      (record form program view seen state error).map fun all =>
        all.map (Iterate.reorder e f) := by
  unfold record
  rw [violation_reorder]
  cases violation form program state with
  | error cause => rfl
  | ok violation =>
      simp [Except.map, Iterate.reorder, State.reorder, Program.reorder, shown]

theorem finish_reorder (shown : ∀ x, view' (Vec.reorder f x) = view x)
    (seen : Array (Iterate ℝ m p q)) (state : State ℝ m p) (error : ℝ) :
    finish form options (program.reorder e f) view' (seen.map (Iterate.reorder e f))
        (state.reorder e f) error =
      (finish form options program view seen state error).map (Run.reorder e f) := by
  unfold finish
  rw [record_reorder e f shown]
  split
  · cases record form program view seen state error with
    | error cause => rfl
    | ok all => simp [Except.map, Run.reorder]
  · split <;> simp [Except.map, Run.reorder]

theorem loop_reorder (shown : ∀ x, view' (Vec.reorder f x) = view x) (fuel : Nat)
    (seen : Array (Iterate ℝ m p q)) (state : State ℝ m p) (error : ℝ) :
    loop form options (program.reorder e f) view' fuel (seen.map (Iterate.reorder e f))
        (state.reorder e f) error =
      (loop form options program view fuel seen state error).map (Run.reorder e f) := by
  induction fuel generalizing seen state error with
  | zero => exact finish_reorder e f shown seen state error
  | succ fuel inductionHypothesis =>
      unfold loop
      rw [record_reorder e f shown, finish_reorder e f shown]
      split
      · cases record form program view seen state error with
        | error cause => rfl
        | ok all =>
            dsimp only [Except.map, bind, Except.bind]
            rw [step_reorder, relativeError_reorder]
            split
            · exact inductionHypothesis _ _ _
            · exact finish_reorder e f shown _ _ _
      · rfl

theorem run_reorder (shown : ∀ x, view' (Vec.reorder f x) = view x) :
    run form options (program.reorder e f) view' =
      (run form options program view).map (Run.reorder e f) := by
  have error := relativeError_reorder e f form program (start form m p)
  have looped : loop form options (program.reorder e f) view' options.maxit
      ((#[] : Array (Iterate ℝ m p q)).map (Iterate.reorder e f)) ((start form m p).reorder e f)
      (relativeError form program (start form m p)) =
        (run form options program view).map (Run.reorder e f) :=
    loop_reorder e f shown _ _ _ _
  rw [start_reorder] at error looped
  rw [Array.map_empty] at looped
  unfold run
  dsimp only
  rw [error]
  exact looped

end Loop

/-! ## Problems -/

section Problems

variable {K : Type} [ExactScalar K] {m n : Nat} (e : Equiv.Perm (Fin m))

/-- The order of the variables of a problem in a form: only slacks are reordered. -/
def Form.columnOrder (form : Form) (n : Nat) (e : Equiv.Perm (Fin m)) :
    Equiv.Perm (Fin (form.columns m n)) :=
  match form with
  | .standard => splitOrder n e
  | .inequality => Equiv.refl (Fin n)

theorem Form.program_reorder (form : Form) (problem : Problem K m n) :
    form.program (problem.reorder e) =
      (form.program problem).reorder e (form.columnOrder n e) := by
  cases form with
  | standard => exact Problem.split_reorder e problem
  | inequality => exact (Program.reorder_refl e (Form.inequality.program problem)).symm

theorem Form.point_reorder (form : Form) (x : Vec K (form.columns m n)) :
    form.point (Vec.reorder (form.columnOrder n e) x) = form.point x := by
  cases form with
  | standard => exact unsplit_reorder e x
  | inequality => exact Vec.reorder_refl x

end Problems

/-- On a problem with its rows in another order, the method in either form shows the same points,
with the same objectives, violations and errors, and ends in the same way. -/
theorem solve_reorder {m n : Nat} (e : Equiv.Perm (Fin m)) (options : Options ℝ)
    (problem : Problem ℝ m n) :
    solve options (problem.reorder e) =
      (solve options problem).map (Run.reorder e (options.form.columnOrder n e)) := by
  unfold solve
  rw [Form.program_reorder]
  exact run_reorder e _ (options.form.point_reorder e)

end PrimalDual

end PolyTrace
