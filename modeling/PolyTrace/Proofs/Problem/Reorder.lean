import Mathlib
import PolyTrace.Problem.Basic
import PolyTrace.Proofs.Linear.Reorder

/-!
# Problems and programs in another order

The rows of a problem can be reordered, and the rows and the unknowns of a program.  A problem in
another order is negated to the negated program in that order, and its split form has its rows and
its slacks in that order.
-/

namespace PolyTrace

section Reorder

variable {K : Type} {k m n p q : Nat}

/-- The problem with its rows reordered. -/
def Problem.reorder (e : Fin k ≃ Fin m) (problem : Problem K m n) : Problem K k n where
  A := Vec.reorder e problem.A
  b := Vec.reorder e problem.b
  c := problem.c

/-- The program with its rows reordered by `e` and its unknowns by `f`. -/
def Program.reorder (e : Fin k ≃ Fin m) (f : Fin q ≃ Fin p) (program : Program K m p) :
    Program K k q where
  A := Mat.reorder e f program.A
  b := Vec.reorder e program.b
  c := Vec.reorder f program.c

/-- Only the rows are reordered. -/
theorem Program.reorder_refl (e : Fin k ≃ Fin m) (program : Program K m p) :
    program.reorder e (Equiv.refl (Fin p)) =
      ⟨Vec.reorder e program.A, Vec.reorder e program.b, program.c⟩ := by
  simp only [reorder, Mat.reorder_refl, Vec.reorder_refl]

end Reorder

variable {K : Type} [Scalar K] {k m n : Nat} (e : Fin k ≃ Fin m)

theorem Problem.negated_reorder (problem : Problem K m n) :
    (problem.reorder e).negated = problem.negated.reorder e (Equiv.refl (Fin n)) := by
  rw [Program.reorder_refl]
  simp only [negated, Problem.reorder, Vec.reorder_neg, Mat.neg, Vec.reorder_map]

/-- The order of the columns of the split form: the variables stay in place. -/
def splitOrder (n : Nat) (e : Fin k ≃ Fin m) : Fin (n + n + k) ≃ Fin (n + n + m) :=
  besideOrder (Equiv.refl (Fin (n + n))) e

theorem Problem.split_reorder (problem : Problem K m n) :
    (problem.reorder e).split = problem.split.reorder e (splitOrder n e) := by
  have rows : Vec.reorder e (problem.A.beside problem.A.neg) =
      Mat.beside (Vec.reorder e problem.A) (Mat.neg (Vec.reorder e problem.A)) := by
    unfold Mat.beside Mat.neg
    rw [Vec.reorder_zipWith, Vec.reorder_map]
  unfold split splitMatrix Problem.reorder Program.reorder splitOrder
  simp only [Mat.reorder_beside, Vec.reorder_append, Mat.reorder_identity, Vec.reorder_zero,
    Vec.reorder_refl, Mat.reorder_refl, rows]

theorem unsplit_reorder (x : Vec K (n + n + m)) :
    unsplit (Vec.reorder (splitOrder n e) x) = unsplit x :=
  Vec.ext_get fun j => by simp [unsplit, splitOrder]

end PolyTrace
