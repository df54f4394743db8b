import Mathlib
import PolyTrace.Arith.Binary64
import PolyTrace.Proofs.Linear.Elimination

/-!
# The identity is factored without rounding

Machine numbers round, but not on zeros and ones: eliminating a column of the identity leaves the
identity of the next size, so that every pivot is one and the identity is not taken for singular.
-/

namespace PolyTrace

namespace Elimination

variable {n : Nat}

/-- The scan for a pivot stays at a first entry of one when all others are zero. -/
theorem pivotIndex_eq_zero {u : Vec Float (n + 1)} (first : u.get 0 = 1)
    (others : ∀ i : Fin n, u.get i.succ = 0) : pivotIndex u = 0 := by
  have notLarger : ∀ i, ¬ Scalar.abs (u.get 0) < Scalar.abs (u.get i) := by
    intro i
    refine Fin.cases ?_ (fun i => ?_) i
    · rw [first]
      decide +kernel
    · rw [first, others i]
      decide +kernel
  have scan : ∀ indices : List (Fin (n + 1)), indices.foldl
      (fun best i => if Scalar.abs (u.get best) < Scalar.abs (u.get i) then i else best) 0 = 0 := by
    intro indices
    induction indices with
    | nil => rfl
    | cons i rest inductionHypothesis =>
        rw [List.foldl_cons, if_neg (notLarger i), inductionHypothesis]
  unfold pivotIndex
  rw [Fin.foldl_eq_finRange_foldl]
  exact scan _

theorem exchangedRows_identity :
    exchangedRows (Mat.identity (n + 1) : Mat Float (n + 1) (n + 1)) = Mat.identity (n + 1) := by
  have stays :
      pivotIndex ((Mat.identity (n + 1) : Mat Float (n + 1) (n + 1)).map Vec.first) = 0 := by
    apply pivotIndex_eq_zero
    · rw [Vec.get_map]
      exact (Mat.get_identity 0 0).trans (if_pos rfl)
    · intro i
      rw [Vec.get_map]
      exact (Mat.get_identity i.succ 0).trans (if_neg (Fin.succ_ne_zero i))
  apply Vec.ext_get
  intro k
  rw [exchangedRows_eq, stays, Vec.get_swap, Equiv.swap_self, Equiv.refl_apply]

theorem firstPivot_identity :
    firstPivot (Mat.identity (n + 1) : Mat Float (n + 1) (n + 1)) = 1 := by
  rw [firstPivot_eq, exchangedRows_identity, Mat.get_identity, if_pos rfl]

/-- The first column of the identity leaves the identity of the next size. -/
theorem remaining_identity :
    remaining (Mat.identity (n + 1) : Mat Float (n + 1) (n + 1)) = Mat.identity n := by
  have lower : ∀ i : Fin n,
      (firstLower (Mat.identity (n + 1) : Mat Float (n + 1) (n + 1))).get i = 0 := by
    intro i
    rw [firstLower, Vec.get_map, Vec.get_others, firstPivot_identity, exchangedRows_identity]
    have entry := (Mat.get_identity (K := Float) i.succ (0 : Fin (n + 1))).trans
      (if_neg (Fin.succ_ne_zero i))
    rw [Vec.first, entry]
    decide +kernel
  have upper : ∀ j : Fin n,
      (firstUpper (Mat.identity (n + 1) : Mat Float (n + 1) (n + 1))).get j = 0 := by
    intro j
    rw [get_firstUpper, exchangedRows_identity, Mat.get_identity,
      if_neg (Fin.succ_ne_zero j).symm]
  apply Vec.ext_get
  intro i
  apply Vec.ext_get
  intro j
  rw [get_remaining, lower, upper, exchangedRows_identity, Mat.get_identity, Mat.get_identity]
  by_cases diagonal : i = j
  · rw [if_pos diagonal, if_pos (congrArg Fin.succ diagonal)]
    decide +kernel
  · rw [if_neg diagonal, if_neg (mt Fin.succ_inj.mp diagonal)]
    decide +kernel

theorem pivots_identity (n : Nat) :
    (ofMat (Mat.identity n : Mat Float n n)).pivots = List.replicate n 1 := by
  induction n with
  | zero => rfl
  | succ n inductionHypothesis =>
      rw [pivots_ofMat_succ, firstPivot_identity, remaining_identity, inductionHypothesis,
        List.replicate_succ]

end Elimination

theorem Mat.allFinite_identity (n : Nat) : (Mat.identity n : Mat Float n n).allFinite = true := by
  rw [allFinite, Vector.all_eq_true]
  intro i row
  rw [Vec.allFinite, Vector.all_eq_true]
  intro j column
  rw [decide_eq_true_iff]
  have entry := Mat.get_identity (K := Float) ⟨i, row⟩ ⟨j, column⟩
  change Scalar.Finite (((Mat.identity n : Mat Float n n).get ⟨i, row⟩).get ⟨j, column⟩)
  rw [entry]
  split <;> decide +kernel

/-- A fold stays where one step does not move it. -/
theorem foldl_replicate_of_fixed {α β : Type} {f : β → α → β} {a : α} {b c : β} (start : b = c)
    (fixed : f c a = c) (count : Nat) : (List.replicate count a).foldl f b = c := by
  induction count generalizing b with
  | zero => exact start
  | succ count inductionHypothesis =>
      rw [List.replicate_succ, List.foldl_cons, start, inductionHypothesis fixed]

/-- The identity is factored. -/
theorem exists_factorize_identity {n : Nat} (rows : 0 < n) :
    ∃ factors, factorize (Mat.identity n : Mat Float n n) = .ok factors := by
  obtain ⟨k, rfl⟩ := Nat.exists_eq_succ_of_ne_zero rows.ne'
  have largest : Elimination.largestPivot (1 : Float) (List.replicate k 1) = 1 := by
    rw [Elimination.largestPivot, List.map_replicate]
    exact foldl_replicate_of_fixed (by decide +kernel) (by decide +kernel) k
  have smallest : Elimination.smallestPivot (1 : Float) (List.replicate k 1) = 1 := by
    rw [Elimination.smallestPivot, List.map_replicate]
    exact foldl_replicate_of_fixed (by decide +kernel) (by decide +kernel) k
  unfold factorize
  dsimp only
  rw [Elimination.pivots_identity, List.replicate_succ]
  dsimp only
  rw [if_pos (Mat.allFinite_identity _), largest, smallest, if_neg (by decide +kernel)]
  exact ⟨_, rfl⟩

end PolyTrace
