import Mathlib
import PolyTrace.Arith.Rational

/-!
# Exact arithmetic

An `ExactScalar` is an arithmetic in which nothing is rounded: the numbers form an ordered field,
so that every one of them is defined and finite, and only zero counts as a zero pivot.  Read over
it, the operations that the engines say through comparisons are the usual ones.

The fractions are exact, and their arithmetic as an ordered field is the arithmetic that the
engines use.  Statements are proved over every exact arithmetic and then read over the fractions.
-/

namespace PolyTrace

/-- The numbers of an ordered field, computed with exactly. -/
class ExactScalar (K : Type) extends Field K, LinearOrder K, IsStrictOrderedRing K

/-- An ordered field as the arithmetic of an engine. -/
instance ExactScalar.instScalar {K : Type} [ExactScalar K] : Scalar K where
  ltDecidable := inferInstance
  leDecidable := inferInstance
  ofRat := Rat.cast
  pivotTolerance := 0

instance instExactScalarRat : ExactScalar Rat where

-- On the fractions, the arithmetic of the ordered field is the arithmetic of the engines.
example : (ExactScalar.instScalar : Scalar Rat) = instScalarRat :=
  rfl

namespace Scalar

variable {K : Type} [ExactScalar K]

theorem abs_eq (a : K) : Scalar.abs a = |a| := by
  unfold Scalar.abs
  split
  · rename_i nonpos
    rw [abs_of_nonpos nonpos, zero_sub]
  · rename_i positive
    rw [abs_of_pos (lt_of_not_ge positive)]

theorem not_undefined (a : K) : ¬ Undefined a :=
  not_not_intro (le_refl a)

theorem finite (a : K) : Finite a :=
  le_refl (a - a)

theorem same_iff {a b : K} : Same a b ↔ a = b :=
  ⟨fun same => le_antisymm same.1 same.2, fun equal => ⟨equal.le, equal.ge⟩⟩

theorem larger_eq (a b : K) : larger a b = max a b := by
  unfold larger
  by_cases order : b ≤ a
  · rw [if_pos (Or.inl order), max_eq_left order]
  · rw [if_neg (not_or.mpr ⟨order, not_undefined a⟩), max_eq_right (le_of_not_ge order)]

theorem smaller_eq (a b : K) : smaller a b = min a b := by
  unfold smaller
  by_cases order : a ≤ b
  · rw [if_pos (Or.inl order), min_eq_left order]
  · rw [if_neg (not_or.mpr ⟨order, not_undefined a⟩), min_eq_right (le_of_not_ge order)]

theorem pivotTolerance_eq : (Scalar.pivotTolerance : K) = 0 :=
  rfl

theorem unitAt_pos (places : Nat) : (0 : K) < unitAt places := by
  have positive : (0 : Rat) < mkRat 1 (tenPow places) := by
    rw [Rat.mkRat_eq_div]
    exact div_pos one_pos (Nat.cast_pos.mpr (Nat.pow_pos (by decide)))
  exact Rat.cast_pos.mpr positive

/-! ## Least and greatest of a list -/

/-- The least of a list and a first number is at most each of them. -/
theorem foldl_smaller_le (first : K) (rest : List K) :
    rest.foldl smaller first ≤ first ∧ ∀ a ∈ rest, rest.foldl smaller first ≤ a := by
  induction rest generalizing first with
  | nil => exact ⟨le_refl first, fun a member => absurd member List.not_mem_nil⟩
  | cons next rest inductionHypothesis =>
      rw [List.foldl_cons, smaller_eq, List.forall_mem_cons]
      obtain ⟨atMost, below⟩ := inductionHypothesis (min first next)
      exact ⟨atMost.trans (min_le_left _ _), atMost.trans (min_le_right _ _), below⟩

/-- The least of a list and a first number is one of them. -/
theorem foldl_smaller_mem (first : K) (rest : List K) :
    rest.foldl smaller first ∈ first :: rest := by
  induction rest generalizing first with
  | nil => exact List.mem_cons_self
  | cons next rest inductionHypothesis =>
      rw [List.foldl_cons, smaller_eq]
      rcases List.mem_cons.mp (inductionHypothesis (min first next)) with least | member
      · rw [least]
        rcases min_choice first next with left | right
        · rw [left]
          exact List.mem_cons_self
        · rw [right]
          exact List.mem_cons_of_mem _ List.mem_cons_self
      · exact List.mem_cons_of_mem _ (List.mem_cons_of_mem _ member)

/-- The greatest of a list and a first number is at least each of them. -/
theorem le_foldl_larger (first : K) (rest : List K) :
    first ≤ rest.foldl larger first ∧ ∀ a ∈ rest, a ≤ rest.foldl larger first := by
  induction rest generalizing first with
  | nil => exact ⟨le_refl first, fun a member => absurd member List.not_mem_nil⟩
  | cons next rest inductionHypothesis =>
      rw [List.foldl_cons, larger_eq, List.forall_mem_cons]
      obtain ⟨atLeast, above⟩ := inductionHypothesis (max first next)
      exact ⟨(le_max_left _ _).trans atLeast, (le_max_right _ _).trans atLeast, above⟩

/-- The greatest of a list and a first number is one of them. -/
theorem foldl_larger_mem (first : K) (rest : List K) :
    rest.foldl larger first ∈ first :: rest := by
  induction rest generalizing first with
  | nil => exact List.mem_cons_self
  | cons next rest inductionHypothesis =>
      rw [List.foldl_cons, larger_eq]
      rcases List.mem_cons.mp (inductionHypothesis (max first next)) with greatest | member
      · rw [greatest]
        rcases max_choice first next with left | right
        · rw [left]
          exact List.mem_cons_self
        · rw [right]
          exact List.mem_cons_of_mem _ List.mem_cons_self
      · exact List.mem_cons_of_mem _ (List.mem_cons_of_mem _ member)

end Scalar

end PolyTrace
