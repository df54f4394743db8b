import Mathlib
import PolyTrace.Linear.StepLength
import PolyTrace.Proofs.Linear.Matrix

/-!
# The longest step keeps the signs

The longest step is the whole one, or it ends where a decreasing entry reaches zero.  From a vector
without negative entries, no share of a step up to `maxStep` makes an entry negative, and every
larger share, up to the whole, does.  A fixed part of the longest step leaves a fixed part of every
entry, so that positive entries stay positive.
-/

namespace PolyTrace

variable {K : Type} [ExactScalar K] {n : Nat}

theorem leastShare_cons (share : K) (rest : List K) :
    leastShare (share :: rest) = min (rest.foldl Scalar.smaller share) 1 := by
  unfold leastShare
  by_cases small : rest.foldl Scalar.smaller share < 1
  · rw [min_eq_left small.le]
    exact if_pos small
  · rw [min_eq_right (le_of_not_gt small)]
    exact if_neg small

theorem leastShare_le_one (shares : List K) : leastShare shares ≤ 1 := by
  cases shares with
  | nil => exact le_refl 1
  | cons share rest =>
      rw [leastShare_cons]
      exact min_le_right _ _

theorem leastShare_le {shares : List K} {share : K} (member : share ∈ shares) :
    leastShare shares ≤ share := by
  cases shares with
  | nil => exact absurd member List.not_mem_nil
  | cons first rest =>
      rw [leastShare_cons]
      obtain ⟨atMostFirst, atMost⟩ := Scalar.foldl_smaller_le first rest
      rcases List.mem_cons.mp member with equal | member
      · rw [equal]
        exact (min_le_left _ _).trans atMostFirst
      · exact (min_le_left _ _).trans (atMost share member)

/-- The least share is the whole or one of the given shares. -/
theorem leastShare_eq_one_or_mem (shares : List K) :
    leastShare shares = 1 ∨ leastShare shares ∈ shares := by
  cases shares with
  | nil => exact Or.inl rfl
  | cons first rest =>
      rw [leastShare_cons]
      rcases min_choice (rest.foldl Scalar.smaller first) 1 with least | whole
      · rw [least]
        exact Or.inr (Scalar.foldl_smaller_mem first rest)
      · exact Or.inl whole

theorem mem_stepRatios_iff {v d : Vec K n} {share : K} :
    share ∈ stepRatios v d ↔ ∃ i : Fin n, d.get i < 0 ∧ -v.get i / d.get i = share := by
  unfold stepRatios
  rw [List.mem_filterMap]
  constructor
  · rintro ⟨i, -, found⟩
    split at found
    · rename_i decreasing
      exact ⟨i, decreasing, Option.some.inj found⟩
    · cases found
  · rintro ⟨i, decreasing, equal⟩
    refine ⟨i, List.mem_finRange i, ?_⟩
    rw [if_pos decreasing, equal]

theorem maxStep_le_one (v d : Vec K n) : maxStep v d ≤ 1 :=
  leastShare_le_one _

/-- The longest step is the whole one, or a decreasing entry reaches zero at its end. -/
theorem maxStep_cases (v d : Vec K n) :
    maxStep v d = 1 ∨ ∃ i, d.get i < 0 ∧ -v.get i / d.get i = maxStep v d := by
  rcases leastShare_eq_one_or_mem (stepRatios v d) with whole | member
  · exact Or.inl whole
  · exact Or.inr (mem_stepRatios_iff.mp member)

theorem maxStep_nonneg {v : Vec K n} (nonneg : ∀ i, 0 ≤ v.get i) (d : Vec K n) :
    0 ≤ maxStep v d := by
  rcases maxStep_cases v d with whole | ⟨i, decreasing, reached⟩
  · rw [whole]
    exact zero_le_one
  · rw [← reached]
    exact div_nonneg_of_nonpos (neg_nonpos.mpr (nonneg i)) decreasing.le

/-- From a vector with positive entries, some share of every step can be taken. -/
theorem maxStep_pos {v : Vec K n} (positive : ∀ i, 0 < v.get i) (d : Vec K n) :
    0 < maxStep v d := by
  rcases maxStep_cases v d with whole | ⟨i, decreasing, reached⟩
  · rw [whole]
    exact one_pos
  · rw [← reached]
    exact div_pos_of_neg_of_neg (neg_neg_of_pos (positive i)) decreasing

/-- The longest step takes from no entry more than the entry itself. -/
theorem neg_le_maxStep_mul {v d : Vec K n} (nonneg : ∀ i, 0 ≤ v.get i) (i : Fin n) :
    -v.get i ≤ maxStep v d * d.get i := by
  by_cases decreasing : d.get i < 0
  · have limit : maxStep v d ≤ -v.get i / d.get i :=
      leastShare_le (mem_stepRatios_iff.mpr ⟨i, decreasing, rfl⟩)
    exact (le_div_iff_of_neg decreasing).mp limit
  · exact (neg_nonpos.mpr (nonneg i)).trans
      (mul_nonneg (maxStep_nonneg nonneg d) (le_of_not_gt decreasing))

/-- The share `alpha` of the longest step leaves at least the share `1 - alpha` of every entry. -/
theorem le_get_along_maxStep {v : Vec K n} (nonneg : ∀ i, 0 ≤ v.get i) {alpha : K}
    (alpha_nonneg : 0 ≤ alpha) (d : Vec K n) (i : Fin n) :
    (1 - alpha) * v.get i ≤ (v.along (alpha * maxStep v d) d).get i := by
  have taken : alpha * -v.get i ≤ alpha * (maxStep v d * d.get i) :=
    mul_le_mul_of_nonneg_left (neg_le_maxStep_mul nonneg i) alpha_nonneg
  rw [Vec.get_along]
  linarith

/-- A share of a step that is at most the longest keeps every entry nonnegative. -/
theorem nonneg_along_of_le_maxStep {v d : Vec K n} (nonneg : ∀ i, 0 ≤ v.get i) {t : K}
    (t_nonneg : 0 ≤ t) (t_le : t ≤ maxStep v d) (i : Fin n) :
    0 ≤ (v.along t d).get i := by
  rw [Vec.get_along]
  rcases le_total 0 (d.get i) with increasing | decreasing
  · exact add_nonneg (nonneg i) (mul_nonneg t_nonneg increasing)
  · have longest := neg_le_maxStep_mul nonneg (d := d) i
    have shorter := mul_le_mul_of_nonpos_right t_le decreasing
    linarith

/-- A share of a step, up to the whole, that keeps every entry nonnegative is at most the
longest. -/
theorem le_maxStep {v d : Vec K n} {t : K} (t_le_one : t ≤ 1)
    (kept : ∀ i, 0 ≤ (v.along t d).get i) : t ≤ maxStep v d := by
  rcases maxStep_cases v d with whole | ⟨i, decreasing, reached⟩
  · rw [whole]
    exact t_le_one
  · have remaining := kept i
    rw [Vec.get_along] at remaining
    have taken : -v.get i ≤ t * d.get i := neg_le_iff_add_nonneg'.mpr remaining
    rw [← reached]
    exact (le_div_iff_of_neg decreasing).mpr taken

/-- From a vector without negative entries, the longest step is the greatest share, up to the whole,
that keeps every entry nonnegative. -/
theorem isGreatest_maxStep {v : Vec K n} (nonneg : ∀ i, 0 ≤ v.get i) (d : Vec K n) :
    IsGreatest {t ∈ Set.Icc 0 1 | ∀ i, 0 ≤ (v.along t d).get i} (maxStep v d) := by
  constructor
  · have share_nonneg := maxStep_nonneg nonneg d
    exact ⟨⟨share_nonneg, maxStep_le_one v d⟩,
      nonneg_along_of_le_maxStep nonneg share_nonneg (le_refl _)⟩
  · rintro t ⟨⟨-, t_le_one⟩, kept⟩
    exact le_maxStep t_le_one kept

end PolyTrace
