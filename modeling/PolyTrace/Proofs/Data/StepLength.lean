import Mathlib
import PolyTrace.Proofs.Data.LinearSystem
import PolyTrace.Proofs.Linear.StepLength

/-!
# The longest step between arrays of one length

Two arrays that are vectors of the same length have a longest step, and it is the one that the
engines take.  Over an exact arithmetic it is the greatest share of the step, up to the whole, that
keeps every entry nonnegative.
-/

namespace PolyTrace

section Vectors

variable {K : Type} [Scalar K] {n : Nat}

/-- A step in which no entry decreases is taken as a whole. -/
theorem maxStep_eq_one {d : Vec K n} (v : Vec K n) (steady : ∀ i, ¬ d.get i < 0) :
    maxStep v d = 1 := by
  have unlimited : stepRatios v d = [] := by
    rw [stepRatios, List.filterMap_eq_nil_iff]
    intro i _
    exact if_neg (steady i)
  rw [maxStep, unlimited, leastShare]

/-- The longest step between the entries of two arrays is the one between their vectors. -/
theorem maxStep_flat (v d : Vec K n) :
    maxStep (Tensor.segment (Tensor.ofVec v).entries 0 (Tensor.ofVec d).entries.size)
      (Tensor.ofVec d).flat = maxStep v d := by
  obtain ⟨entries, rfl⟩ := d
  exact congrArg (fun u => maxStep u _) (Tensor.segment_ofVec v)

/-- Vectors of one length have a longest step. -/
theorem maxStepArray_ofVec (v d : Vec K n) :
    maxStepArray (.ofVec v) (.ofVec d) = .ok (maxStep v d) := by
  have size : (Tensor.ofVec d).size = n := d.size_toArray
  have shape : (Tensor.ofVec d).shape = (Tensor.ofVec v).shape := rfl
  cases found : (List.range (Tensor.ofVec d).size).filter fun i =>
      decide ((Tensor.ofVec d).entries.getD i 0 < 0) with
  | nil =>
      have steady : ∀ i, ¬ d.get i < 0 := by
        intro i decreasing
        have within : i.val ∈ List.range (Tensor.ofVec d).size := by
          rw [size]
          exact List.mem_range.mpr i.isLt
        apply List.filter_eq_nil_iff.mp found i.val within
        rw [Tensor.getD_entries_ofVec]
        exact decide_eq_true decreasing
      simp only [maxStepArray, found, maxStep_eq_one v steady]
  | cons first rest =>
      simp only [maxStepArray, found, shape, if_true, maxStep_flat]

end Vectors

variable {K : Type} [ExactScalar K] {n : Nat}

/-- For a vector without negative entries and a step of the same length, the longest step is found:
it is the greatest share, up to the whole, that keeps every entry nonnegative.  It is positive if
every entry is. -/
theorem maxStepArray_isGreatest {v : Vec K n} (nonneg : ∀ i, 0 ≤ v.get i) (d : Vec K n) :
    maxStepArray (.ofVec v) (.ofVec d) = .ok (maxStep v d) ∧
    IsGreatest {t ∈ Set.Icc 0 1 | ∀ i, 0 ≤ (v.along t d).get i} (maxStep v d) ∧
    ((∀ i, 0 < v.get i) → 0 < maxStep v d) := by
  refine ⟨maxStepArray_ofVec v d, isGreatest_maxStep nonneg d, ?_⟩
  intro positive
  exact maxStep_pos positive d

/-- Three positive entries. -/
def tripleStart : Vec Rat 3 :=
  #v[2, 3, 1]

/-- A step that lowers two of three entries. -/
def tripleStep : Vec Rat 3 :=
  #v[-1, -12, 4]

/-- A quarter of the step lowers the second entry to zero, and no larger share keeps it
nonnegative. -/
theorem tripleStep_isGreatest :
    (∀ i, 0 < tripleStart.get i) ∧
    maxStepArray (.ofVec tripleStart) (.ofVec tripleStep) = .ok (1 / 4) ∧
    IsGreatest {t ∈ Set.Icc 0 1 | ∀ i, 0 ≤ (tripleStart.along t tripleStep).get i} (1 / 4) ∧
    0 < maxStep tripleStart tripleStep := by
  have positive : ∀ i, 0 < tripleStart.get i := by decide +kernel
  have quarter : maxStep tripleStart tripleStep = 1 / 4 := by decide +kernel
  obtain ⟨found, greatest, inside⟩ :=
    maxStepArray_isGreatest (fun i => (positive i).le) tripleStep
  rw [quarter] at found greatest
  exact ⟨positive, found, greatest, inside positive⟩

/-- An entry that is zero and decreases leaves no share of the step. -/
example : maxStep (#v[2, 0] : Vec Rat 2) #v[1, -1] = 0 := by
  decide +kernel

end PolyTrace
