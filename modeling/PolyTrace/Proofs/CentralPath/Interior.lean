import Mathlib
import PolyTrace.Proofs.Arith.Real
import PolyTrace.Proofs.CentralPath.Course

/-!
# The central path stays inside the region

From a point with positive slacks, every step of Newton's method leads to such a point again.  The
first line search leaves some room to every row, and the second one either accepts a point at which
the barrier has a value, which only points inside have, or falls back to the step of the first.

Newton's method converges only where the gradient is small.  A level therefore keeps a point that is
centred: inside the region, and nearly stationary for the barrier of that level.  Each level starts
at a point that an earlier one kept, or at the start of the path, so that skipped levels do no harm.
-/

namespace PolyTrace.CentralPath

/-! ## Inside the region -/

section Region

variable {K : Type} [ExactScalar K] {m n : Nat}

/-- Every row has a positive slack at the point. -/
def Interior (problem : Problem K m n) (x : Vec K n) : Prop :=
  ∀ i, 0 < (slacks problem x).get i

theorem get_slacks (problem : Problem K m n) (x : Vec K n) (i : Fin m) :
    (slacks problem x).get i = problem.b.get i - (problem.A.mulVec x).get i :=
  Vec.get_sub _ _ i

theorem interior_iff {problem : Problem K m n} {x : Vec K n} :
    Interior problem x ↔ ∀ i, (problem.A.mulVec x).get i < problem.b.get i := by
  simp only [Interior, get_slacks, sub_pos]

theorem interior_of_smallestSlack {problem : Problem K m n} {x : Vec K n} {slack : K}
    (smallest : smallestSlack problem x = .ok slack) (room : leastSlack < slack) :
    Interior problem x := by
  unfold smallestSlack at smallest
  split at smallest
  · rename_i attained
    cases smallest
    intro i
    calc
      0 < leastSlack := Scalar.unitAt_pos 12
      _ < slack := room
      _ ≤ (slacks problem x).get i := Vec.le_get_of_smallest? attained i
  · cases smallest

/-- The first line search stops inside the region. -/
theorem domainShare_interior {problem : Problem K m n} {x d : Vec K n} {fuel : Nat}
    {alpha share : K} (found : domainShare problem x d fuel alpha = .ok share) :
    Interior problem (x.along share d) := by
  induction fuel generalizing alpha with
  | zero => cases found
  | succ fuel inductionHypothesis =>
      unfold domainShare at found
      obtain ⟨slack, smallest, found⟩ := bind_eq_ok found
      split at found
      · rename_i room
        cases found
        exact interior_of_smallestSlack (ofFault_eq_ok smallest) room
      · exact inductionHypothesis found

/-- A value inside gains nothing from a step that leads outside. -/
theorem not_gains_outside (gain value : K) : gains gain (.inside value) .outside = false := by
  simp [gains, Scalar.BelowAll]

end Region

/-! ## The second line search -/

section Barrier

variable {m n : Nat} {problem : Weighted ℝ m n} {mu : ℝ} {x d : Vec ℝ n}

/-- The barrier has a value exactly inside the region. -/
theorem barrier_eq_outside_iff :
    barrier problem mu x = .outside ↔ ¬ Interior problem.toProblem x := by
  have touched : ((slacks problem.toProblem x).any fun slack => decide (slack ≤ 0)) = true ↔
      ¬ Interior problem.toProblem x := by
    simp only [Interior, Vector.any_eq_true, decide_eq_true_eq, not_forall, not_lt]
    constructor
    · rintro ⟨i, bound, low⟩
      exact ⟨⟨i, bound⟩, low⟩
    · rintro ⟨i, low⟩
      exact ⟨i.val, i.isLt, low⟩
  rw [← touched]
  unfold barrier
  dsimp only
  split <;> simp_all

theorem exists_barrier_eq_inside (mu : ℝ) (interior : Interior problem.toProblem x) :
    ∃ value, barrier problem mu x = .inside value := by
  cases taken : barrier problem mu x with
  | outside => exact absurd interior (barrier_eq_outside_iff.mp taken)
  | inside value => exact ⟨value, rfl⟩

theorem gainShare?_interior {slope : ℝ} {fuel : Nat} {alpha share : ℝ}
    (interior : Interior problem.toProblem x)
    (found : gainShare? problem mu x d slope fuel alpha = some share) :
    Interior problem.toProblem (x.along share d) := by
  induction fuel generalizing alpha with
  | zero => cases found
  | succ fuel inductionHypothesis =>
      unfold gainShare? at found
      split at found
      · split at found
        · rename_i gained
          cases found
          obtain ⟨value, inside⟩ := exists_barrier_eq_inside mu interior
          -- a point outside has no value, and is never accepted from a point that has one
          by_contra outside
          rw [inside, barrier_eq_outside_iff.mpr outside, not_gains_outside] at gained
          cases gained
        · exact inductionHypothesis found
      · cases found

/-- The second line search does not leave the region, also when it falls back to the first. -/
theorem armijoStep_interior {g : Vec ℝ n} {alpha : ℝ} (interior : Interior problem.toProblem x)
    (fallback : Interior problem.toProblem (x.along alpha d)) :
    Interior problem.toProblem (x.along (armijoStep problem mu x d g alpha) d) := by
  unfold armijoStep
  cases found : gainShare? problem mu x d (g.dot d) gainHalvings alpha with
  | none => exact fallback
  | some share => exact gainShare?_interior interior found

end Barrier

/-! ## Newton's method -/

section Newton

variable {m n : Nat} {problem : Weighted ℝ m n} {epsilon mu : ℝ} {x next last : Vec ℝ n}

/-- A step of Newton's method does not leave the region. -/
theorem newtonNext_interior {g : Vec ℝ n} (interior : Interior problem.toProblem x)
    (stepped : newtonNext problem mu x g = .ok next) : Interior problem.toProblem next := by
  unfold newtonNext at stepped
  obtain ⟨factors, -, stepped⟩ := bind_eq_ok stepped
  obtain ⟨alpha, searched, stepped⟩ := bind_eq_ok stepped
  cases stepped
  exact armijoStep_interior interior (domainShare_interior searched)

/-- A point inside the region at which the barrier of a level is nearly stationary. -/
structure Centred (problem : Weighted ℝ m n) (epsilon mu : ℝ) (x : Vec ℝ n) : Prop where
  interior : Interior problem.toProblem x
  stationary : ∀ j, |(gradient problem mu x).get j| ≤ epsilon

theorem abs_le_of_isStationary {g : Vec ℝ n} (judged : isStationary epsilon g = .ok true)
    (j : Fin n) : |g.get j| ≤ epsilon := by
  unfold isStationary at judged
  split at judged
  · rename_i value attained
    have small : value < epsilon := of_decide_eq_true (Except.ok.inj judged)
    exact (Vec.abs_get_le_of_largestAbs? attained j).trans small.le
  · cases judged

/-- Newton's method, started inside the region, converges to a centred point. -/
theorem Ascent.centred (ascent : Ascent problem epsilon mu x last)
    (interior : Interior problem.toProblem x) : Centred problem epsilon mu last := by
  induction ascent with
  | here stationary => exact ⟨interior, abs_le_of_isStationary stationary⟩
  | step stepped _ inductionHypothesis =>
      exact inductionHypothesis (newtonNext_interior interior stepped)

end Newton

/-! ## The levels -/

section Levels

variable {m n : Nat} {problem : Weighted ℝ m n} {options : Options ℝ} {mu : ℝ} {x : Vec ℝ n}

theorem schedule_pos {count : Nat} (scheduled : mu ∈ schedule count) : 0 < mu := by
  unfold schedule at scheduled
  split at scheduled
  · rw [List.mem_singleton] at scheduled
    rw [scheduled]
    exact Analytic.powTen_pos _
  · rw [List.mem_map] at scheduled
    obtain ⟨k, -, rfl⟩ := scheduled
    exact Analytic.powTen_pos _

/-- Every point kept along a course is centred for its level. -/
theorem Course.centred {tried : List ℝ} {start : Vec ℝ n} {found : List (Level ℝ n)}
    (course : Course options problem tried start found)
    (interior : Interior problem.toProblem start) {value : BarrierValue ℝ} {objective : ℝ}
    (kept : .kept mu x value objective ∈ found) :
    mu ∈ tried ∧ Centred problem options.epsilon mu x := by
  induction course with
  | finished => exact absurd kept List.not_mem_nil
  | kept converged _ inductionHypothesis =>
      have centred := (newton_ascent converged).centred interior
      rcases List.mem_cons.mp kept with here | later
      · cases here
        exact ⟨List.mem_cons_self, centred⟩
      · obtain ⟨member, found⟩ := inductionHypothesis centred.interior later
        exact ⟨List.mem_cons_of_mem _ member, found⟩
  | exhausted _ _ inductionHypothesis | failed _ _ inductionHypothesis =>
      rcases List.mem_cons.mp kept with here | later
      · cases here
      · obtain ⟨member, found⟩ := inductionHypothesis interior later
        exact ⟨List.mem_cons_of_mem _ member, found⟩

theorem trace_centred {start : Vec ℝ n} {path : Path ℝ n}
    (traced : trace options problem start = .ok path)
    (interior : Interior problem.toProblem start) {value : BarrierValue ℝ} {objective : ℝ}
    (kept : .kept mu x value objective ∈ path.levels) :
    0 < mu ∧ Centred problem options.epsilon mu x := by
  obtain ⟨-, course⟩ := trace_eq_ok_iff.mp traced
  obtain ⟨scheduled, centred⟩ := course.centred interior kept
  exact ⟨schedule_pos scheduled, centred⟩

end Levels

end PolyTrace.CentralPath
