import Mathlib
import PolyTrace.Problem.Load
import PolyTrace.Proofs.CentralPath.Suboptimality

/-!
# Where a path may start

A step of Newton's method ends inside the region from wherever it is taken: the first line search
asks for room to every row, and from outside, where the barrier has no value, the second one accepts
the step of the first.  But a level that finds the gradient small where it starts takes no step.  A
kept point therefore lies inside the region, or it is the start of the path, kept although it lies
outside.

The mean of points of the region lies inside unless all of them lie on one row, and so does the
centre of a ball in the region, so that paths from there stay inside.
-/

namespace PolyTrace.CentralPath

/-! ## Steps from anywhere -/

section Steps

variable {m n : Nat} {problem : Weighted ℝ m n} {mu : ℝ} {x d : Vec ℝ n}

/-- From outside every step gains enough. -/
theorem gains_from_outside (gain : ℝ) (next : BarrierValue ℝ) :
    gains gain .outside next = true := by
  cases next <;> simp [gains]

/-- From outside the second line search takes the step of the first. -/
theorem armijoStep_of_outside (outside : ¬ Interior problem.toProblem x) (g : Vec ℝ n)
    (alpha : ℝ) : armijoStep problem mu x d g alpha = alpha := by
  unfold armijoStep gainHalvings gainShare?
  rw [barrier_eq_outside_iff.mpr outside, gains_from_outside, if_pos rfl]
  split <;> rfl

/-- A step of Newton's method ends inside the region. -/
theorem interior_of_newtonNext {g next : Vec ℝ n}
    (stepped : newtonNext problem mu x g = .ok next) : Interior problem.toProblem next := by
  by_cases interior : Interior problem.toProblem x
  · exact newtonNext_interior interior stepped
  · unfold newtonNext at stepped
    obtain ⟨factors, -, stepped⟩ := bind_eq_ok stepped
    obtain ⟨alpha, searched, stepped⟩ := bind_eq_ok stepped
    cases stepped
    rw [armijoStep_of_outside interior]
    exact domainShare_interior searched

/-- Newton's method stays where it is or converges inside the region. -/
theorem Ascent.eq_or_interior {epsilon : ℝ} {last : Vec ℝ n}
    (ascent : Ascent problem epsilon mu x last) : last = x ∨ Interior problem.toProblem last := by
  induction ascent with
  | here _ => exact .inl rfl
  | step stepped _ inductionHypothesis =>
      rcases inductionHypothesis with unmoved | interior
      · rw [unmoved]
        exact .inr (interior_of_newtonNext stepped)
      · exact .inr interior

/-- Every point kept along a course lies inside the region or is where the course starts, and what
is recorded with it is its barrier. -/
theorem Course.eq_start_or_interior {options : Options ℝ} {tried : List ℝ} {start : Vec ℝ n}
    {found : List (Level ℝ n)} (course : Course options problem tried start found)
    {value : BarrierValue ℝ} {objective : ℝ} (kept : .kept mu x value objective ∈ found) :
    value = barrier problem mu x ∧ (x = start ∨ Interior problem.toProblem x) := by
  induction course with
  | finished => exact absurd kept List.not_mem_nil
  | kept converged _ inductionHypothesis =>
      rcases List.mem_cons.mp kept with here | later
      · cases here
        exact ⟨rfl, (newton_ascent converged).eq_or_interior⟩
      · obtain ⟨value_eq, rfl | interior⟩ := inductionHypothesis later
        · exact ⟨value_eq, (newton_ascent converged).eq_or_interior⟩
        · exact ⟨value_eq, .inr interior⟩
  | exhausted _ _ inductionHypothesis | failed _ _ inductionHypothesis =>
      rcases List.mem_cons.mp kept with here | later
      · cases here
      · exact inductionHypothesis later

end Steps

/-! ## The mean of some points -/

section Mean

variable {m n k : Nat}

theorem get_mean (points : Mat ℝ k n) (j : Fin n) :
    (mean points).get j = (∑ l, (points.get l).get j) / k := by
  rw [mean, Vec.get_ofFn, Vec.sum_eq]
  simp [Scalar.ofRat]

/-- A row at the mean of some points is the mean of the row at the points. -/
theorem mulVec_mean (A : Mat ℝ m n) (points : Mat ℝ k n) (i : Fin m) :
    (A.mulVec (mean points)).get i = (∑ l, (A.mulVec (points.get l)).get i) / k := by
  simp only [Mat.get_mulVec_eq_sum, get_mean]
  rw [Finset.sum_comm, Finset.sum_div]
  refine Finset.sum_congr rfl fun j _ => ?_
  rw [mul_div_assoc', Finset.mul_sum]

/-- A row that holds at all points, and strictly at one, holds strictly at their mean. -/
theorem mulVec_mean_lt {A : Mat ℝ m n} {points : Mat ℝ k n} {i : Fin m} {bound : ℝ}
    (within : ∀ l, (A.mulVec (points.get l)).get i ≤ bound)
    (apart : ∃ l, (A.mulVec (points.get l)).get i < bound) :
    (A.mulVec (mean points)).get i < bound := by
  obtain ⟨l, strict⟩ := apart
  have positive : (0 : ℝ) < k := Nat.cast_pos.mpr l.pos
  have total : ∑ l, (A.mulVec (points.get l)).get i < ∑ _ : Fin k, bound :=
    Finset.sum_lt_sum (fun l _ => within l) ⟨l, Finset.mem_univ l, strict⟩
  rw [Finset.sum_const, Finset.card_univ, Fintype.card_fin, nsmul_eq_mul] at total
  rw [mulVec_mean, div_lt_iff₀ positive, mul_comm]
  exact total

end Mean

section Centroid

variable {K : Type} [Scalar K] {k n : Nat} {vertices : Tensor K}

theorem isCount_whole_iff {n count : Nat} :
    (Amount.whole n).isCount count = true ↔ count = n := by
  simp [Amount.isCount, Amount.value?, eq_comm]

theorem shape_of_toMat? {points : Mat K k n} (given : vertices.toMat? k n = some points) :
    vertices.shape = [k, n] := by
  unfold Tensor.toMat? at given
  split at given
  · assumption
  · cases given

/-- The centroid of vertices that are a matrix of points is the mean of the points. -/
theorem centroid_of_toMat? {points : Mat K k n} (given : vertices.toMat? k n = some points)
    (filled : vertices.size ≠ 0) :
    centroid vertices (some (.whole n)) = .ok (.ofVec (mean points)) := by
  unfold centroid
  rw [if_neg filled, shape_of_toMat? given]
  simp only [if_pos (isCount_whole_iff.mpr rfl), given]

/-- Vertices that have a centroid of `n` coordinates are a matrix of points. -/
theorem exists_points_of_centroid {centre : Tensor K}
    (accepted : centroid vertices (some (.whole n)) = .ok centre) :
    ∃ (k : Nat) (points : Mat K k n), vertices.toMat? k n = some points ∧
      centre = .ofVec (mean points) := by
  unfold centroid at accepted
  split at accepted
  · cases accepted
  · split at accepted
    · dsimp only at accepted
      split at accepted
      · rename_i counted
        cases isCount_whole_iff.mp counted
        split at accepted
        · rename_i points given
          cases accepted
          exact ⟨_, points, given, rfl⟩
        · cases accepted
      · cases accepted
    · cases accepted

theorem eq_mean_of_centroid {points : Mat K k n} {start : Vec K n}
    (given : vertices.toMat? k n = some points)
    (accepted : centroid vertices (some (.whole n)) = .ok (.ofVec start)) :
    start = mean points := by
  obtain ⟨k', points', given', centre_eq⟩ := exists_points_of_centroid accepted
  have count_eq : k = k' := by
    simpa using (shape_of_toMat? given).symm.trans (shape_of_toMat? given')
  subst count_eq
  cases given.symm.trans given'
  exact Vector.toArray_inj.mp (congrArg Tensor.entries centre_eq)

end Centroid

/-! ## The kept points of a path -/

variable {m n : Nat}

/-- A row that leaves room for a ball holds strictly at its centre. -/
theorem mulVec_lt_of_ball {A : Mat ℝ m n} {x : Vec ℝ n} {i : Fin m} {bound radius : ℝ}
    (radius_pos : 0 < radius) (nonzero : (A.get i).norm ≠ 0)
    (room : (A.mulVec x).get i + radius * (A.get i).norm ≤ bound) : (A.mulVec x).get i < bound := by
  have norm_pos : 0 < (A.get i).norm := (Vec.norm_nonneg _).lt_of_ne' nonzero
  linarith [mul_pos radius_pos norm_pos]

/-- Every point kept along a path satisfies strictly all rows whose weight is not zero, or it is the
start of the path, which lies outside.  The start lies inside if it is the centroid of vertices that
satisfy these rows, not all of them on the same one, or the centre of a ball within these rows. -/
theorem trace_kept_inside_or_start {problem : Problem ℝ m n} {options : Options ℝ} {w : Vec ℝ m}
    {start : Vec ℝ n} {path : Path ℝ n}
    (traced : trace options (Weighted.reduced ⟨problem, w⟩) start = .ok path)
    {mu : ℝ} {x : Vec ℝ n} {value : BarrierValue ℝ} {objective : ℝ}
    (kept : .kept mu x value objective ∈ path.levels) :
    ((∀ i, w.get i ≠ 0 → (problem.A.mulVec x).get i < problem.b.get i) ∨
        x = start ∧ value = .outside) ∧
      (∀ (vertices : Tensor ℝ) (k : Nat) (points : Mat ℝ k n),
        vertices.toMat? k n = some points →
        centroid vertices (some (.whole n)) = .ok (.ofVec start) →
        (∀ i, w.get i ≠ 0 → (∀ l, (problem.A.mulVec (points.get l)).get i ≤ problem.b.get i) ∧
          ∃ l, (problem.A.mulVec (points.get l)).get i < problem.b.get i) →
        ∀ i, w.get i ≠ 0 → (problem.A.mulVec x).get i < problem.b.get i) ∧
      ∀ radius, 0 < radius →
        (∀ i, w.get i ≠ 0 → (problem.A.get i).norm ≠ 0 ∧
          (problem.A.mulVec start).get i + radius * (problem.A.get i).norm ≤ problem.b.get i) →
        ∀ i, w.get i ≠ 0 → (problem.A.mulVec x).get i < problem.b.get i := by
  obtain ⟨-, course⟩ := trace_eq_ok_iff.mp traced
  obtain ⟨rfl, place⟩ := course.eq_start_or_interior kept
  -- from a start inside, neither alternative leads outside
  have inside_of_start :
      (∀ i, w.get i ≠ 0 → (problem.A.mulVec start).get i < problem.b.get i) →
        ∀ i, w.get i ≠ 0 → (problem.A.mulVec x).get i < problem.b.get i := by
    intro inside
    rcases place with rfl | interior
    · exact inside
    · exact interior_reduced_iff.mp interior
  refine ⟨?_, fun vertices k points given accepted surrounding => ?_,
    fun radius radius_pos room => ?_⟩
  · by_cases interior : Interior (Weighted.reduced ⟨problem, w⟩).toProblem x
    · exact .inl (interior_reduced_iff.mp interior)
    · exact .inr ⟨place.resolve_right interior, barrier_eq_outside_iff.mpr interior⟩
  · apply inside_of_start
    intro i weighted
    obtain ⟨within, apart⟩ := surrounding i weighted
    rw [eq_mean_of_centroid given accepted]
    exact mulVec_mean_lt within apart
  · apply inside_of_start
    intro i weighted
    obtain ⟨nonzero, room⟩ := room i weighted
    exact mulVec_lt_of_ball radius_pos nonzero room

/-- Two points around one tenth, which satisfy the first two balanced rows. -/
noncomputable def balancedEnds : Tensor ℝ :=
  ⟨[2, 1], #[7 / 40, 1 / 40]⟩

theorem balancedEnds_toMat? : balancedEnds.toMat? 2 1 = some #v[#v[7 / 40], #v[1 / 40]] := by
  simp [Tensor.toMat?, Tensor.segment, balancedEnds, Vector.ofFn, Array.ofFn_succ]

theorem balancedEnds_centroid :
    centroid balancedEnds (some (.whole 1)) = .ok (.ofVec #v[1 / 10]) := by
  have tenth : mean (#v[#v[7 / 40], #v[1 / 40]] : Mat ℝ 2 1) = #v[1 / 10] := by
    apply Vec.ext_get
    simp [get_mean, Fin.sum_univ_succ]
    norm_num
  rw [← tenth]
  exact centroid_of_toMat? balancedEnds_toMat? (by simp [balancedEnds, Tensor.size])

/-- From the mean of the two points, a step reaches the origin, which the level `1000` keeps and
which lies inside. -/
theorem balanced_kept_inside : ∃ path,
    trace oneLevel weightedBalanced.reduced #v[1 / 10] = .ok path ∧
      (∃ value objective, .kept 1000 #v[0] value objective ∈ path.levels) ∧
      balancedEnds.toMat? 2 1 = some #v[#v[7 / 40], #v[1 / 40]] ∧
      centroid balancedEnds (some (.whole 1)) = .ok (.ofVec #v[1 / 10]) ∧
      (∀ i, (#v[1, 9, 0] : Vec ℝ 3).get i ≠ 0 →
        (balanced.A.mulVec #v[0]).get i < balanced.b.get i) := by
  obtain ⟨path, traced, value, objective, kept⟩ := balanced_trace
  refine ⟨path, traced, ⟨value, objective, kept⟩, balancedEnds_toMat?, balancedEnds_centroid, ?_⟩
  refine (trace_kept_inside_or_start traced kept).2.1 balancedEnds 2 _ balancedEnds_toMat?
    balancedEnds_centroid ?_
  simp [Fin.forall_fin_succ, Fin.exists_fin_succ, Mat.get_mulVec_eq_sum, balanced]
  norm_num

/-- The points from zero to one, with an objective that makes the barrier of the level `1000`
stationary at the point `2` beyond them. -/
noncomputable def overshot : Problem ℝ 2 1 where
  A := #v[#v[8], #v[-8]]
  b := #v[8, 0]
  c := #v[-1500]

/-- Settings with one level and no weights. -/
noncomputable def unweightedLevel : Options ℝ :=
  { oneLevel with weights := none }

theorem overshot_gradient :
    gradient (Weighted.reduced ⟨overshot, Vec.ones 2⟩) 1000 #v[2] = #v[0] := by
  rw [gradient_reduced]
  apply Vec.ext_get
  rw [Fin.forall_fin_one]
  simp only [gradient, Vec.get_sub, Vec.get_scale, Mat.get_transposeMulVec_eq_sum, Vec.get_div,
    get_slacks, Mat.get_mulVec_eq_sum, Vec.get_ones]
  simp [overshot, Fin.sum_univ_succ]
  norm_num

/-- The path from the centroid of the single vertex `2` keeps that vertex, at which the first row
does not hold. -/
theorem overshot_kept_outside :
    weightVector 2 unweightedLevel.weights = .ok (Vec.ones 2) ∧
      centroid (⟨[1, 1], #[2]⟩ : Tensor ℝ) (some (.whole 1)) = .ok (.ofVec #v[2]) ∧
      ∃ path objective,
        trace unweightedLevel (Weighted.reduced ⟨overshot, Vec.ones 2⟩) #v[2] = .ok path ∧
          .kept 1000 #v[2] .outside objective ∈ path.levels ∧
          ¬ (overshot.A.mulVec #v[2]).get 0 < overshot.b.get 0 := by
  have beyond : ¬ (overshot.A.mulVec #v[2]).get 0 < overshot.b.get 0 := by
    simp [Mat.get_mulVec_eq_sum, overshot]
  have outside : barrier (Weighted.reduced ⟨overshot, Vec.ones 2⟩) 1000 #v[2] = .outside := by
    refine barrier_eq_outside_iff.mpr fun interior => beyond ?_
    exact interior_reduced_iff.mp interior 0 (by simp [Vec.get_ones])
  have stationary : isStationary unweightedLevel.epsilon
      (gradient (Weighted.reduced ⟨overshot, Vec.ones 2⟩) 1000 #v[2]) = .ok true := by
    rw [overshot_gradient, isStationary_single]
    norm_num [unweightedLevel, oneLevel]
  have converged : newton (Weighted.reduced ⟨overshot, Vec.ones 2⟩) unweightedLevel.epsilon 1000
      unweightedLevel.maxit #v[2] = .ok (.converged #v[2]) :=
    newton_of_isStationary stationary
  have course := Course.kept converged (.finished #v[2])
  rw [← schedule_one, outside] at course
  have vertex : (⟨[1, 1], #[2]⟩ : Tensor ℝ).toMat? 1 1 = some #v[#v[2]] := by
    simp [Tensor.toMat?, Tensor.segment, Vector.ofFn, Array.ofFn_succ]
  have centre : mean (#v[#v[2]] : Mat ℝ 1 1) = #v[2] := by
    apply Vec.ext_get
    simp [get_mean]
  refine ⟨rfl, ?_, ⟨_, _⟩, _, trace_eq_ok_iff.mpr ⟨rfl, course⟩, List.mem_cons_self, beyond⟩
  rw [← centre]
  exact centroid_of_toMat? vertex (by simp [Tensor.size])

end PolyTrace.CentralPath
