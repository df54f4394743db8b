import Mathlib

/-!
# Half planes around the origin

Directions are counted round and round: after `count` of them a full turn is made.  Each bounds a
half plane that has the origin inside.  The half planes have a bounded intersection exactly when no
direction is followed by the next at an angle of `π` or more.  If all angles are smaller, every point
lies at an angle of less than `π / 2` to some direction, which keeps it from being far away; if one is
not, the ray in its middle leaves none of the half planes.
-/

namespace PolyTrace.Polygon

open Real

/-- The points of all half planes with the given directions and bounds. -/
def halfPlanes (direction bound : ℤ → ℝ) : Set (ℝ × ℝ) :=
  {p | ∀ k, cos (direction k) * p.1 + sin (direction k) * p.2 ≤ bound k}

/-- The directions ascend, and after `count` of them a full turn is made. -/
structure Rounds (direction : ℤ → ℝ) (count : ℕ) : Prop where
  monotone : Monotone direction
  turn : ∀ k, direction (k + count) = direction k + 2 * π

/-- The angle from a direction to the next. -/
def gap (direction : ℤ → ℝ) (k : ℤ) : ℝ :=
  direction (k + 1) - direction k

/-! ## Points by length and angle -/

/-- Every point has a length and an angle. -/
theorem exists_polar (p : ℝ × ℝ) : ∃ r φ, 0 ≤ r ∧ p = (r * cos φ, r * sin φ) := by
  refine ⟨‖(⟨p.1, p.2⟩ : ℂ)‖, Complex.arg ⟨p.1, p.2⟩, norm_nonneg _, ?_⟩
  rw [Complex.norm_mul_cos_arg, Complex.norm_mul_sin_arg]

/-- How far a point of the given length and angle reaches in a direction. -/
theorem reach_eq (θ r φ : ℝ) :
    cos θ * (r * cos φ) + sin θ * (r * sin φ) = r * cos (φ - θ) := by
  rw [cos_sub]
  ring

theorem norm_polar_le {r : ℝ} (nonneg : 0 ≤ r) (φ : ℝ) :
    ‖((r * cos φ, r * sin φ) : ℝ × ℝ)‖ ≤ r := by
  rw [Prod.norm_def, max_le_iff, norm_mul, norm_mul, norm_of_nonneg nonneg]
  exact ⟨mul_le_of_le_one_right nonneg (abs_cos_le_one φ),
    mul_le_of_le_one_right nonneg (abs_sin_le_one φ)⟩

/-- No point reaches further than twice its larger coordinate. -/
theorem reach_le (θ : ℝ) (p : ℝ × ℝ) : cos θ * p.1 + sin θ * p.2 ≤ 2 * ‖p‖ := by
  have first : cos θ * p.1 ≤ ‖p‖ := by
    calc
      cos θ * p.1 ≤ |cos θ * p.1| := le_abs_self _
      _ = |cos θ| * ‖p.1‖ := abs_mul _ _
      _ ≤ ‖p.1‖ := mul_le_of_le_one_left (norm_nonneg _) (abs_cos_le_one θ)
      _ ≤ ‖p‖ := norm_fst_le p
  have second : sin θ * p.2 ≤ ‖p‖ := by
    calc
      sin θ * p.2 ≤ |sin θ * p.2| := le_abs_self _
      _ = |sin θ| * ‖p.2‖ := abs_mul _ _
      _ ≤ ‖p.2‖ := mul_le_of_le_one_left (norm_nonneg _) (abs_sin_le_one θ)
      _ ≤ ‖p‖ := norm_snd_le p
  linarith

namespace Rounds

variable {direction : ℤ → ℝ} {count : ℕ} (rounds : Rounds direction count)
include rounds

theorem turns (j : ℕ) (k : ℤ) : direction (k + j * count) = direction k + j * (2 * π) := by
  induction j with
  | zero => simp
  | succ j inductionHypothesis =>
      have split : k + ((j + 1 : ℕ) : ℤ) * count = k + j * count + count := by
        push_cast
        ring
      rw [split, rounds.turn, inductionHypothesis]
      push_cast
      ring

/-- Every angle is reached by some direction, and some direction lies at or before it. -/
theorem exists_le_lt (φ : ℝ) : ∃ k, direction k ≤ φ ∧ φ < direction (k + 1) := by
  obtain ⟨j, high⟩ := exists_nat_gt ((φ - direction 0) / (2 * π))
  obtain ⟨i, low⟩ := exists_nat_gt ((direction 0 - φ) / (2 * π))
  rw [div_lt_iff₀ two_pi_pos] at high low
  have above : φ < direction (0 + j * count) := by
    rw [rounds.turns]
    linarith
  have below : direction (-(i * count : ℤ)) ≤ φ := by
    have turns := rounds.turns i (-(i * count : ℤ))
    rw [neg_add_cancel] at turns
    linarith
  have bounded : ∃ b, ∀ k, direction k ≤ φ → k ≤ b := by
    refine ⟨0 + j * count, fun k le => ?_⟩
    by_contra beyond
    exact absurd (rounds.monotone (le_of_not_ge beyond)) (not_le_of_gt (le.trans_lt above))
  obtain ⟨k, le, greatest⟩ := Int.exists_greatest_of_bdd bounded ⟨_, below⟩
  refine ⟨k, le, lt_of_not_ge fun next => ?_⟩
  exact absurd (greatest (k + 1) next) (not_le_of_gt (lt_add_one k))

/-- If no gap is wider than `width`, every angle is within half of that of some direction. -/
theorem exists_near {width : ℝ} (narrow : ∀ k, gap direction k ≤ width) (φ : ℝ) :
    ∃ k, |φ - direction k| ≤ width / 2 := by
  obtain ⟨k, le, lt⟩ := rounds.exists_le_lt φ
  have narrowHere := narrow k
  unfold gap at narrowHere
  rcases le_total (φ - direction k) (width / 2) with near | far
  · refine ⟨k, ?_⟩
    rw [abs_of_nonneg (sub_nonneg.mpr le)]
    exact near
  · refine ⟨k + 1, ?_⟩
    rw [abs_of_nonpos (sub_nonpos.mpr lt.le)]
    linarith

/-- The gaps come round again. -/
theorem periodic_gap : Function.Periodic (gap direction) (count : ℤ) := by
  intro k
  unfold gap
  rw [add_right_comm, rounds.turn, rounds.turn]
  ring

/-- If all gaps are smaller than `π`, the widest of them is. -/
theorem exists_width (positive : 0 < count) (narrow : ∀ k, gap direction k < π) :
    ∃ width < π, ∀ k, gap direction k ≤ width := by
  obtain ⟨widest, _, greatest⟩ := Finset.exists_max_image (Finset.Ico (0 : ℤ) count)
    (gap direction) ⟨0, Finset.mem_Ico.mpr ⟨le_refl 0, Int.natCast_pos.mpr positive⟩⟩
  refine ⟨gap direction widest, narrow widest, fun k => ?_⟩
  obtain ⟨i, within, same⟩ :=
    rounds.periodic_gap.exists_mem_Ico₀ (Int.natCast_pos.mpr positive) k
  rw [same]
  exact greatest i (Finset.mem_Ico.mpr within)

/-- In the middle of a gap of `π` or more no direction reaches out. -/
theorem cos_middle_nonpos (positive : 0 < count) {k : ℤ} (wide : π ≤ gap direction k) (l : ℤ) :
    cos (direction k + gap direction k / 2 - direction l) ≤ 0 := by
  have periodic : Function.Periodic
      (fun l => cos (direction k + gap direction k / 2 - direction l)) (count : ℤ) := by
    intro l
    dsimp only
    rw [rounds.turn, ← sub_sub, cos_sub_two_pi]
  obtain ⟨i, ⟨after, before⟩, same⟩ := periodic.exists_mem_Ioc (Int.natCast_pos.mpr positive) l k
  rw [same, ← cos_neg]
  have next : direction (k + 1) ≤ direction i := rounds.monotone after
  have last : direction i ≤ direction k + 2 * π := by
    rw [← rounds.turn]
    exact rounds.monotone before
  unfold gap at wide ⊢
  apply cos_nonpos_of_pi_div_two_le_of_le
  · linarith
  · linarith

end Rounds

/-! ## The intersection of the half planes -/

section HalfPlanes

variable {direction bound : ℤ → ℝ} {count : ℕ}

theorem mem_halfPlanes_polar (r φ : ℝ) :
    (r * cos φ, r * sin φ) ∈ halfPlanes direction bound ↔
      ∀ k, r * cos (φ - direction k) ≤ bound k :=
  forall_congr' fun k => by rw [reach_eq]

/-- Bounds of at least one leave the origin a neighbourhood. -/
theorem origin_mem_interior_halfPlanes (least : ∀ k, 1 ≤ bound k) :
    0 ∈ interior (halfPlanes direction bound) := by
  rw [mem_interior_iff_mem_nhds, Metric.mem_nhds_iff]
  refine ⟨1 / 2, by norm_num, fun p near k => ?_⟩
  rw [mem_ball_zero_iff] at near
  linarith [least k, reach_le (direction k) p]

/-- If no gap is wider than some width below `π`, no point is farther away than the greatest bound
over the cosine of half the width. -/
theorem norm_le_of_mem_halfPlanes (rounds : Rounds direction count) {width greatest : ℝ}
    (acute : width < π) (narrow : ∀ k, gap direction k ≤ width)
    (below : ∀ k, bound k ≤ greatest) {p : ℝ × ℝ} (member : p ∈ halfPlanes direction bound) :
    ‖p‖ ≤ greatest / cos (width / 2) := by
  obtain ⟨r, φ, nonneg, rfl⟩ := exists_polar p
  obtain ⟨k, near⟩ := rounds.exists_near narrow φ
  have halfWidth_nonneg : 0 ≤ width / 2 := (abs_nonneg _).trans near
  have cos_pos : 0 < cos (width / 2) := cos_pos_of_mem_Ioo ⟨by linarith [pi_pos], by linarith⟩
  have reach : cos (width / 2) ≤ cos (φ - direction k) := by
    rw [← cos_abs (φ - direction k)]
    exact cos_le_cos_of_nonneg_of_le_pi (abs_nonneg _) (by linarith) near
  refine (norm_polar_le nonneg φ).trans ((le_div_iff₀ cos_pos).mpr ?_)
  calc
    r * cos (width / 2) ≤ r * cos (φ - direction k) := mul_le_mul_of_nonneg_left reach nonneg
    _ ≤ bound k := (mem_halfPlanes_polar r φ).mp member k
    _ ≤ greatest := below k

/-- A gap of `π` or more leaves room for the ray in its middle. -/
theorem not_isBounded_of_gap (rounds : Rounds direction count) (positive : 0 < count)
    (nonneg : ∀ k, 0 ≤ bound k) {k : ℤ} (wide : π ≤ gap direction k) :
    ¬ Bornology.IsBounded (halfPlanes direction bound) := by
  rw [isBounded_iff_forall_norm_le]
  rintro ⟨far, within⟩
  set φ := direction k + gap direction k / 2
  set p := ((2 * |far| + 1) * cos φ, (2 * |far| + 1) * sin φ)
  have length_nonneg : 0 ≤ 2 * |far| + 1 := by positivity
  have member : p ∈ halfPlanes direction bound := by
    rw [mem_halfPlanes_polar]
    intro l
    exact (mul_nonpos_of_nonneg_of_nonpos length_nonneg
      (rounds.cos_middle_nonpos positive wide l)).trans (nonneg l)
  have reach := reach_le φ p
  rw [reach_eq, sub_self, cos_zero, mul_one] at reach
  linarith [within p member, le_abs_self far]

/-- The half planes with bounds between one and some greatest bound have a bounded intersection
exactly when all gaps are smaller than `π`. -/
theorem isBounded_halfPlanes_iff (rounds : Rounds direction count) (positive : 0 < count)
    {greatest : ℝ} (nonneg : ∀ k, 0 ≤ bound k) (below : ∀ k, bound k ≤ greatest) :
    Bornology.IsBounded (halfPlanes direction bound) ↔ ∀ k, gap direction k < π := by
  constructor
  · intro bounded k
    by_contra wide
    exact not_isBounded_of_gap rounds positive nonneg (le_of_not_gt wide) bounded
  · intro narrow
    obtain ⟨width, acute, narrowAll⟩ := rounds.exists_width positive narrow
    rw [isBounded_iff_forall_norm_le]
    exact ⟨_, fun p member => norm_le_of_mem_halfPlanes rounds acute narrowAll below member⟩

end HalfPlanes

end PolyTrace.Polygon
