import Mathlib
import PolyTrace.Instances.Polygon
import PolyTrace.Proofs.Arith.Real
import PolyTrace.Proofs.Instances.Directions

/-!
# When a random polygon is bounded

With exact cosines and sines and nothing rounded, the region of the rows always has the origin in its
interior.  A direction is moved by at most three tenths of the distance, so that the next one is at
most sixteen tenths of it away.  From four directions on this is less than half a turn, and the
region is bounded.  Three directions are a third of a turn apart, and the region is bounded exactly
when none of them is moved by half the distance less than the next.
-/

namespace PolyTrace.Polygon

open Real

/-- Directions in exact arithmetic, written down as they are. -/
noncomputable def exactCompass : Compass ℝ :=
  ⟨2 • π, Real.cos, Real.sin, id⟩

/-- The point satisfies a row of two coefficients and a bound. -/
def Satisfies (p : ℝ × ℝ) : List ℝ → Prop
  | [a, b, bound] => a * p.1 + b * p.2 ≤ bound
  | _ => False

/-- The points that satisfy all rows. -/
def region (rows : List (List ℝ)) : Set (ℝ × ℝ) :=
  {p | ∀ row ∈ rows, Satisfies p row}

/-- Shares and bounds as the random source may return them. -/
structure Drawn (jitters bounds : List ℝ) : Prop where
  length_eq : bounds.length = jitters.length
  jitter_le : ∀ jitter ∈ jitters, |jitter| ≤ (jitterLimit : ℝ)
  least_le : ∀ bound ∈ bounds, (leastBound : ℝ) ≤ bound
  le_greatest : ∀ bound ∈ bounds, bound ≤ (greatestBound : ℝ)

/-- The entries of a list, counted round and round. -/
def cyclic (values : List ℝ) (k : ℤ) : ℝ :=
  values.getD (k % values.length).toNat 0

theorem cyclic_natCast {values : List ℝ} {i : Nat} (within : i < values.length) :
    cyclic values i = values[i] := by
  have place : ((i : ℤ) % values.length).toNat = i := by
    rw [← Int.natCast_emod, Int.toNat_natCast, Nat.mod_eq_of_lt within]
  rw [cyclic, place, List.getD_eq_getElem _ _ within]

theorem periodic_cyclic (values : List ℝ) : Function.Periodic (cyclic values) values.length := by
  intro k
  rw [cyclic, cyclic, Int.add_emod_right]

theorem cyclic_mem {values : List ℝ} (positive : 0 < values.length) (k : ℤ) :
    cyclic values k ∈ values := by
  have count_pos : (0 : ℤ) < values.length := Int.natCast_pos.mpr positive
  have within : (k % values.length).toNat < values.length := by
    rw [Int.toNat_lt (Int.emod_nonneg k count_pos.ne')]
    exact Int.emod_lt_of_pos k count_pos
  rw [cyclic, List.getD_eq_getElem _ _ within]
  exact List.getElem_mem within

/-- The directions of the polygon, counted round and round. -/
noncomputable def direction (jitters : List ℝ) (k : ℤ) : ℝ :=
  (k + cyclic jitters k) * step exactCompass.turn jitters.length

theorem direction_eq (jitters : List ℝ) (k : ℤ) :
    direction jitters k = (k + cyclic jitters k) * (2 * π / jitters.length) := by
  have turn_eq : exactCompass.turn = 2 * π := nsmul_eq_mul 2 π
  have count_eq : (Scalar.ofRat (jitters.length : Rat) : ℝ) = jitters.length :=
    Rat.cast_natCast jitters.length
  rw [direction, step, turn_eq, count_eq]

/-! ## The rows and their half planes -/

theorem getElem?_angles {jitters : List ℝ} {i : Nat} (within : i < jitters.length) :
    (angles exactCompass.turn jitters)[i]? = some (direction jitters i) := by
  have index_eq : (Scalar.ofRat (i : Rat) : ℝ) = i := Rat.cast_natCast i
  rw [angles, List.getElem?_mapIdx, List.getElem?_eq_getElem within, Option.map_some, angle,
    index_eq, direction, cyclic_natCast within, Int.cast_natCast, add_mul]

theorem mem_rows_iff {jitters bounds : List ℝ} (length_eq : bounds.length = jitters.length)
    {row : List ℝ} :
    row ∈ exactCompass.rows jitters bounds ↔
      ∃ i < jitters.length, exactCompass.row (direction jitters i) (cyclic bounds i) = row := by
  have entry {i : Nat} (within : i < jitters.length) :
      (exactCompass.rows jitters bounds)[i]? =
        some (exactCompass.row (direction jitters i) (cyclic bounds i)) := by
    have withinBounds : i < bounds.length := length_eq ▸ within
    rw [Compass.rows, List.getElem?_zipWith, getElem?_angles within, List.getElem?_eq_getElem withinBounds,
      cyclic_natCast withinBounds]
  have length_rows : (exactCompass.rows jitters bounds).length = jitters.length := by
    rw [Compass.rows, List.length_zipWith, angles, List.length_mapIdx, length_eq, min_self]
  rw [List.mem_iff_getElem?]
  constructor
  · rintro ⟨i, found⟩
    have within : i < jitters.length := by
      rw [← length_rows]
      exact (List.getElem?_eq_some_iff.mp found).1
    rw [entry within] at found
    exact ⟨i, within, Option.some.inj found⟩
  · rintro ⟨i, within, rfl⟩
    exact ⟨i, entry within⟩

theorem direction_turn {jitters : List ℝ} (positive : 0 < jitters.length) (k : ℤ) :
    direction jitters (k + jitters.length) = direction jitters k + 2 * π := by
  have count_ne : (jitters.length : ℝ) ≠ 0 := Nat.cast_ne_zero.mpr positive.ne'
  rw [direction_eq, direction_eq, periodic_cyclic]
  push_cast
  field_simp
  ring

/-- The region of the rows is the intersection of the half planes of all directions. -/
theorem region_rows {jitters bounds : List ℝ} (length_eq : bounds.length = jitters.length)
    (positive : 0 < jitters.length) :
    region (exactCompass.rows jitters bounds) =
      halfPlanes (direction jitters) (cyclic bounds) := by
  have periodic : Function.Periodic (fun k => (cos (direction jitters k),
      sin (direction jitters k), cyclic bounds k)) (jitters.length : ℤ) := by
    intro k
    dsimp only
    rw [direction_turn positive, cos_add_two_pi, sin_add_two_pi, ← length_eq, periodic_cyclic]
  ext p
  constructor
  · intro member k
    obtain ⟨i, ⟨nonneg, less⟩, same⟩ :=
      periodic.exists_mem_Ico₀ (Int.natCast_pos.mpr positive) k
    obtain ⟨i, rfl⟩ := Int.eq_ofNat_of_zero_le nonneg
    simp only [Prod.mk.injEq] at same
    rw [same.1, same.2.1, same.2.2]
    exact member _ ((mem_rows_iff length_eq).mpr ⟨i, Int.ofNat_lt.mp less, rfl⟩)
  · intro member row listed
    obtain ⟨i, _, rfl⟩ := (mem_rows_iff length_eq).mp listed
    exact member i

/-! ## Neighbouring directions -/

theorem gap_direction (jitters : List ℝ) (k : ℤ) :
    gap (direction jitters) k =
      (1 + (cyclic jitters (k + 1) - cyclic jitters k)) * (2 * π / jitters.length) := by
  rw [gap, direction_eq, direction_eq]
  push_cast
  ring

/-- The gap after a direction is less than half a turn exactly when it is less than half as many
distances as there are directions. -/
theorem gap_direction_lt_iff {jitters : List ℝ} (positive : 0 < jitters.length) (k : ℤ) :
    gap (direction jitters) k < π ↔
      2 * (1 + (cyclic jitters (k + 1) - cyclic jitters k)) < jitters.length := by
  have count_pos : (0 : ℝ) < jitters.length := Nat.cast_pos.mpr positive
  have scaled : gap (direction jitters) k =
      2 * (1 + (cyclic jitters (k + 1) - cyclic jitters k)) * π / jitters.length := by
    rw [gap_direction]
    ring
  rw [scaled, div_lt_iff₀ count_pos, mul_comm π, mul_lt_mul_iff_left₀ pi_pos]

namespace Drawn

variable {jitters bounds : List ℝ} (drawn : Drawn jitters bounds)
include drawn

theorem abs_cyclic_le (positive : 0 < jitters.length) (k : ℤ) : |cyclic jitters k| ≤ 3 / 10 := by
  have limited := drawn.jitter_le _ (cyclic_mem positive k)
  rw [jitterLimit, Rat.mkRat_eq_div] at limited
  push_cast at limited
  exact limited

theorem one_le_cyclic (positive : 0 < jitters.length) (k : ℤ) : 1 ≤ cyclic bounds k := by
  have atLeast := drawn.least_le _ (cyclic_mem (by rw [drawn.length_eq]; exact positive) k)
  rw [leastBound, Rat.cast_one] at atLeast
  exact atLeast

theorem cyclic_le_greatestBound (positive : 0 < jitters.length) (k : ℤ) :
    cyclic bounds k ≤ greatestBound :=
  drawn.le_greatest _ (cyclic_mem (by rw [drawn.length_eq]; exact positive) k)

/-- Neighbouring directions are moved towards or away from each other by six tenths of the distance
at most. -/
theorem abs_cyclic_sub_le (positive : 0 < jitters.length) (k : ℤ) :
    |cyclic jitters (k + 1) - cyclic jitters k| ≤ 6 / 10 := by
  calc
    |cyclic jitters (k + 1) - cyclic jitters k| ≤ |cyclic jitters (k + 1)| + |cyclic jitters k| :=
      abs_sub _ _
    _ ≤ 3 / 10 + 3 / 10 :=
      add_le_add (drawn.abs_cyclic_le positive (k + 1)) (drawn.abs_cyclic_le positive k)
    _ = 6 / 10 := by norm_num

/-- Moved by three tenths of the distance at most, the directions keep their order. -/
theorem rounds (positive : 0 < jitters.length) : Rounds (direction jitters) jitters.length where
  monotone := by
    apply monotone_int_of_le_succ
    intro k
    have moved := neg_le_of_abs_le (drawn.abs_cyclic_sub_le positive k)
    have distance_pos : 0 < 2 * π / jitters.length :=
      div_pos two_pi_pos (Nat.cast_pos.mpr positive)
    have gap_nonneg : 0 ≤ gap (direction jitters) k := by
      rw [gap_direction]
      exact mul_nonneg (by linarith) distance_pos.le
    exact sub_nonneg.mp gap_nonneg
  turn := direction_turn positive

/-- The region is bounded exactly when no gap between neighbouring directions reaches half a
turn. -/
theorem isBounded_region_iff (positive : 0 < jitters.length) :
    Bornology.IsBounded (region (exactCompass.rows jitters bounds)) ↔
      ∀ k, 2 * (1 + (cyclic jitters (k + 1) - cyclic jitters k)) < jitters.length := by
  rw [region_rows drawn.length_eq positive,
    isBounded_halfPlanes_iff (drawn.rounds positive) positive
      (fun k => zero_le_one.trans (drawn.one_le_cyclic positive k))
      (drawn.cyclic_le_greatestBound positive)]
  exact forall_congr' (gap_direction_lt_iff positive)

/-- Sixteen tenths of a quarter turn are less than half a turn. -/
theorem isBounded_region_of_four_le (four : 4 ≤ jitters.length) :
    Bornology.IsBounded (region (exactCompass.rows jitters bounds)) := by
  have positive : 0 < jitters.length := by omega
  have count_ge : (4 : ℝ) ≤ jitters.length := by exact_mod_cast four
  rw [drawn.isBounded_region_iff positive]
  intro k
  linarith [le_of_abs_le (drawn.abs_cyclic_sub_le positive k)]

/-- Half a turn is half as much again as a third of a turn. -/
theorem isBounded_region_three_iff (three : jitters.length = 3) :
    Bornology.IsBounded (region (exactCompass.rows jitters bounds)) ↔
      ∀ k, cyclic jitters (k + 1) - cyclic jitters k < 1 / 2 := by
  have positive : 0 < jitters.length := by omega
  have count_eq : (jitters.length : ℝ) = 3 := by exact_mod_cast three
  rw [drawn.isBounded_region_iff positive, count_eq]
  apply forall_congr'
  intro k
  constructor <;> intro narrow <;> linarith

end Drawn

/-- Whatever the random source returns, the region of the rows of three directions or more has the
origin in its interior.  It is bounded if there are four directions or more, and three directions
have a bounded region exactly when none of them is moved by half the distance less than the next. -/
theorem region_around_origin {jitters bounds : List ℝ} (drawn : Drawn jitters bounds)
    (three : 3 ≤ jitters.length) :
    0 ∈ interior (region (exactCompass.rows jitters bounds)) ∧
      (Bornology.IsBounded (region (exactCompass.rows jitters bounds)) ↔
        4 ≤ jitters.length ∨ ∀ k, cyclic jitters (k + 1) - cyclic jitters k < 1 / 2) := by
  have positive : 0 < jitters.length := by omega
  constructor
  · rw [region_rows drawn.length_eq positive]
    exact origin_mem_interior_halfPlanes (drawn.one_le_cyclic positive)
  · rcases three.eq_or_lt with exactly | more
    · rw [drawn.isBounded_region_three_iff exactly.symm]
      constructor
      · exact Or.inr
      · rintro (four | close)
        · omega
        · exact close
    · constructor
      · intro _
        exact Or.inl more
      · intro _
        exact drawn.isBounded_region_of_four_le more

/-- Three directions of which none is moved by half the distance less than the next. -/
theorem closeShares_around_origin :
    Drawn [1 / 5, 0, 1 / 10] [1, 2, 5] ∧ 3 ≤ ([1 / 5, 0, 1 / 10] : List ℝ).length ∧
      0 ∈ interior (region (exactCompass.rows [1 / 5, 0, 1 / 10] [1, 2, 5])) ∧
      Bornology.IsBounded (region (exactCompass.rows [1 / 5, 0, 1 / 10] [1, 2, 5])) := by
  have drawn : Drawn [1 / 5, 0, 1 / 10] [1, 2, 5] := by
    constructor <;> norm_num [jitterLimit, leastBound, greatestBound, abs_le]
  have three : 3 ≤ ([1 / 5, 0, 1 / 10] : List ℝ).length := le_refl 3
  have share_mem (k : ℤ) : cyclic [1 / 5, 0, 1 / 10] k ∈ Set.Icc (0 : ℝ) (1 / 5) := by
    have listed := cyclic_mem (show 0 < ([1 / 5, 0, 1 / 10] : List ℝ).length by decide) k
    simp only [List.mem_cons, List.not_mem_nil, or_false] at listed
    rcases listed with same | same | same <;> rw [same] <;> norm_num
  have close (k : ℤ) :
      cyclic [1 / 5, 0, 1 / 10] (k + 1) - cyclic [1 / 5, 0, 1 / 10] k < (1 / 2 : ℝ) := by
    linarith [(share_mem k).1, (share_mem (k + 1)).2]
  obtain ⟨inside, bounded_iff⟩ := region_around_origin drawn three
  exact ⟨drawn, three, inside, bounded_iff.mpr (Or.inr close)⟩

/-- The shares and bounds that the random source returns for three rows and the seed two: the last
direction is moved back and the first forward, by more than half the distance together. -/
theorem seedTwo_not_isBounded :
    let jitters : List ℝ := [4929109864676637 / 2 ^ 54, 4840405689232203 / 2 ^ 54,
      -4793076228152401 / 2 ^ 54]
    let bounds : List ℝ := [754064696307267 / 2 ^ 49, 152770385720465 / 2 ^ 45,
      8880828150734987 / 2 ^ 51]
    Drawn jitters bounds ∧ jitters.length = 3 ∧
      ¬ Bornology.IsBounded (region (exactCompass.rows jitters bounds)) := by
  intro jitters bounds
  have drawn : Drawn jitters bounds := by
    constructor <;>
      norm_num [jitters, bounds, jitterLimit, leastBound, greatestBound, abs_le]
  refine ⟨drawn, rfl, fun bounded => ?_⟩
  have first : cyclic jitters (2 + 1) = 4929109864676637 / 2 ^ 54 := by simp [cyclic, jitters]
  have last : cyclic jitters 2 = -4793076228152401 / 2 ^ 54 := cyclic_natCast (by decide)
  have narrow := (drawn.isBounded_region_three_iff rfl).mp bounded 2
  rw [first, last] at narrow
  norm_num at narrow

end PolyTrace.Polygon
