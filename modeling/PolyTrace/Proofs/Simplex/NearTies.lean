import Mathlib
import PolyTrace.Proofs.Simplex.RatioTest

/-!
# Ratios that are nearly equal

The rule for ties gives the exchange to the row of the smallest column among the steep rows whose
ratio is within the tolerance of the least one.  The scan compares a ratio with that of the best row
so far, and being within the tolerance is not transitive: it finds the row of the rule when the
least ratio is set apart, so that no ratio lies above it by more than the tolerance and at most
twice the tolerance.  When the columns ascend it finds, in any case, a row whose ratio is within the
tolerance of the least one and smaller than those of the steep rows before it.
-/

namespace PolyTrace.Simplex

variable {K : Type} [ExactScalar K] {m : Nat}

/-- The ratios of the steep rows. -/
def steepRatios (tol : K) (values direction : Vec K m) : Set K :=
  {ratio | ∃ i, tol < direction.get i ∧ rowRatio values direction i = ratio}

/-- The ratio of a steep row that no steep row undercuts is the least. -/
theorem isLeast_steepRatios {tol least : K} {values direction : Vec K m} (row : Fin m)
    (steep : tol < direction.get row) (attained : rowRatio values direction row = least)
    (smallest : ∀ i, tol < direction.get i → least ≤ rowRatio values direction i) :
    IsLeast (steepRatios tol values direction) least := by
  constructor
  · exact ⟨row, steep, attained⟩
  · rintro _ ⟨i, steepI, rfl⟩
    exact smallest i steepI

theorem exists_isLeast_steepRatios {tol : K} {direction : Vec K m}
    (steep : ∃ i, tol < direction.get i) (values : Vec K m) :
    ∃ least, IsLeast (steepRatios tol values direction) least := by
  rcases steep with ⟨i, steep⟩
  have nonempty : (Finset.univ.filter fun i => tol < direction.get i).Nonempty :=
    ⟨i, Finset.mem_filter.mpr ⟨Finset.mem_univ i, steep⟩⟩
  rcases Finset.exists_min_image _ (rowRatio values direction) nonempty with ⟨row, member, smallest⟩
  refine ⟨rowRatio values direction row,
    isLeast_steepRatios row (Finset.mem_filter.mp member).2 rfl ?_⟩
  intro k steepK
  exact smallest k (Finset.mem_filter.mpr ⟨Finset.mem_univ k, steepK⟩)

/-- The row that the rule for ties names: the row of the smallest column among the steep rows whose
ratio is within the tolerance of the least one. -/
structure WinsTie (tol : K) (values direction : Vec K m) (index : Fin m → Nat) (least : K)
    (row : Fin m) : Prop where
  steep : tol < direction.get row
  near : rowRatio values direction row ≤ least + tol
  first : ∀ i, tol < direction.get i → rowRatio values direction i ≤ least + tol →
    index row ≤ index i

instance WinsTie.instDecidable (tol : K) (values direction : Vec K m) (index : Fin m → Nat)
    (least : K) (row : Fin m) : Decidable (WinsTie tol values direction index least row) :=
  decidable_of_iff
    (tol < direction.get row ∧ rowRatio values direction row ≤ least + tol ∧
      ∀ i, tol < direction.get i → rowRatio values direction i ≤ least + tol →
        index row ≤ index i)
    ⟨fun ⟨steep, near, first⟩ => ⟨steep, near, first⟩,
      fun wins => ⟨wins.steep, wins.near, wins.first⟩⟩

/-- Different columns leave only one row to the rule. -/
theorem WinsTie.unique {tol least : K} {values direction : Vec K m} {index : Fin m → Nat}
    (distinct : Function.Injective index) {row k : Fin m}
    (wins : WinsTie tol values direction index least row)
    (wins' : WinsTie tol values direction index least k) : row = k :=
  distinct (le_antisymm (wins.first k wins'.steep wins'.near) (wins'.first row wins.steep wins.near))

/-- No steep ratio lies above the least one by more than the tolerance and at most twice the
tolerance. -/
def SetApart (tol : K) (values direction : Vec K m) (least : K) : Prop :=
  ∀ i, tol < direction.get i →
    rowRatio values direction i ≤ least + tol ∨ least + tol + tol < rowRatio values direction i

/-- If row `i` is steep and within the tolerance of the least ratio, so is `row`, and its column
comes no later. -/
def Precedes (tol : K) (values direction : Vec K m) (index : Fin m → Nat) (least : K)
    (row i : Fin m) : Prop :=
  tol < direction.get i → rowRatio values direction i ≤ least + tol →
    rowRatio values direction row ≤ least + tol ∧ index row ≤ index i

/-- If the least ratio is set apart, a row within the tolerance of it takes over from every row that
is not, and never gives way to one. -/
theorem keptByScan_precedes {tol least : K} {values direction : Vec K m} (index : Fin m → Nat)
    (isLeast : IsLeast (steepRatios tol values direction) least)
    (apart : SetApart tol values direction least) :
    KeptByScan tol values direction index (Precedes tol values direction index least) where
  self _ _ near := ⟨near, le_refl _⟩
  flat _ _ flat steep := absurd steep (not_lt_of_ge flat)
  takes := by
    rintro row k i _ steepK (below | ⟨close, first⟩) precedes steep near
    · have atLeast : least ≤ rowRatio values direction k := isLeast.2 ⟨k, steepK, rfl⟩
      have nearRow := (precedes steep near).1
      linarith
    · rcases precedes steep near with ⟨nearRow, before⟩
      have within := (abs_le.mp close).2
      rcases apart k steepK with nearK | far
      · exact ⟨nearK, first.le.trans before⟩
      · linarith
  stays := by
    intro row k _ steepRow steepK stays steep near
    rcases not_or.mp stays with ⟨notBelow, notFirst⟩
    have above := le_of_not_gt notBelow
    have nearRow : rowRatio values direction row ≤ least + tol := by
      rcases apart row steepRow with nearRow | far
      · exact nearRow
      · linarith
    have atLeast : least ≤ rowRatio values direction row := isLeast.2 ⟨row, steepRow, rfl⟩
    have close : |rowRatio values direction k - rowRatio values direction row| ≤ tol := by
      rw [abs_le]
      constructor <;> linarith
    exact ⟨nearRow, le_of_not_gt fun first => notFirst ⟨close, first⟩⟩

/-- If the least ratio is set apart, the leaving row is the one that the rule names. -/
theorem winsTie_of_leaving {tol least : K} (tol_pos : 0 < tol) {values direction : Vec K m}
    {index : Fin m → Nat} (isLeast : IsLeast (steepRatios tol values direction) least)
    (apart : SetApart tol values direction least) {r : Fin m}
    (chosen : leaving tol values direction index = some r) :
    WinsTie tol values direction index least r := by
  rcases leads_of_leaving (keptByScan_precedes index isLeast apart) chosen with ⟨steep, precedes⟩
  rcases isLeast.1 with ⟨lowest, steepLowest, lowest_eq⟩
  constructor
  · exact steep
  · exact (precedes lowest steepLowest (lowest_eq.le.trans (le_add_of_nonneg_right tol_pos.le))).1
  · intro i steepI near
    exact (precedes i steepI near).2

/-- When the columns ascend, the ratio of the leaving row is within the tolerance of the least one
and smaller than those of the steep rows before it. -/
theorem near_of_leaving {tol least : K} (tol_pos : 0 < tol) {values direction : Vec K m}
    {index : Fin m → Nat} (ascending : StrictMono index)
    (isLeast : IsLeast (steepRatios tol values direction) least) {r : Fin m}
    (chosen : leaving tol values direction index = some r) :
    rowRatio values direction r ≤ least + tol ∧
      ∀ i < r, tol < direction.get i →
        rowRatio values direction r < rowRatio values direction i := by
  rcases leaving_eq_some tol_pos ascending chosen with ⟨_, beaten⟩
  rcases isLeast.1 with ⟨lowest, steepLowest, lowest_eq⟩
  constructor
  · rw [← lowest_eq]
    exact (beaten lowest steepLowest).1
  · intro i before steep
    exact (beaten i steep).2 before

theorem exists_leaving_of_steep {tol : K} {direction : Vec K m}
    (steep : ∃ i, tol < direction.get i) (values : Vec K m) (index : Fin m → Nat) :
    ∃ r, leaving tol values direction index = some r := by
  cases chosen : leaving tol values direction index with
  | none =>
      rcases steep with ⟨i, steep⟩
      exact absurd steep (not_lt_of_ge (leaving_eq_none chosen i))
  | some r => exact ⟨r, rfl⟩

/-- Some row leaves as soon as one row is steep, and the least ratio exists.  The leaving row is the
one that the rule for ties names if the least ratio is set apart; when the columns ascend, its ratio
is within the tolerance of the least one and smaller than those of the steep rows before it. -/
theorem leaving_near_ties {tol : K} (tol_pos : 0 < tol) (values : Vec K m) {direction : Vec K m}
    {index : Fin m → Nat} (distinct : Function.Injective index)
    (steep : ∃ i, tol < direction.get i) :
    ∃ r least, leaving tol values direction index = some r ∧ tol < direction.get r ∧
      IsLeast (steepRatios tol values direction) least ∧
      (SetApart tol values direction least →
        ∀ row, WinsTie tol values direction index least row ↔ row = r) ∧
      (StrictMono index → rowRatio values direction r ≤ least + tol ∧
        ∀ i < r, tol < direction.get i →
          rowRatio values direction r < rowRatio values direction i) := by
  rcases exists_leaving_of_steep steep values index with ⟨r, chosen⟩
  rcases exists_isLeast_steepRatios steep values with ⟨least, isLeast⟩
  refine ⟨r, least, chosen, (leads_of_leaving (keptByScan_true _ _ _ _) chosen).1, isLeast, ?_, ?_⟩
  · intro apart row
    have wins := winsTie_of_leaving tol_pos isLeast apart chosen
    constructor
    · intro wins'
      exact wins'.unique distinct wins
    · rintro rfl
      exact wins
  · intro ascending
    exact near_of_leaving tol_pos ascending isLeast chosen

/-- The second row takes over from the first, whose ratio is smaller, since its column comes
first. -/
theorem closeRatios_near_ties :
    leaving (1 / 4) (#v[0, 1 / 8, 2] : Vec Rat 3) #v[1, 1, 1] #v[7, 3, 5].get = some 1 ∧
      ∀ row, WinsTie (1 / 4) (#v[0, 1 / 8, 2] : Vec Rat 3) #v[1, 1, 1] #v[7, 3, 5].get 0 row ↔
        row = 1 := by
  have second : leaving (1 / 4) (#v[0, 1 / 8, 2] : Vec Rat 3) #v[1, 1, 1] #v[7, 3, 5].get =
      some 1 := by
    decide +kernel
  have lowest : IsLeast (steepRatios (1 / 4) (#v[0, 1 / 8, 2] : Vec Rat 3) #v[1, 1, 1]) 0 :=
    isLeast_steepRatios 0 (by decide +kernel) (by decide +kernel) (by decide +kernel)
  have distinct : Function.Injective (#v[7, 3, 5] : Vector Nat 3).get := by decide +kernel
  have steep : ∃ i, 1 / 4 < (#v[1, 1, 1] : Vec Rat 3).get i := ⟨0, by decide +kernel⟩
  rcases leaving_near_ties (by decide +kernel) #v[0, 1 / 8, 2] distinct steep with
    ⟨r, least, chosen, _, isLeast, wins, _⟩
  rw [second] at chosen
  cases chosen
  rw [isLeast.unique lowest] at wins
  exact ⟨second, wins (by unfold SetApart; decide +kernel)⟩

/-- Three ratios, each below the one before by less than the tolerance: the second is within the
tolerance of the third, which is the least, and comes before it, but the scan compares both with the
first and ends at the third. -/
theorem fallingRatios_leaving :
    leaving (1 / 4) (#v[3 / 8, 3 / 16, 0] : Vec Rat 3) #v[1, 1, 1] Fin.val = some 2 ∧
      IsLeast (steepRatios (1 / 4) (#v[3 / 8, 3 / 16, 0] : Vec Rat 3) #v[1, 1, 1]) 0 ∧
      ¬ WinsTie (1 / 4) (#v[3 / 8, 3 / 16, 0] : Vec Rat 3) #v[1, 1, 1] Fin.val 0 2 ∧
      WinsTie (1 / 4) (#v[3 / 8, 3 / 16, 0] : Vec Rat 3) #v[1, 1, 1] Fin.val 0 1 := by
  refine ⟨by decide +kernel, ?_, by decide +kernel, by decide +kernel⟩
  exact isLeast_steepRatios 2 (by decide +kernel) (by decide +kernel) (by decide +kernel)

end PolyTrace.Simplex
