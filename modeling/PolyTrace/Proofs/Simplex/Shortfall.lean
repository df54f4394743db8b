import Mathlib
import PolyTrace.Proofs.Simplex.Exchange
import PolyTrace.Proofs.Simplex.NearTies

/-!
# What one exchange can lose

The step to the ratio of the leaving row may be longer than the least ratio by the tolerance, and the
ratio test does not look at rows whose direction is at most the tolerance.  So a nonnegative basic
solution can lead to one with negative entries.  None of them is below minus the tolerance times the
direction of its row, or times the step where that is longer.
-/

namespace PolyTrace.Simplex

open Matrix

variable {K : Type} [ExactScalar K] {m p : Nat}

/-- A step that is longer than the ratio of a steep row by at most the tolerance leaves of every
nonnegative entry at least minus the tolerance times the rate at which it falls, or times the
step. -/
theorem neg_le_remaining {tol step value rate : K} (tol_pos : 0 < tol) (value_nonneg : 0 ≤ value)
    (step_nonneg : 0 ≤ step) (limited : tol < rate → step ≤ value / rate + tol) :
    -(tol * max rate step) ≤ value - step * rate := by
  have byRate : tol * rate ≤ tol * max rate step :=
    mul_le_mul_of_nonneg_left (le_max_left rate step) tol_pos.le
  have byStep : tol * step ≤ tol * max rate step :=
    mul_le_mul_of_nonneg_left (le_max_right rate step) tol_pos.le
  rcases lt_or_ge tol rate with steep | flat
  · have rate_pos : 0 < rate := tol_pos.trans steep
    have reached : step * rate ≤ value + tol * rate := by
      calc
        step * rate ≤ (value / rate + tol) * rate :=
          mul_le_mul_of_nonneg_right (limited steep) rate_pos.le
        _ = value + tol * rate := by rw [add_mul, div_mul_cancel₀ _ rate_pos.ne']
    linarith
  · have slow : step * rate ≤ step * tol := mul_le_mul_of_nonneg_left flat step_nonneg
    linarith [mul_comm step tol]

section Exchange

variable {options : Options K} {program : Program K m p} {basis : Basis p} {here : Solution K m p}
  {j : Fin p} {r : Fin m}

/-- The chosen columns are exchanged. -/
theorem pivot_of_chosen
    (enters : entering options.rule options.tol here.reduced basis = some j)
    (leaves : leaving options.tol here.basic (here.direction program j)
      (fun i => (here.columns.get i).val) = some r) :
    pivot options program basis here = .exchange (basis.exchange j (here.columns.get r)) := by
  unfold Solution.direction at leaves
  simp only [pivot, enters, leaves]

/-- The basic solution after an exchange is the point of the edge at the ratio of the leaving
row. -/
theorem Solves.full_of_exchange (solves : Solves program basis here)
    (outside : basis.get j = false) (nonzero : (here.direction program j).get r ≠ 0)
    {after : Solution K m p}
    (solved : solution program (basis.exchange j (here.columns.get r)) = .ok after) :
    after.full.get = here.full.get +
      rowRatio here.basic (here.direction program j) r • here.edge program j :=
  IsBasic.unique (solves.independent_exchange outside nonzero) (solves_of_solution solved).basic
    (solves.isBasic_exchange outside nonzero)

end Exchange

/-- An exchange at a nonnegative basic solution, with a positive tolerance and either pivot rule.
The leaving row is steep, its ratio exceeds the least one by at most the tolerance, and every steep
row before it has a larger ratio.  The new basis has a solution: the entering column gets the ratio,
and what remains in every other row is at least minus the tolerance times the direction of the row,
or times the ratio. -/
theorem exchange_remaining_ge {options : Options Rat} (tol_pos : 0 < options.tol)
    {program : Program Rat m p} {basis : Basis p} {here : Solution Rat m p}
    (solved : solution program basis = .ok here) (nonneg : ∀ i, 0 ≤ here.basic.get i)
    {j : Fin p} (enters : entering options.rule options.tol here.reduced basis = some j)
    {r : Fin m}
    (leaves : leaving options.tol here.basic (here.direction program j)
      (fun i => (here.columns.get i).val) = some r) :
    let direction := here.direction program j
    let step := here.basic.get r / direction.get r
    (options.tol < direction.get r ∧
      (∃ least, IsLeast (steepRatios options.tol here.basic direction) least ∧
        step ≤ least + options.tol) ∧
      ∀ i < r, options.tol < direction.get i → step < here.basic.get i / direction.get i) ∧
    ∃ after, pivot options program basis here =
        .exchange (basis.exchange j (here.columns.get r)) ∧
      solution program (basis.exchange j (here.columns.get r)) = .ok after ∧
      0 ≤ step ∧ after.full.get j = step ∧
      ∀ i ≠ r,
        after.full.get (here.columns.get i) = here.basic.get i - step * direction.get i ∧
        -(options.tol * max (direction.get i) step) ≤ after.full.get (here.columns.get i) := by
  intro direction step
  have solves := solves_of_solution solved
  have ascending := ascending_columns solves
  rcases entering_eq_some enters with ⟨outside, _⟩
  rcases leaving_eq_some tol_pos ascending leaves with ⟨steep, beaten⟩
  rcases exists_isLeast_steepRatios ⟨r, steep⟩ here.basic with ⟨least, isLeast⟩
  rcases near_of_leaving tol_pos ascending isLeast leaves with ⟨near, before⟩
  have steep_pos : 0 < direction.get r := tol_pos.trans steep
  have step_nonneg : 0 ≤ step := div_nonneg (nonneg r) steep_pos.le
  have regular : Regular program (basis.exchange j (here.columns.get r)) :=
    Regular.exchange tol_pos solved (pivot_of_chosen enters leaves)
  rcases regular.exists_solution (Fin.pos r) with ⟨after, solvedAfter⟩
  have full_eq := solves.full_of_exchange outside steep_pos.ne' solvedAfter
  refine ⟨⟨steep, ⟨least, isLeast, near⟩, before⟩, after, pivot_of_chosen enters leaves, solvedAfter,
    step_nonneg, ?_, ?_⟩
  · have entry := congrFun full_eq j
    rw [Pi.add_apply, Pi.smul_apply, smul_eq_mul, solves.edge_entering outside, mul_one,
      solves.basic.supported j outside, zero_add] at entry
    exact entry
  · intro i _
    have entry : after.full.get (here.columns.get i) =
        here.basic.get i - step * direction.get i := by
      have entry := congrFun full_eq (here.columns.get i)
      rw [Pi.add_apply, Pi.smul_apply, smul_eq_mul, solves.edge_column outside,
        solves.full_column, mul_neg, ← sub_eq_add_neg] at entry
      exact entry
    refine ⟨entry, ?_⟩
    rw [entry]
    exact neg_le_remaining tol_pos (nonneg i) step_nonneg fun steepRow => (beaten i steepRow).1

/-- A variable that one row keeps at one and the other at one thirty-second less. -/
def closeBounds : Program Rat 2 3 where
  A := #v[#v[1, 1, 0], #v[16, 0, 1]]
  b := #v[1, 31 / 2]
  c := #v[1, 0, 0]

/-- From the basis of the slacks the first row leaves, and the slack of the second falls to minus
one half, where it might have fallen to minus one. -/
theorem closeBounds_remaining :
    ∃ here after, solution closeBounds #v[false, true, true] = .ok here ∧
      (∀ i, 0 ≤ here.basic.get i) ∧
      entering .dantzig (1 / 16) here.reduced #v[false, true, true] = some 0 ∧
      leaving (1 / 16) here.basic (here.direction closeBounds 0)
        (fun i => (here.columns.get i).val) = some 0 ∧
      solution closeBounds (Basis.exchange #v[false, true, true] 0 (here.columns.get 0)) =
        .ok after ∧
      after.full.get (here.columns.get 1) = -1 / 2 ∧
      -(1 / 16 * max ((here.direction closeBounds 0).get 1)
          (here.basic.get 0 / (here.direction closeBounds 0).get 0)) ≤
        after.full.get (here.columns.get 1) := by
  have checked : (solution closeBounds #v[false, true, true]).toOption.map (fun here =>
      decide ((∀ i, 0 ≤ here.basic.get i) ∧
        entering .dantzig (1 / 16) here.reduced #v[false, true, true] = some 0 ∧
        leaving (1 / 16) here.basic (here.direction closeBounds 0)
          (fun i => (here.columns.get i).val) = some 0 ∧
        here.basic.get 1 - here.basic.get 0 / (here.direction closeBounds 0).get 0 *
          (here.direction closeBounds 0).get 1 = -1 / 2)) = some true := by
    decide +kernel
  cases solved : solution closeBounds #v[false, true, true] with
  | error cause =>
      rw [solved] at checked
      cases checked
  | ok here =>
      rw [solved] at checked
      rcases of_decide_eq_true (Option.some.inj checked) with ⟨nonneg, enters, leaves, half⟩
      have tol_pos : 0 < (⟨false, 1 / 16, .dantzig⟩ : Options Rat).tol := by decide +kernel
      rcases exchange_remaining_ge tol_pos solved nonneg enters leaves with
        ⟨_, after, _, solvedAfter, _, _, remaining⟩
      rcases remaining 1 (by decide) with ⟨entry, bounded⟩
      exact ⟨here, after, rfl, nonneg, enters, leaves, solvedAfter, entry.trans half, bounded⟩

end PolyTrace.Simplex
