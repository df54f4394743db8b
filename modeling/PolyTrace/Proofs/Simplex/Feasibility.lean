import PolyTrace.Proofs.Simplex.Handover

/-!
# Exchanges that keep the variables nonnegative

A tolerance is fine at a basic solution when it separates what the ratio test compares there: a
positive direction from zero, two different ratios from each other, and a positive entry from zero.
At such a solution the ratio test makes the choice it would make without a tolerance, so the
exchange leads from a nonnegative solution to a nonnegative one, and a phase without leaving row has
found a ray.  The hand-over between the phases keeps the variables nonnegative as well, since every
artificial variable that is within the tolerance is zero.
-/

namespace PolyTrace.Simplex

open Matrix

variable {K : Type} [ExactScalar K] {m n p : Nat}

/-- The tolerance separates the numbers that the ratio test compares. -/
structure Fine (tol : K) (program : Program K m p) (here : Solution K m p) : Prop where
  steep : ∀ j i, 0 < (here.direction program j).get i → tol < (here.direction program j).get i
  apart : ∀ j i k,
    rowRatio here.basic (here.direction program j) i <
        rowRatio here.basic (here.direction program j) k →
      rowRatio here.basic (here.direction program j) i + tol <
        rowRatio here.basic (here.direction program j) k
  entry : ∀ j, 0 < here.full.get j → tol < here.full.get j

/-- The tolerance is fine at the solution of every basis. -/
def FineAtAll (tol : K) (program : Program K m p) : Prop :=
  ∀ basis here, solution program basis = .ok here → Fine tol program here

/-- The variables of the basis are nonnegative. -/
def FeasibleBasis (program : Program K m p) (basis : Basis p) : Prop :=
  ∀ x, IsBasic program basis x → ∀ j, 0 ≤ x j

/-- One nonnegative basic vector is enough when the columns are independent. -/
theorem feasibleBasis_of_isBasic {program : Program K m p} {basis : Basis p}
    (independent : Independent program.A basis) {x : Fin p → K}
    (basic : IsBasic program basis x) (nonneg : ∀ j, 0 ≤ x j) : FeasibleBasis program basis := by
  intro x' basic'
  rw [IsBasic.unique independent basic' basic]
  exact nonneg

/-! ## One exchange -/

section Exchange

variable {options : Options K} {program : Program K m p} {basis next : Basis p}
  {here : Solution K m p}

/-- With a fine tolerance the leaving row has the least ratio among all rows of positive
direction. -/
theorem Fine.rowRatio_le (fine : Fine options.tol program here) {j : Fin p} {r i : Fin m}
    (beaten : Beaten options.tol here.basic (here.direction program j) r i)
    (positive : 0 < (here.direction program j).get i) :
    rowRatio here.basic (here.direction program j) r ≤
      rowRatio here.basic (here.direction program j) i := by
  by_contra above
  have near := (beaten (fine.steep j i positive)).1
  have separated := fine.apart j i r (lt_of_not_ge above)
  exact absurd separated (not_lt_of_ge near)

/-- The step to the least ratio leaves every variable nonnegative. -/
theorem Solves.nonneg_along_edge (solves : Solves program basis here)
    (nonneg : ∀ j, 0 ≤ here.full.get j) {j : Fin p} (outside : basis.get j = false) {step : K}
    (step_nonneg : 0 ≤ step)
    (limits : ∀ i, 0 < (here.direction program j).get i →
      step ≤ rowRatio here.basic (here.direction program j) i) (k : Fin p) :
    0 ≤ (here.full.get + step • here.edge program j) k := by
  rw [Pi.add_apply, Pi.smul_apply, smul_eq_mul]
  by_cases marked : basis.get k = true
  · obtain ⟨i, rfl⟩ := (solves.lists.marked_iff k).mp marked
    rw [solves.edge_column outside]
    rcases le_or_gt ((here.direction program j).get i) 0 with flat | positive
    · have grows : 0 ≤ step * -(here.direction program j).get i :=
        mul_nonneg step_nonneg (neg_nonneg.mpr flat)
      exact add_nonneg (nonneg _) grows
    · have bounded : step * (here.direction program j).get i ≤ here.basic.get i :=
        (le_div_iff₀ positive).mp (limits i positive)
      rw [solves.full_column]
      linarith
  · have unmarked := Bool.eq_false_of_not_eq_true marked
    by_cases enters : k = j
    · rw [enters, solves.edge_entering outside, mul_one]
      exact add_nonneg (nonneg j) step_nonneg
    · rw [solves.edge_other unmarked enters, mul_zero, add_zero]
      exact nonneg k

/-- An exchange leads from a feasible basis to a feasible basis. -/
theorem FeasibleBasis.exchange (tol_pos : 0 < options.tol)
    (feasible : FeasibleBasis program basis) (solved : solution program basis = .ok here)
    (fine : Fine options.tol program here)
    (pivoted : pivot options program basis here = .exchange next) :
    FeasibleBasis program next := by
  have solves := solves_of_solution solved
  have nonneg := feasible _ solves.basic
  obtain ⟨j, r, outside, _, steep, beaten, rfl⟩ := exchange_cases tol_pos solves pivoted
  have positive := tol_pos.trans steep
  apply feasibleBasis_of_isBasic (solves.independent_exchange outside positive.ne')
    (solves.isBasic_exchange outside positive.ne')
  apply solves.nonneg_along_edge nonneg outside
  · apply div_nonneg _ positive.le
    rw [← solves.full_column]
    exact nonneg _
  · intro i positive'
    exact fine.rowRatio_le (beaten i) positive'

end Exchange

/-- Every path from a feasible basis ends at one. -/
theorem Path.feasibleBasis {options : Options K} (tol_pos : 0 < options.tol)
    {program : Program K m p} (fine : FineAtAll options.tol program) {basis last : Basis p}
    {visits : List (Visit K m p)} (path : Path options program basis visits last)
    (feasible : FeasibleBasis program basis) : FeasibleBasis program last :=
  path.preserves
    (fun feasible solved pivoted => feasible.exchange tol_pos solved (fine _ _ solved) pivoted)
    feasible

/-! ## The end of a phase -/

/-- Without leaving row the edge of the entering column is a ray along which the objective grows. -/
theorem exists_ray_of_unbounded {options : Options K} (tol_pos : 0 < options.tol)
    {program : Program K m p} {basis : Basis p} {here : Solution K m p}
    (solves : Solves program basis here) (fine : Fine options.tol program here)
    (pivoted : pivot options program basis here = .unbounded) :
    ∃ z : Fin p → K, (∀ j, 0 ≤ z j) ∧ program.A.matrix *ᵥ z = 0 ∧ 0 < program.c.get ⬝ᵥ z := by
  obtain ⟨j, enters, leaves⟩ := pivot_eq_unbounded pivoted
  obtain ⟨outside, gains⟩ := entering_eq_some enters
  have flat : ∀ i, (here.direction program j).get i ≤ 0 := by
    intro i
    by_contra positive
    have steep := fine.steep j i (lt_of_not_ge positive)
    have shallow := leaving_eq_none leaves i
    exact absurd steep (not_lt_of_ge shallow)
  refine ⟨here.edge program j, ?_, solves.mulVec_edge j, ?_⟩
  · intro k
    rw [← neg_zero]
    exact solves.neg_le_edge outside le_rfl flat k
  · rw [solves.dot_edge outside]
    exact tol_pos.trans gains

/-! ## The two phases -/

/-- The first phase starts from a feasible basis. -/
theorem feasibleBasis_artificialBasis (problem : Problem K m n) :
    FeasibleBasis (phaseOne problem) (artificialBasis m n) :=
  feasibleBasis_of_isBasic (regular_artificialBasis problem).independent
    (isBasic_artificialBasis problem) (isBasic_artificialBasis_nonneg problem)

/-- An artificial variable within a fine tolerance is zero. -/
theorem artificialPart_eq_zero {tol : K} {problem : Problem K m n}
    {basis : Basis (n + n + m + m)} {here : Solution K m (n + n + m + m)}
    (solves : Solves (phaseOne problem) basis here) (fine : Fine tol (phaseOne problem) here)
    (nonneg : ∀ j, 0 ≤ here.full.get j)
    (below : ∀ i, basis.get (artificialColumn i) = true → artificialPart here.full.get i ≤ tol)
    (i : Fin m) : artificialPart here.full.get i = 0 := by
  by_cases marked : basis.get (artificialColumn i) = true
  · apply le_antisymm _ (nonneg _)
    by_contra positive
    have above := fine.entry (artificialColumn i) (lt_of_not_ge positive)
    exact absurd above (not_lt_of_ge (below i marked))
  · exact solves.basic.supported _ (Bool.eq_false_of_not_eq_true marked)

/-- The second phase starts from a feasible basis. -/
theorem FeasibleBasis.replaced {tol : K} {problem : Problem K m n}
    {basis : Basis (n + n + m + m)} {here : Solution K m (n + n + m + m)}
    (feasible : FeasibleBasis (phaseOne problem) basis)
    (solved : solution (phaseOne problem) basis = .ok here)
    (fine : Fine tol (phaseOne problem) here)
    (below : ∀ i, basis.get (artificialColumn i) = true →
      artificialPart here.full.get i ≤ tol) :
    FeasibleBasis (phaseTwo problem) (Simplex.replaced basis).basis := by
  have solves := solves_of_solution solved
  have nonneg := feasible _ solves.basic
  have regular : Regular (phaseOne problem) basis :=
    ⟨length_of_solution solved, solves.independent⟩
  apply feasibleBasis_of_isBasic regular.replaced.independent solves.basic.handed
  apply forall_secondColumn
  · intro j
    rw [handed_variable]
    exact nonneg _
  · intro i
    rw [handed_slack, artificialPart_eq_zero solves fine nonneg below i, mul_zero, add_zero]
    exact nonneg _

end PolyTrace.Simplex
