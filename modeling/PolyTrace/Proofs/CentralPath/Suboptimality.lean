import Mathlib
import PolyTrace.Problem.Load
import PolyTrace.Proofs.CentralPath.KeptRows
import PolyTrace.Proofs.CentralPath.WholeStep
import PolyTrace.Proofs.Problem.Optimality

/-!
# How far a kept point is from the best

A centred point comes with multipliers: each row has the level times its weight over its slack.
They are not negative, and their columns are close to the objective because the gradient is small.
Measured from the centred point, weak duality bounds the gain of every feasible point by the level
times the sum of the weights, and by the tolerance of the gradient times the distance.
-/

namespace PolyTrace.CentralPath

open Matrix

/-! ## The bound at a centred point -/

section Notions

variable {K : Type} [Scalar K] {m n : Nat}

/-- The multipliers that a point inside the region gives the rows at a level. -/
def multipliers (problem : Weighted K m n) (mu : K) (x : Vec K n) : Vec K m :=
  (problem.w.div (slacks problem.toProblem x)).scale mu

/-- The problem as it looks from a point: the bounds of the rows are their slacks there. -/
def seenFrom (problem : Problem K m n) (x : Vec K n) : Problem K m n :=
  ⟨problem.A, slacks problem x, problem.c⟩

end Notions

section Bound

variable {m n : Nat} {problem : Weighted ℝ m n} {epsilon mu : ℝ} {x : Vec ℝ n}

theorem feasible_seenFrom {problem : Problem ℝ m n} {x x' : Vec ℝ n}
    (feasible : problem.Feasible x') : (seenFrom problem x).Feasible (x'.sub x) := by
  intro i
  change (problem.A.mulVec (x'.sub x)).get i ≤ (slacks problem x).get i
  rw [Mat.mulVec_sub, Vec.get_sub, get_slacks]
  linarith [feasible i]

theorem Centred.multipliers_nonneg (centred : Centred problem epsilon mu x) (mu_pos : 0 < mu)
    (w_nonneg : ∀ i, 0 ≤ problem.w.get i) (i : Fin m) : 0 ≤ (multipliers problem mu x).get i := by
  rw [multipliers, Vec.get_scale, Vec.get_div]
  exact mul_nonneg mu_pos.le (div_nonneg (w_nonneg i) (centred.interior i).le)

/-- The columns of the multipliers miss the objective by the gradient. -/
theorem get_transposeMulVec_multipliers (problem : Weighted ℝ m n) (mu : ℝ) (x : Vec ℝ n)
    (j : Fin n) :
    (problem.A.transposeMulVec (multipliers problem mu x)).get j - problem.c.get j =
      -(gradient problem mu x).get j := by
  rw [multipliers, Mat.transposeMulVec_scale, gradient, Vec.get_sub]
  ring

/-- The slacks, weighted by the multipliers, add up to the level times the sum of the weights. -/
theorem Centred.slacks_dot_multipliers (centred : Centred problem epsilon mu x) :
    (slacks problem.toProblem x).dot (multipliers problem mu x) = mu * ∑ i, problem.w.get i := by
  rw [Vec.dot_eq, dotProduct, Finset.mul_sum]
  refine Finset.sum_congr rfl fun i _ => ?_
  rw [multipliers, Vec.get_scale, Vec.get_div]
  field_simp [(centred.interior i).ne']

/-- No point that satisfies the rows is better than a centred one by more than the level times the
sum of the weights, up to the tolerance of the gradient. -/
theorem Centred.dot_le (centred : Centred problem epsilon mu x) (mu_pos : 0 < mu)
    (w_nonneg : ∀ i, 0 ≤ problem.w.get i) {x' : Vec ℝ n} (feasible : problem.Feasible x') :
    problem.c.dot x' ≤ problem.c.dot x + mu * ∑ i, problem.w.get i +
      epsilon * ∑ j, |x'.get j - x.get j| := by
  have columns : ∀ j, |((seenFrom problem.toProblem x).A.transposeMulVec
      (multipliers problem mu x)).get j - (seenFrom problem.toProblem x).c.get j| ≤ epsilon := by
    intro j
    change |(problem.A.transposeMulVec (multipliers problem mu x)).get j - problem.c.get j| ≤ _
    rw [get_transposeMulVec_multipliers, abs_neg]
    exact centred.stationary j
  -- the step from `x` to `x'` is feasible for the problem seen from `x`
  have weak := (seenFrom problem.toProblem x).dot_le_of_multipliers
    (centred.multipliers_nonneg mu_pos w_nonneg) columns (feasible_seenFrom feasible)
  change problem.c.dot (x'.sub x) ≤ (slacks problem.toProblem x).dot _ + _ at weak
  rw [centred.slacks_dot_multipliers, Vec.dot_sub] at weak
  simp only [Vec.get_sub] at weak
  linarith

end Bound

/-! ## The kept points of a path -/

variable {m n : Nat}

theorem weightVector_nonneg {weights : Option (List ℝ)} {w : Vec ℝ m}
    (given : weightVector m weights = .ok w)
    (nonneg : ∀ listed, weights = some listed → ∀ a ∈ listed, 0 ≤ a) (i : Fin m) :
    0 ≤ w.get i := by
  unfold weightVector at given
  cases weights with
  | none =>
      cases given
      exact zero_le_one.trans_eq (Vec.get_ones i).symm
  | some listed =>
      dsimp only at given
      split at given
      · rename_i length_eq
        cases given
        have inside : i.val < listed.length := length_eq ▸ i.isLt
        rw [Vec.get_ofFn, List.getD_eq_getElem _ _ inside]
        exact nonneg listed rfl _ (List.getElem_mem inside)
      · cases given

/-- Every point kept along a path satisfies strictly all rows whose weight is not zero, and no point
that satisfies these rows is better than it by more than the level times the sum of the weights, up
to the tolerance of the gradient. -/
theorem trace_kept_dot_le {problem : Problem ℝ m n} {options : Options ℝ} {w : Vec ℝ m}
    (weights : weightVector m options.weights = .ok w)
    (nonneg : ∀ listed, options.weights = some listed → ∀ a ∈ listed, 0 ≤ a) {start : Vec ℝ n}
    (inside : ∀ i, w.get i ≠ 0 → (problem.A.mulVec start).get i < problem.b.get i)
    {path : Path ℝ n} (traced : trace options (Weighted.reduced ⟨problem, w⟩) start = .ok path)
    {mu : ℝ} {x : Vec ℝ n} {value : BarrierValue ℝ} {objective : ℝ}
    (kept : .kept mu x value objective ∈ path.levels) :
    (∀ i, w.get i ≠ 0 → (problem.A.mulVec x).get i < problem.b.get i) ∧
      ∀ x', (∀ i, w.get i ≠ 0 → (problem.A.mulVec x').get i ≤ problem.b.get i) →
        problem.c.dot x' ≤ problem.c.dot x + mu * ∑ i, w.get i +
          options.epsilon * ∑ j, |x'.get j - x.get j| := by
  obtain ⟨mu_pos, centred⟩ := trace_centred traced (interior_reduced_iff.mpr inside) kept
  have reduced_nonneg : ∀ k, 0 ≤ (Weighted.reduced ⟨problem, w⟩).w.get k := by
    intro k
    rw [Weighted.reduced, Vec.get_ofFn]
    exact weightVector_nonneg weights nonneg _
  refine ⟨interior_reduced_iff.mp centred.interior, fun x' satisfied => ?_⟩
  have bound := centred.dot_le mu_pos reduced_nonneg (feasible_reduced_iff.mpr satisfied)
  rwa [sum_reduced_w] at bound

/-- Two rows around the origin and a third that excludes it, with an objective that balances the
weights `1` and `9` of the first two at the origin and the level `1000`. -/
noncomputable def balanced : Problem ℝ 3 1 where
  A := #v[#v[5], #v[-5], #v[5]]
  b := #v[1, 1, -1]
  c := #v[-40000]

/-- The balanced rows with their weights, of which the third is zero. -/
noncomputable def weightedBalanced : Weighted ℝ 3 1 :=
  ⟨balanced, #v[1, 9, 0]⟩

/-- Settings with one level, and a weight of zero for the third row. -/
noncomputable def oneLevel : Options ℝ :=
  ⟨false, 1, some [1, 9, 0], 2000, 1 / 100⟩

theorem schedule_one : (schedule 1 : List ℝ) = [1000] := by
  simp [schedule, Analytic.powTen, Scalar.ofRat, firstExponent]
  norm_num

/-- A gradient with one entry is small if the entry is. -/
theorem isStationary_single (epsilon a : ℝ) :
    isStationary epsilon (#v[a] : Vec ℝ 1) = .ok (decide (|a| < epsilon)) := by
  simp [isStationary, Vec.largestAbs?, Vec.largest?, Scalar.abs_eq]

theorem balanced_slacks (a : ℝ) : slacks balanced #v[a] = #v[1 - 5 * a, 1 + 5 * a, -1 - 5 * a] := by
  apply Vec.ext_get
  simp [Fin.forall_fin_succ, get_slacks, Mat.get_mulVec_eq_sum, balanced]

theorem balanced_interior {a : ℝ} (low : -1 / 5 < a) (high : a < 1 / 5) :
    Interior weightedBalanced.reduced.toProblem #v[a] := by
  rw [interior_reduced_iff]
  simp [Fin.forall_fin_succ, Mat.get_mulVec_eq_sum, weightedBalanced, balanced]
  constructor <;> linarith

theorem balanced_gradient (a : ℝ) :
    gradient weightedBalanced.reduced 1000 #v[a] =
      #v[-40000 - 5000 * (1 / (1 - 5 * a) - 9 / (1 + 5 * a))] := by
  rw [gradient_reduced]
  apply Vec.ext_get
  rw [Fin.forall_fin_one]
  simp only [gradient, Vec.get_sub, Vec.get_scale, Mat.get_transposeMulVec_eq_sum, Vec.get_div,
    weightedBalanced, balanced_slacks]
  simp [balanced, Fin.sum_univ_succ]
  ring

theorem balanced_curvature (a : ℝ) :
    curvature weightedBalanced.reduced 1000 #v[a] =
      #v[#v[25000 * (1 / ((1 - 5 * a) * (1 - 5 * a)) + 9 / ((1 + 5 * a) * (1 + 5 * a)))]] := by
  rw [curvature_reduced]
  apply Vec.ext_get
  rw [Fin.forall_fin_one]
  apply Vec.ext_get
  rw [Fin.forall_fin_one]
  simp only [get_curvature, weightedBalanced, balanced_slacks]
  simp [balanced, Fin.sum_univ_succ]
  ring

theorem balanced_barrier {a : ℝ} (low : -1 / 5 < a) (high : a < 1 / 5) :
    barrier weightedBalanced.reduced 1000 #v[a] =
      .inside (-40000 * a + 1000 * (Real.log (1 - 5 * a) + 9 * Real.log (1 + 5 * a))) := by
  rw [barrier_reduced 1000 (balanced_interior low high)]
  simp only [weightedBalanced, balanced_slacks]
  simp [balanced, Vec.dot_eq, dotProduct, Fin.sum_univ_succ]

/-- The whole step from one tenth to the origin gains more than a hundredth of what the slope
predicts. -/
theorem balanced_gains :
    gains (gainPart * 2000) (barrier weightedBalanced.reduced 1000 #v[1 / 10])
      (barrier weightedBalanced.reduced 1000 #v[0]) = true := by
  have room : Real.log (1 - 5 * (1 / 10)) = -Real.log 2 := by
    rw [← Real.log_inv]
    norm_num
  have growth : Real.log (1 + 5 * (1 / 10)) ≤ 1 / 2 := by
    have bound := Real.log_le_sub_one_of_pos (show (0 : ℝ) < 1 + 5 * (1 / 10) by norm_num)
    linarith
  have part : (gainPart : ℝ) = 1 / 100 := by
    norm_num [gainPart, Scalar.ofRat]
  rw [balanced_barrier (by norm_num) (by norm_num), balanced_barrier (by norm_num) (by norm_num),
    part]
  apply decide_eq_true
  rw [room, mul_zero, mul_zero, sub_zero, add_zero, Real.log_one]
  linarith [Real.log_two_gt_d9]

/-- From one tenth, Newton's method reaches the origin in one step. -/
theorem balanced_newtonNext :
    newtonNext weightedBalanced.reduced 1000 #v[1 / 10]
      (gradient weightedBalanced.reduced 1000 #v[1 / 10]) = .ok #v[0] := by
  have arrives : Vec.along (#v[1 / 10] : Vec ℝ 1) 1 #v[-1 / 10] = #v[0] := by
    apply Vec.ext_get
    simp [Vec.get_along]
    norm_num
  have slope : Vec.dot (#v[-20000] : Vec ℝ 1) #v[-1 / 10] = 2000 := by
    simp [Vec.dot_eq, dotProduct]
    norm_num
  have descent : gradient weightedBalanced.reduced 1000 #v[1 / 10] = #v[-20000] := by
    rw [balanced_gradient]
    norm_num
  have bend : curvature weightedBalanced.reduced 1000 #v[1 / 10] = #v[#v[200000]] := by
    rw [balanced_curvature]
    norm_num
  have weighted : (0 : Fin 3) ∈ keptRows weightedBalanced.w := by
    rw [mem_keptRows_iff]
    exact one_ne_zero
  rw [descent, ← arrives]
  refine newtonNext_eq_along (List.length_pos_of_mem weighted) (Nat.succ_pos 0) ?_ ?_ ?_ ?_
  · intro z kernel
    rw [bend] at kernel
    have entry := congrFun kernel 0
    simp [Matrix.mulVec, dotProduct] at entry
    funext j
    rw [Fin.fin_one_eq_zero j]
    exact entry
  · rw [bend]
    funext j
    simp [Matrix.mulVec, dotProduct]
    norm_num
  · rw [arrives]
    intro k
    rw [get_slacks_reduced]
    refine forall_keptRows_iff (P := fun i => leastSlack <
      (slacks weightedBalanced.toProblem #v[0]).get i) |>.mpr ?_ k
    simp only [weightedBalanced, balanced_slacks]
    simp [Fin.forall_fin_succ, leastSlack_lt_one]
  · rw [arrives, slope]
    exact balanced_gains

theorem balanced_trace : ∃ path,
    trace oneLevel weightedBalanced.reduced #v[1 / 10] = .ok path ∧
      ∃ value objective, .kept 1000 #v[0] value objective ∈ path.levels := by
  have moving : isStationary oneLevel.epsilon
      (gradient weightedBalanced.reduced 1000 #v[1 / 10]) = .ok false := by
    rw [balanced_gradient, isStationary_single]
    norm_num [oneLevel]
  have stationary : isStationary oneLevel.epsilon
      (gradient weightedBalanced.reduced 1000 #v[0]) = .ok true := by
    rw [balanced_gradient, isStationary_single]
    norm_num [oneLevel]
  have stepped : newton weightedBalanced.reduced oneLevel.epsilon 1000 (1999 + 1) #v[1 / 10] =
      newton weightedBalanced.reduced oneLevel.epsilon 1000 1999 #v[0] :=
    newton_of_newtonNext moving balanced_newtonNext
  have converged : newton weightedBalanced.reduced oneLevel.epsilon 1000 oneLevel.maxit #v[1 / 10] =
      .ok (.converged #v[0]) :=
    stepped.trans (newton_of_isStationary stationary)
  have course := Course.kept converged (.finished #v[0])
  rw [← schedule_one] at course
  exact ⟨⟨_, _⟩, trace_eq_ok_iff.mpr ⟨rfl, course⟩, _, _, List.mem_cons_self⟩

/-- On the balanced rows, the path from one tenth keeps the origin at the level `1000`. -/
theorem balanced_kept_dot_le : ∃ path,
    weightVector 3 oneLevel.weights = .ok #v[1, 9, 0] ∧
    (∀ i, (#v[1, 9, 0] : Vec ℝ 3).get i ≠ 0 →
      (balanced.A.mulVec #v[1 / 10]).get i < balanced.b.get i) ∧
    trace oneLevel weightedBalanced.reduced #v[1 / 10] = .ok path ∧
      (∃ value objective, .kept 1000 #v[0] value objective ∈ path.levels) ∧
      (∀ i, (#v[1, 9, 0] : Vec ℝ 3).get i ≠ 0 →
        (balanced.A.mulVec #v[0]).get i < balanced.b.get i) ∧
      ∀ x' : Vec ℝ 1, (∀ i, (#v[1, 9, 0] : Vec ℝ 3).get i ≠ 0 →
          (balanced.A.mulVec x').get i ≤ balanced.b.get i) →
        balanced.c.dot x' ≤ balanced.c.dot #v[0] +
          1000 * ∑ i, (#v[1, 9, 0] : Vec ℝ 3).get i +
          1 / 100 * ∑ j, |x'.get j - (#v[0] : Vec ℝ 1).get j| := by
  have weights : weightVector 3 oneLevel.weights = .ok #v[1, 9, 0] := by
    simp [weightVector, oneLevel, Vector.ofFn, Array.ofFn_succ]
  have nonneg : ∀ listed, oneLevel.weights = some listed → ∀ a ∈ listed, 0 ≤ a := by
    rintro listed given a member
    cases given
    simp at member
    rcases member with rfl | rfl | rfl <;> norm_num
  have inside : ∀ i, (#v[1, 9, 0] : Vec ℝ 3).get i ≠ 0 →
      (balanced.A.mulVec #v[1 / 10]).get i < balanced.b.get i :=
    interior_reduced_iff.mp (balanced_interior (by norm_num) (by norm_num))
  obtain ⟨path, traced, value, objective, kept⟩ := balanced_trace
  exact ⟨path, weights, inside, traced, ⟨value, objective, kept⟩,
    trace_kept_dot_le weights nonneg inside traced kept⟩

end PolyTrace.CentralPath
