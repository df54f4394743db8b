import PolyTrace.Proofs.Simplex.Certificate
import PolyTrace.Proofs.Simplex.Tolerance

/-!
# Correctness of the two-phase method for small tolerances

With a tolerance that is fine and sharp in both phases, every basis that a run visits is feasible,
and the three verdicts of a run mean what they say.  The first phase never meets a ray, since its
objective is bounded; an artificial variable that is stuck bounds its objective away from zero,
which a feasible point would attain; the second phase ends at an optimal point or finds a ray of
feasible points.
-/

namespace PolyTrace.Simplex

open Matrix Filter
open Problem (triangle)

section Verdicts

variable {K : Type} [ExactScalar K] {m n : Nat}

/-- The tolerance separates whatever a run on the problem compares. -/
structure Small (tol : K) (problem : Problem K m n) : Prop where
  fineOne : FineAtAll tol (phaseOne problem)
  fineTwo : FineAtAll tol (phaseTwo problem)
  sharpOne : Sharp tol (phaseOne problem)
  sharpTwo : Sharp tol (phaseTwo problem)

/-- Small enough tolerances are small for a problem. -/
theorem exists_small (problem : Problem K m n) :
    ∃ bound : K, 0 < bound ∧ ∀ tol, 0 < tol → tol < bound → Small tol problem := by
  apply exists_bound_of_eventually
  filter_upwards [eventually_fine_phases problem.A problem.b, eventually_sharp (phaseOne problem),
    eventually_sharp (phaseTwo problem)] with tol fine sharpOne sharpTwo
  exact ⟨(fine problem.c).1, (fine problem.c).2, sharpOne, sharpTwo⟩

variable {options : Options K} {problem : Problem K m n}

/-! ## The first phase -/

section FirstPhase

variable {last : Basis (n + n + m + m)} {here : Solution K m (n + n + m + m)}
  {verdict : Pivot K (n + n + m + m)}

theorem Stops.feasibleBasis_first (tol_pos : 0 < options.tol)
    (fine : FineAtAll options.tol (phaseOne problem))
    (stops : Stops options (phaseOne problem) (artificialBasis m n) verdict last here) :
    FeasibleBasis (phaseOne problem) last := by
  obtain ⟨visits, path⟩ := stops.reached
  exact path.feasibleBasis tol_pos fine (feasibleBasis_artificialBasis problem)

/-- The first phase never finds a ray: along it the sum of the artificial variables would become
negative. -/
theorem not_stops_unbounded_first (tol_pos : 0 < options.tol)
    (fine : FineAtAll options.tol (phaseOne problem)) :
    ¬ Stops options (phaseOne problem) (artificialBasis m n) .unbounded last here := by
  intro stops
  obtain ⟨z, nonneg, _, grows⟩ := exists_ray_of_unbounded tol_pos
    (solves_of_solution stops.solved) (fine _ _ stops.solved) stops.pivoted
  exact absurd grows (not_lt_of_ge (phaseOne_dot_nonpos problem nonneg))

/-- The variables of the first phase at a feasible point, without artificial variables. -/
theorem phaseOne_mulVec_ofPoint (problem : Problem K m n) (x : Vec K n) :
    (phaseOne problem).A.matrix *ᵥ Fin.append (Split.ofPoint problem x) 0 =
      (phaseOne problem).b.get := by
  funext i
  rw [phaseOne_mulVec, splitPart_append, artificialPart_append, Pi.zero_apply, add_zero,
    phaseOne_get_b]
  exact congrArg _ (congrFun (Split.splitMatrix_mulVec_ofPoint problem x) i)

/-- A bound on the reduced costs of the first phase bounds the sum of the artificial variables by the
split variables of any feasible point, where that sum would be zero. -/
theorem Solves.sum_artificialPart_le (solves : Solves (phaseOne problem) last here) {bound : K}
    (reduced_le : ∀ j, here.reduced.get j ≤ bound) {x : Vec K n} (feasible : problem.Feasible x) :
    ∑ i, artificialPart here.full.get i ≤
      bound * (∑ j, |x.get j| + ∑ i, (problem.b.get i - (problem.A.mulVec x).get i)) := by
  have nonneg : ∀ j, 0 ≤ Fin.append (Split.ofPoint problem x) (0 : Fin m → K) j :=
    append_nonneg (Split.ofPoint_nonneg feasible) fun _ => le_refl 0
  have bounded := solves.dot_le_of_reduced_le reduced_le nonneg (phaseOne_mulVec_ofPoint problem x)
  have attained : (phaseOne problem).c.get ⬝ᵥ Fin.append (Split.ofPoint problem x) 0 = 0 := by
    rw [phaseOne_dot, artificialPart_append, neg_eq_zero]
    exact Finset.sum_const_zero
  have total : ∑ j, Fin.append (Split.ofPoint problem x) (0 : Fin m → K) j =
      ∑ j, |x.get j| + ∑ i, (problem.b.get i - (problem.A.mulVec x).get i) := by
    rw [Fin.sum_univ_add, ← Split.sum_ofPoint]
    simp
  rw [attained, solves.objective_eq, phaseOne_dot, total] at bounded
  linarith

/-- At an optimal basis of the first phase, a feasible point would make every artificial variable
zero. -/
theorem not_feasible_of_stuck (tol_pos : 0 < options.tol)
    (fine : FineAtAll options.tol (phaseOne problem))
    (sharp : Sharp options.tol (phaseOne problem))
    (stops : Stops options (phaseOne problem) (artificialBasis m n) .optimal last here)
    {i : Fin m} (above : options.tol < artificialPart here.full.get i) (x : Vec K n) :
    ¬ problem.Feasible x := by
  intro feasible
  have solves := solves_of_solution stops.solved
  have nonneg := stops.feasibleBasis_first tol_pos fine _ solves.basic
  have vanishes := solves.sum_artificialPart_le
    (sharp.reduced_nonpos tol_pos stops.solved stops.pivoted) feasible
  have single : artificialPart here.full.get i ≤ ∑ k, artificialPart here.full.get k :=
    Finset.single_le_sum (fun k _ => nonneg (artificialColumn k)) (Finset.mem_univ i)
  rw [zero_mul] at vanishes
  linarith

end FirstPhase

/-! ## The second phase -/

section SecondPhase

variable {last : Basis (n + n + m + m)} {here : Solution K m (n + n + m + m)}
  {last' : Basis (n + n + m)} {here' : Solution K m (n + n + m)} {verdict : Pivot K (n + n + m)}

/-- The second phase stays feasible. -/
theorem nonneg_second (tol_pos : 0 < options.tol)
    (fineOne : FineAtAll options.tol (phaseOne problem))
    (fineTwo : FineAtAll options.tol (phaseTwo problem))
    (first : Stops options (phaseOne problem) (artificialBasis m n) .optimal last here)
    (below : ∀ i, last.get (artificialColumn i) = true →
      artificialPart here.full.get i ≤ options.tol)
    (second : Stops options (phaseTwo problem) (replaced last).basis verdict last' here')
    (j : Fin (n + n + m)) : 0 ≤ here'.full.get j := by
  have start : FeasibleBasis (phaseTwo problem) (replaced last).basis :=
    (first.feasibleBasis_first tol_pos fineOne).replaced first.solved
      (fineOne _ _ first.solved) below
  obtain ⟨visits, path⟩ := second.reached
  exact path.feasibleBasis tol_pos fineTwo start _ (solves_of_solution second.solved).basic j

/-- A solution of the second phase with nonnegative entries stands for a feasible point. -/
theorem Solves.feasible_unsplit (solves : Solves (phaseTwo problem) last' here')
    (nonneg : ∀ j, 0 ≤ here'.full.get j) : problem.Feasible (unsplit here'.full) :=
  Split.feasible_of_slack_nonneg solves.basic.solves (Split.get_unsplit _) fun _ => nonneg _

/-- A ray of the split form makes the objective unbounded. -/
theorem unbounded_of_ray {t z : Fin (n + n + m) → K}
    (equations : (phaseTwo problem).A.matrix *ᵥ t = problem.b.get) (t_nonneg : ∀ j, 0 ≤ t j)
    (kernel : (phaseTwo problem).A.matrix *ᵥ z = 0) (z_nonneg : ∀ j, 0 ≤ z j)
    (grows : 0 < (phaseTwo problem).c.get ⬝ᵥ z) : problem.Unbounded := by
  intro bound
  -- far enough along the ray the objective passes the bound
  set step := max 0 ((bound - (phaseTwo problem).c.get ⬝ᵥ t) / (phaseTwo problem).c.get ⬝ᵥ z) + 1
    with step_eq
  have step_nonneg : 0 ≤ step := add_nonneg (le_max_left _ _) zero_le_one
  have reaches : bound - (phaseTwo problem).c.get ⬝ᵥ t < step * (phaseTwo problem).c.get ⬝ᵥ z := by
    rw [← div_lt_iff₀ grows, step_eq]
    exact (le_max_right _ _).trans_lt (lt_add_one _)
  have point_eq : (Vector.ofFn (Split.free (t + step • z)) : Vec K n).get =
      Split.free (t + step • z) := funext fun j => Vec.get_ofFn _ j
  refine ⟨Vector.ofFn (Split.free (t + step • z)), ?_, ?_⟩
  · refine Split.feasible_of_slack_nonneg ?_ point_eq fun i => ?_
    · have moved : (phaseTwo problem).A.matrix *ᵥ (t + step • z) = problem.b.get := by
        rw [Matrix.mulVec_add, Matrix.mulVec_smul, kernel, smul_zero, add_zero, equations]
      exact moved
    · exact add_nonneg (t_nonneg _) (mul_nonneg step_nonneg (z_nonneg _))
  · rw [Vec.dot_eq, point_eq, ← phaseTwo_dot, dotProduct_add, dotProduct_smul, smul_eq_mul]
    linarith

end SecondPhase

/-! ## The three verdicts -/

/-- With a small tolerance, a run that does not stall answers rightly. -/
theorem solve_verdict (positive : 0 < m) (tol_pos : 0 < options.tol)
    (small : Small options.tol problem) {cap : Int}
    (unstalled : (solve options cap problem).outcome ≠ .error (.stalled cap)) :
    (∃ final x, (solve options cap problem).outcome = .ok final ∧
        (solve options cap problem).points.getLast? = some x ∧ problem.IsOptimal x) ∨
      (∃ optimum, (solve options cap problem).outcome = .error (.infeasible optimum) ∧
        ∀ x, ¬ problem.Feasible x) ∨
      ((solve options cap problem).outcome = .error .unbounded ∧
        (∃ x, problem.Feasible x) ∧ problem.Unbounded) := by
  cases course_solve tol_pos cap problem with
  | empty noRows _ => exact absurd noRows positive.ne'
  | stalled outcome_eq => exact absurd outcome_eq unstalled
  | ray first _ => exact absurd first (not_stops_unbounded_first tol_pos small.fineOne)
  | stuck first above outcome_eq =>
      exact .inr (.inl ⟨_, outcome_eq,
        not_feasible_of_stuck tol_pos small.fineOne small.sharpOne first above⟩)
  | unbounded first below second outcome_eq =>
      have solves := solves_of_solution second.solved
      have nonneg := nonneg_second tol_pos small.fineOne small.fineTwo first below second
      obtain ⟨z, z_nonneg, kernel, grows⟩ := exists_ray_of_unbounded tol_pos solves
        (small.fineTwo _ _ second.solved) second.pivoted
      exact .inr (.inr ⟨outcome_eq, ⟨_, solves.feasible_unsplit nonneg⟩,
        unbounded_of_ray solves.basic.solves nonneg kernel z_nonneg grows⟩)
  | converged first below second outcome_eq getLast?_points =>
      have solves := solves_of_solution second.solved
      have nonneg := nonneg_second tol_pos small.fineOne small.fineTwo first below second
      refine .inl ⟨_, _, outcome_eq, getLast?_points, solves.feasible_unsplit nonneg, ?_⟩
      intro x feasible
      have bounded := dot_le_of_reduced_le solves
        (small.sharpTwo.reduced_nonpos tol_pos second.solved second.pivoted) feasible
      rw [zero_mul, add_zero] at bounded
      exact bounded

end Verdicts

variable {m n : Nat}

/-- Over the fractions, every problem with at least one row has a bound on the tolerance below which
the two-phase method is correct with either pivot rule: a run that does not stall converges to an
optimal point, or the problem is infeasible and the run says so, or it is feasible and unbounded and
the run says so. -/
theorem solve_sound_of_small_tolerance (positive : 0 < m) (problem : Problem Rat m n) :
    ∃ bound : Rat, 0 < bound ∧
      ∀ options : Options Rat, 0 < options.tol → options.tol < bound → ∀ cap : Int,
        (solve options cap problem).outcome ≠ .error (.stalled cap) →
        (∃ final x, (solve options cap problem).outcome = .ok final ∧
            (solve options cap problem).points.getLast? = some x ∧ problem.IsOptimal x) ∨
          (∃ optimum, (solve options cap problem).outcome = .error (.infeasible optimum) ∧
            ∀ x, ¬ problem.Feasible x) ∨
          ((solve options cap problem).outcome = .error .unbounded ∧
            (∃ x, problem.Feasible x) ∧ problem.Unbounded) := by
  obtain ⟨bound, bound_pos, small⟩ := exists_small problem
  refine ⟨bound, bound_pos, fun options tol_pos below cap unstalled => ?_⟩
  exact solve_verdict positive tol_pos (small options.tol tol_pos below) unstalled

/-- With either pivot rule and a billionth as the tolerance, the run on the triangle converges at
the corner `(1, 2)`. -/
theorem triangle_converges (rule : PivotRule) :
    (solve ⟨false, 1 / 10 ^ 9, rule⟩ 65536 triangle).outcome.isOk = true ∧
      (solve ⟨false, 1 / 10 ^ 9, rule⟩ 65536 triangle).points.getLast? = some #v[1, 2] := by
  cases rule <;> decide +kernel

/-- Runs on the triangle with a small tolerance converge to its optimal point: it has feasible
points, and the multipliers `1`, `0` and `2` of its rows bound the objective by five.  A billionth
is small enough for a run to end. -/
theorem triangle_isOptimal_of_small_tolerance :
    (∃ bound : Rat, 0 < bound ∧
      ∀ options : Options Rat, 0 < options.tol → options.tol < bound → ∀ cap : Int,
        (solve options cap triangle).outcome ≠ .error (.stalled cap) →
        ∃ final x, (solve options cap triangle).outcome = .ok final ∧
          (solve options cap triangle).points.getLast? = some x ∧ triangle.IsOptimal x) ∧
      ∀ rule : PivotRule,
        (solve ⟨false, 1 / 10 ^ 9, rule⟩ 65536 triangle).outcome.isOk = true ∧
          (solve ⟨false, 1 / 10 ^ 9, rule⟩ 65536 triangle).points.getLast? = some #v[1, 2] := by
  have inside : triangle.Feasible #v[1, 1] := by decide +kernel
  have bounded : ¬ triangle.Unbounded := by
    intro unbounded
    obtain ⟨x, feasible, above⟩ := unbounded 5
    have y_nonneg : ∀ i, 0 ≤ (#v[1, 0, 2] : Vec Rat 3).get i := by decide +kernel
    have columns : ∀ j,
        |(triangle.A.transposeMulVec #v[1, 0, 2]).get j - triangle.c.get j| ≤ 0 := by
      decide +kernel
    have weak := triangle.dot_le_of_multipliers y_nonneg columns feasible
    rw [zero_mul, add_zero] at weak
    exact absurd (weak.trans (by decide +kernel)) (not_le_of_gt above)
  obtain ⟨bound, bound_pos, sound⟩ := solve_sound_of_small_tolerance (by decide) triangle
  refine ⟨⟨bound, bound_pos, fun options tol_pos below cap unstalled => ?_⟩, triangle_converges⟩
  rcases sound options tol_pos below cap unstalled with
    optimal | ⟨_, _, infeasible⟩ | ⟨_, _, unbounded⟩
  · exact optimal
  · exact absurd inside (infeasible _)
  · exact absurd unbounded bounded

end PolyTrace.Simplex
