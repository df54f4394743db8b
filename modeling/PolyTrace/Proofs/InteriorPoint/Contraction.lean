import Mathlib
import PolyTrace.Proofs.InteriorPoint.Conditions
import PolyTrace.Proofs.InteriorPoint.Orthant

/-!
# The residuals of an interior point run shrink

A step makes up for the residuals of its point, with and without the correction towards the centre.
Residuals are affine in the point, so that the part of the step that is taken removes the same part
of every residual: the primal step length of the rows, the dual step length of the columns.

Along a run, no residual of a row or of a column grows or changes its sign.
-/

namespace PolyTrace.InteriorPoint

open Problem (triangle)

variable {K : Type} [ExactScalar K] {m n : Nat}

/-! ## Shrinking -/

/-- A part of at most `limit` is removed, the same of every entry. -/
def Shrinks (limit : K) (earlier later : Vec K n) : Prop :=
  ∃ part, 0 ≤ part ∧ part ≤ limit ∧ later = earlier.scale (1 - part)

section Shrinking

variable {u v w : Vec K n} {limit bound : K}

theorem Shrinks.mono (shrinks : Shrinks limit u v) (le : limit ≤ bound) : Shrinks bound u v := by
  obtain ⟨part, nonneg, atMost, rfl⟩ := shrinks
  exact ⟨part, nonneg, atMost.trans le, rfl⟩

theorem Shrinks.trans (first : Shrinks 1 u v) (second : Shrinks 1 v w) : Shrinks 1 u w := by
  obtain ⟨p, p_nonneg, p_le, rfl⟩ := first
  obtain ⟨q, q_nonneg, q_le, rfl⟩ := second
  have left_nonneg : 0 ≤ (1 - q) * (1 - p) :=
    mul_nonneg (sub_nonneg.mpr q_le) (sub_nonneg.mpr p_le)
  have left_le : (1 - q) * (1 - p) ≤ 1 :=
    mul_le_one₀ (sub_le_self 1 q_nonneg) (sub_nonneg.mpr p_le) (sub_le_self 1 p_nonneg)
  refine ⟨1 - (1 - q) * (1 - p), sub_nonneg.mpr left_le, sub_le_self 1 left_nonneg, ?_⟩
  apply Vec.ext_get
  intro i
  rw [Vec.get_scale, Vec.get_scale, Vec.get_scale, sub_sub_cancel, mul_assoc]

theorem Shrinks.abs_get_le (shrinks : Shrinks 1 u v) (i : Fin n) : |v.get i| ≤ |u.get i| := by
  obtain ⟨part, nonneg, atMost, rfl⟩ := shrinks
  rw [Vec.get_scale, abs_mul, abs_of_nonneg (sub_nonneg.mpr atMost)]
  exact mul_le_of_le_one_left (abs_nonneg _) (sub_le_self 1 nonneg)

theorem Shrinks.get_mul_get_nonneg (shrinks : Shrinks 1 u v) (i : Fin n) :
    0 ≤ u.get i * v.get i := by
  obtain ⟨part, -, atMost, rfl⟩ := shrinks
  rw [Vec.get_scale, mul_left_comm]
  exact mul_nonneg (sub_nonneg.mpr atMost) (mul_self_nonneg _)

end Shrinking

/-- Both residuals shrink from a point to another, each by a part of its own. -/
structure ResidualsShrink (limit : K) (problem : Problem K m n) (earlier later : Point K m n) :
    Prop where
  rows : Shrinks limit (rowResidual problem earlier) (rowResidual problem later)
  columns : Shrinks limit (columnResidual problem earlier) (columnResidual problem later)

section Points

variable {problem : Problem K m n} {first second third : Point K m n} {limit bound : K}

theorem ResidualsShrink.mono (shrink : ResidualsShrink limit problem first second)
    (le : limit ≤ bound) : ResidualsShrink bound problem first second :=
  ⟨shrink.rows.mono le, shrink.columns.mono le⟩

theorem ResidualsShrink.trans (shrink : ResidualsShrink 1 problem first second)
    (onward : ResidualsShrink 1 problem second third) :
    ResidualsShrink 1 problem first third :=
  ⟨shrink.rows.trans onward.rows, shrink.columns.trans onward.columns⟩

instance : Trans (ResidualsShrink 1 problem) (ResidualsShrink 1 problem)
    (ResidualsShrink 1 problem) :=
  ⟨ResidualsShrink.trans⟩

/-- Parts of at most one compose: what shrinks from link to link of a chain shrinks from any point
to any later one. -/
theorem pairwise_residualsShrink {points : List (Point K m n)} (le_one : limit ≤ 1)
    (chain : points.IsChain (ResidualsShrink limit problem)) :
    points.Pairwise (ResidualsShrink 1 problem) := by
  have links : points.IsChain (ResidualsShrink 1 problem) :=
    chain.imp fun _ _ shrink => shrink.mono le_one
  exact links.pairwise

end Points

/-! ## One step -/

section Steps

variable {options : Options K} {problem : Problem K m n} {point d : Point K m n}

/-- The rows and the columns of a step, in the data of the problem. -/
theorem residual_of_stepAt (found : stepAt problem.negated point = .ok d) :
    (∀ i, (problem.A.mulVec d.x).get i + d.s.get i = -(rowResidual problem point).get i) ∧
      ∀ j, (problem.A.transposeMulVec d.y).get j = -(columnResidual problem point).get j := by
  obtain ⟨rows, columns⟩ := rows_columns_of_direction found
  rw [rows_residuals, Problem.negated, Mat.neg_mulVec] at rows
  rw [columns_residuals, Problem.negated, Mat.neg_transposeMulVec] at columns
  constructor
  · intro i
    rw [← rows, Vec.get_sub, Vec.get_neg]
    ring
  · intro j
    rw [← columns, Vec.get_neg, neg_neg]

/-- The primal step length is the part that is removed of the residual of every row. -/
theorem rowResidual_advance (found : stepAt problem.negated point = .ok d) :
    rowResidual problem (advance options point d) =
      (rowResidual problem point).scale (1 - options.alphaMax * maxStep point.s d.s) := by
  apply Vec.ext_get
  intro i
  have row := (residual_of_stepAt found).1 i
  simp only [rowResidual, advance, Mat.mulVec_along, Vec.get_sub, Vec.get_add, Vec.get_along,
    Vec.get_scale] at row ⊢
  linear_combination options.alphaMax * maxStep point.s d.s * row

/-- The dual step length is the part that is removed of the residual of every column. -/
theorem columnResidual_advance (found : stepAt problem.negated point = .ok d) :
    columnResidual problem (advance options point d) =
      (columnResidual problem point).scale (1 - options.alphaMax * maxStep point.y d.y) := by
  apply Vec.ext_get
  intro j
  have column := (residual_of_stepAt found).2 j
  simp only [columnResidual, advance, Mat.transposeMulVec_along, Vec.get_sub, Vec.get_along,
    Vec.get_scale] at column ⊢
  linear_combination options.alphaMax * maxStep point.y d.y * column

theorem residualsShrink_advance (valid : options.Valid) (nonneg : point.Nonneg)
    (found : stepAt problem.negated point = .ok d) :
    ResidualsShrink options.alphaMax problem point (advance options point d) where
  rows := ⟨_, mul_nonneg valid.alphaMax_pos.le (maxStep_nonneg nonneg.slacks d.s),
    mul_le_of_le_one_right valid.alphaMax_pos.le (maxStep_le_one _ _), rowResidual_advance found⟩
  columns := ⟨_, mul_nonneg valid.alphaMax_pos.le (maxStep_nonneg nonneg.multipliers d.y),
    mul_le_of_le_one_right valid.alphaMax_pos.le (maxStep_le_one _ _),
    columnResidual_advance found⟩

end Steps

/-! ## A whole run -/

/-- From each recorded point of a run to the next, both residuals shrink. -/
theorem isChain_residualsShrink {options : Options K} (valid : options.Valid)
    {problem : Problem K m n} {run : Run K m n} (finished : solve options problem = .ok run) :
    (run.iterates.map (·.toPoint)).IsChain (ResidualsShrink options.alphaMax problem) := by
  rw [List.isChain_map]
  refine isChain_iterates_of_loop (fun _ d nonneg => nonneg.advance valid d) ?_ finished
    start_nonneg
  intro point d _ _ nonneg found
  exact residualsShrink_advance valid nonneg found

/-- From each recorded point of a run to the next, the residuals of the rows and those of the
columns shrink, each by a step length of at most the damping factor.  From any recorded point to
any later one, no residual grows or changes its sign. -/
theorem solve_residuals_shrink {options : Options Rat} (valid : options.Valid)
    {problem : Problem Rat m n} {run : Run Rat m n} (finished : solve options problem = .ok run) :
    let points := run.iterates.map (·.toPoint)
    points.IsChain (ResidualsShrink options.alphaMax problem) ∧
      points.Pairwise fun earlier later =>
        (∀ i, |(rowResidual problem later).get i| ≤ |(rowResidual problem earlier).get i| ∧
          0 ≤ (rowResidual problem earlier).get i * (rowResidual problem later).get i) ∧
        ∀ j, |(columnResidual problem later).get j| ≤ |(columnResidual problem earlier).get j| ∧
          0 ≤ (columnResidual problem earlier).get j * (columnResidual problem later).get j := by
  intro points
  have chain : points.IsChain (ResidualsShrink options.alphaMax problem) :=
    isChain_residualsShrink valid finished
  refine ⟨chain, ?_⟩
  refine (pairwise_residualsShrink valid.alphaMax_le_one chain).imp fun shrink => ⟨?_, ?_⟩
  · intro i
    exact ⟨shrink.rows.abs_get_le i, shrink.rows.get_mul_get_nonneg i⟩
  · intro j
    exact ⟨shrink.columns.abs_get_le j, shrink.columns.get_mul_get_nonneg j⟩

/-- On the triangle, two damped steps remove a part of both residuals. -/
theorem triangle_residuals_shrink :
    ∃ run, solve .coarse triangle = .ok run ∧ run.iterates.length = 3 ∧
      (run.iterates.map (·.toPoint)).IsChain (ResidualsShrink (999 / 1000) triangle) := by
  obtain ⟨run, finished, three⟩ := triangle_run
  exact ⟨run, finished, three, (solve_residuals_shrink Options.coarse_valid finished).1⟩

end PolyTrace.InteriorPoint
