import Mathlib
import PolyTrace.Proofs.Failure
import PolyTrace.Proofs.InteriorPoint.Residuals
import PolyTrace.Proofs.Linear.StepLength
import PolyTrace.Proofs.Problem.Optimality
import PolyTrace.Schema.Options

/-!
# An interior point run stays in the orthant

A run starts with slacks and multipliers that are one, and no step is longer than the longest one
that keeps them nonnegative.  A step that is shorter than that by a fixed part leaves a fixed part of
every slack and of every multiplier, whatever its direction, so that they stay positive.  The mean
complementarity has the sign of its products.
-/

namespace PolyTrace.InteriorPoint

open Problem (triangle)

/-- Settings within the bounds that are checked when they are read. -/
structure Options.Valid {K : Type} [Scalar K] (options : Options K) : Prop where
  epsP_pos : 0 < options.epsP
  epsD_pos : 0 < options.epsD
  epsOpt_pos : 0 < options.epsOpt
  one_le_maxit : 1 ≤ options.maxit
  maxit_le : options.maxit ≤ iterationLimit
  alphaMax_pos : 0 < options.alphaMax
  alphaMax_le_one : options.alphaMax ≤ 1

/-- Tolerances of one hundredth, and two damped steps. -/
def Options.coarse : Options Rat :=
  ⟨false, 1 / 100, 1 / 100, 1 / 100, 2, 999 / 1000⟩

theorem Options.coarse_valid : Options.coarse.Valid := by
  constructor <;> decide +kernel

variable {K : Type} [ExactScalar K] {m n : Nat}

/-! ## One step -/

/-- The slacks and the multipliers of a point are nonnegative. -/
structure Point.Nonneg (point : Point K m n) : Prop where
  slacks : ∀ i, 0 ≤ point.s.get i
  multipliers : ∀ i, 0 ≤ point.y.get i

/-- The slacks and the multipliers of a point are positive. -/
structure Point.Positive (point : Point K m n) : Prop where
  slacks : ∀ i, 0 < point.s.get i
  multipliers : ∀ i, 0 < point.y.get i

theorem Point.Positive.nonneg {point : Point K m n} (positive : point.Positive) :
    point.Nonneg where
  slacks i := (positive.slacks i).le
  multipliers i := (positive.multipliers i).le

theorem start_positive : (start m n : Point K m n).Positive := by
  constructor
  · intro i
    rw [start, Vec.get_ones]
    exact one_pos
  · intro i
    rw [start, Vec.get_ones]
    exact one_pos

theorem start_nonneg : (start m n : Point K m n).Nonneg :=
  start_positive.nonneg

theorem Point.Nonneg.advance {options : Options K} (valid : options.Valid)
    {point : Point K m n} (nonneg : point.Nonneg) (d : Point K m n) :
    (InteriorPoint.advance options point d).Nonneg := by
  have rest_nonneg : 0 ≤ 1 - options.alphaMax := sub_nonneg.mpr valid.alphaMax_le_one
  constructor
  · intro i
    exact (mul_nonneg rest_nonneg (nonneg.slacks i)).trans
      (le_get_along_maxStep nonneg.slacks valid.alphaMax_pos.le d.s i)
  · intro i
    exact (mul_nonneg rest_nonneg (nonneg.multipliers i)).trans
      (le_get_along_maxStep nonneg.multipliers valid.alphaMax_pos.le d.y i)

theorem Point.Positive.advance {options : Options K} (valid : options.Valid)
    (damped : options.alphaMax < 1) {point : Point K m n} (positive : point.Positive)
    (d : Point K m n) : (InteriorPoint.advance options point d).Positive := by
  have rest_pos : 0 < 1 - options.alphaMax := sub_pos.mpr damped
  constructor
  · intro i
    exact (mul_pos rest_pos (positive.slacks i)).trans_le
      (le_get_along_maxStep positive.nonneg.slacks valid.alphaMax_pos.le d.s i)
  · intro i
    exact (mul_pos rest_pos (positive.multipliers i)).trans_le
      (le_get_along_maxStep positive.nonneg.multipliers valid.alphaMax_pos.le d.y i)

/-! ## The mean complementarity -/

theorem complementarity_eq (s y : Vec K m) :
    complementarity s y = (∑ i, s.get i * y.get i) / m := by
  rw [complementarity, Vec.dot_eq]
  simp [Scalar.ofRat, dotProduct]

theorem Point.Nonneg.complementarity_nonneg {point : Point K m n} (nonneg : point.Nonneg) :
    0 ≤ complementarity point.s point.y := by
  rw [complementarity_eq]
  exact div_nonneg
    (Finset.sum_nonneg fun i _ => mul_nonneg (nonneg.slacks i) (nonneg.multipliers i))
    m.cast_nonneg

theorem Point.Positive.complementarity_pos (rows : 0 < m) {point : Point K m n}
    (positive : point.Positive) : 0 < complementarity point.s point.y := by
  have nonempty : Nonempty (Fin m) := ⟨⟨0, rows⟩⟩
  rw [complementarity_eq]
  exact div_pos
    (Finset.sum_pos (fun i _ => mul_pos (positive.slacks i) (positive.multipliers i))
      Finset.univ_nonempty)
    (Nat.cast_pos.mpr rows)

/-! ## A whole run -/

section Runs

variable {options : Options K} {program : Program K m n} {point last : Point K m n}
  {iterates : List (Iterate K m n)}

/-- A run that starts in the orthant ends in it. -/
theorem Trail.nonneg (valid : options.Valid) (trail : Trail options program point iterates last)
    (nonneg : point.Nonneg) : last.Nonneg :=
  trail.last_of_kept (fun _ d nonneg => nonneg.advance valid d) nonneg

/-- A damped run that starts inside the orthant ends inside it. -/
theorem Trail.positive (valid : options.Valid) (damped : options.alphaMax < 1)
    (trail : Trail options program point iterates last) (positive : point.Positive) :
    last.Positive :=
  trail.last_of_kept (fun _ d positive => positive.advance valid damped d) positive

end Runs

/-- Every point that the interior point method records, also in a run that is aborted, has
nonnegative slacks, multipliers and mean complementarity.  They are positive if the steps are
damped. -/
theorem solve_iterates_in_orthant {options : Options Rat} (valid : options.Valid)
    {problem : Problem Rat m n} {run : Run Rat m n} (finished : solve options problem = .ok run) :
    ∀ iterate ∈ run.iterates,
      ((∀ i, 0 ≤ iterate.s.get i) ∧ (∀ i, 0 ≤ iterate.y.get i) ∧ 0 ≤ iterate.mu) ∧
      (options.alphaMax < 1 →
        (∀ i, 0 < iterate.s.get i) ∧ (∀ i, 0 < iterate.y.get i) ∧ 0 < iterate.mu) := by
  intro iterate member
  constructor
  · obtain ⟨point, infeasibility, nonneg, -, rfl⟩ :=
      forall_iterates_of_loop (fun _ d nonneg => nonneg.advance valid d) finished
        start_nonneg iterate member
    exact ⟨nonneg.slacks, nonneg.multipliers, nonneg.complementarity_nonneg⟩
  · intro damped
    obtain ⟨point, infeasibility, positive, attained, rfl⟩ :=
      forall_iterates_of_loop (fun _ d positive => positive.advance valid damped d) finished
        start_positive iterate member
    -- a residual of the rows was found to be the largest, so that there is a row
    obtain ⟨row, -⟩ := exists_abs_eq_of_extremum attained
    exact ⟨positive.slacks, positive.multipliers, positive.complementarity_pos row.pos⟩

theorem triangle_run : ∃ run, solve .coarse triangle = .ok run ∧ run.iterates.length = 3 := by
  have counted : (solve .coarse triangle).map (fun run => run.iterates.length) = .ok 3 := by
    decide +kernel
  exact eq_ok_of_map counted

/-- The two damped steps on the triangle stay inside the orthant. -/
theorem triangle_iterates_positive :
    ∃ run, solve .coarse triangle = .ok run ∧ run.iterates.length = 3 ∧
      ∀ iterate ∈ run.iterates,
        (∀ i, 0 < iterate.s.get i) ∧ (∀ i, 0 < iterate.y.get i) ∧ 0 < iterate.mu := by
  obtain ⟨run, finished, three⟩ := triangle_run
  exact ⟨run, finished, three, fun iterate member =>
    (solve_iterates_in_orthant Options.coarse_valid finished iterate member).2
      (by decide +kernel)⟩

/-- A step that is not damped can reach the boundary: there is no multiplier left. -/
example :
    (solve { Options.coarse with alphaMax := 1 }
        (⟨#v[#v[1]], #v[2], #v[-1]⟩ : Problem Rat 1 1)).map
      (fun run => run.iterates.map fun iterate => (iterate.y.get 0, iterate.mu)) =
      .ok [(1, 1), (0, 0)] := by
  decide +kernel

end PolyTrace.InteriorPoint
