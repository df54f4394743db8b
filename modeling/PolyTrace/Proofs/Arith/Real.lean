import Mathlib
import PolyTrace.Proofs.Linear.Matrix

/-!
# Real arithmetic

The real numbers are an exact arithmetic that also has the square root, the logarithm and the powers
of ten.  The engines that measure lengths or use a barrier are read over them.

The length of a vector is then the Euclidean one: it is at least every entry, and the inner product
of two vectors is at most the product of their lengths.
-/

namespace PolyTrace

open Matrix

noncomputable instance instExactScalarReal : ExactScalar ℝ where

/-- The real numbers as the arithmetic of an engine. -/
noncomputable instance instAnalyticReal : Analytic ℝ where
  sqrt := Real.sqrt
  log := Real.log
  powTen a := (10 : ℝ) ^ a

theorem Analytic.powTen_pos (a : ℝ) : 0 < Analytic.powTen a :=
  Real.rpow_pos_of_pos (by norm_num) a

namespace Vec

variable {n : Nat}

theorem norm_eq (u : Vec ℝ n) : u.norm = √(∑ i, u.get i ^ 2) := by
  have square : u.dot u = ∑ i, u.get i ^ 2 := by
    rw [dot_eq]
    exact Finset.sum_congr rfl fun i _ => (sq (u.get i)).symm
  exact congrArg Real.sqrt square

theorem norm_nonneg (u : Vec ℝ n) : 0 ≤ u.norm :=
  Real.sqrt_nonneg _

/-- No entry is larger than the length. -/
theorem abs_get_le_norm (u : Vec ℝ n) (i : Fin n) : |u.get i| ≤ u.norm := by
  rw [norm_eq]
  apply Real.abs_le_sqrt
  exact Finset.single_le_sum (f := fun i => u.get i ^ 2) (fun j _ => sq_nonneg (u.get j))
    (Finset.mem_univ i)

/-- The inner product is at most the product of the lengths. -/
theorem abs_dot_le_norm_mul_norm (u v : Vec ℝ n) : |u.dot v| ≤ u.norm * v.norm := by
  rw [norm_eq, norm_eq, dot_eq, ← Real.sqrt_mul (Finset.sum_nonneg fun i _ => sq_nonneg (u.get i))]
  exact Real.abs_le_sqrt (Finset.sum_mul_sq_le_sq_mul_sq Finset.univ u.get v.get)

end Vec

end PolyTrace
