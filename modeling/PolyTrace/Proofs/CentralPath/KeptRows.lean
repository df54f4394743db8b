import Mathlib
import PolyTrace.Proofs.CentralPath.Interior
import PolyTrace.Proofs.Problem.Optimality

/-!
# Rows of weight zero

Rows of weight zero are left out before the path starts.  The region of the remaining rows is that
of all rows whose weight is not zero.  The rows that are left out carry no weight: they add nothing
to the sum of the weights, to the gradient, to the curvature, or to the barrier of a point inside
the region.
-/

namespace PolyTrace.CentralPath

section Kept

variable {K : Type} [ExactScalar K] {m n : Nat}

theorem mem_keptRows_iff {w : Vec K m} {i : Fin m} : i ∈ keptRows w ↔ w.get i ≠ 0 := by
  unfold keptRows
  simp [Scalar.same_iff]

/-- A property of all rows of the reduced problem is one of the rows whose weight is not zero. -/
theorem forall_keptRows_iff {w : Vec K m} {P : Fin m → Prop} :
    (∀ k : Fin (keptRows w).length, P ((keptRows w).get k)) ↔ ∀ i, w.get i ≠ 0 → P i := by
  simp only [← mem_keptRows_iff]
  exact List.forall_mem_iff_get.symm

theorem reduced_mulVec (problem : Weighted K m n) (x : Vec K n)
    (k : Fin (keptRows problem.w).length) :
    (problem.reduced.A.mulVec x).get k =
      (problem.A.mulVec x).get ((keptRows problem.w).get k) := by
  simp only [Weighted.reduced, Mat.mulVec, Vec.get_map, Vec.get_ofFn]

theorem get_slacks_reduced (problem : Weighted K m n) (x : Vec K n)
    (k : Fin (keptRows problem.w).length) :
    (slacks problem.reduced.toProblem x).get k =
      (slacks problem.toProblem x).get ((keptRows problem.w).get k) := by
  rw [get_slacks, get_slacks, reduced_mulVec, Weighted.reduced, Vec.get_ofFn]

theorem interior_reduced_iff {problem : Weighted K m n} {x : Vec K n} :
    Interior problem.reduced.toProblem x ↔
      ∀ i, problem.w.get i ≠ 0 → (problem.A.mulVec x).get i < problem.b.get i := by
  rw [interior_iff, ← forall_keptRows_iff]
  refine forall_congr' fun k => ?_
  rw [reduced_mulVec, Weighted.reduced, Vec.get_ofFn]

theorem feasible_reduced_iff {problem : Weighted K m n} {x : Vec K n} :
    problem.reduced.Feasible x ↔
      ∀ i, problem.w.get i ≠ 0 → (problem.A.mulVec x).get i ≤ problem.b.get i := by
  rw [Problem.Feasible, ← forall_keptRows_iff]
  refine forall_congr' fun k => ?_
  rw [reduced_mulVec, Weighted.reduced, Vec.get_ofFn]

/-- A sum over the rows that are kept is one over all rows, if the others add nothing. -/
theorem sum_keptRows {w : Vec K m} {f : Fin m → K} (dropped : ∀ i, w.get i = 0 → f i = 0) :
    ∑ k : Fin (keptRows w).length, f ((keptRows w).get k) = ∑ i, f i := by
  have distinct : Function.Injective (keptRows w).get :=
    List.nodup_iff_injective_get.mp ((List.nodup_finRange m).filter _)
  refine Finset.sum_of_injOn (keptRows w).get distinct.injOn
    (fun k _ => Finset.mem_coe.mpr (Finset.mem_univ _)) ?_ fun k _ => rfl
  intro i _ missed
  apply dropped
  by_contra weighted
  obtain ⟨k, at_k⟩ := List.mem_iff_get.mp (mem_keptRows_iff.mpr weighted)
  exact missed ⟨k, Finset.mem_coe.mpr (Finset.mem_univ k), at_k⟩

theorem sum_reduced_w (problem : Weighted K m n) :
    ∑ k, problem.reduced.w.get k = ∑ i, problem.w.get i := by
  calc
    ∑ k, problem.reduced.w.get k = ∑ k, problem.w.get ((keptRows problem.w).get k) :=
      Finset.sum_congr rfl fun k _ => Vec.get_ofFn _ k
    _ = ∑ i, problem.w.get i := sum_keptRows fun i zero => zero

/-- Rows of weight zero do not bend the barrier. -/
theorem gradient_reduced (problem : Weighted K m n) (mu : K) (x : Vec K n) :
    gradient problem.reduced mu x = gradient problem mu x := by
  have pull : problem.reduced.A.transposeMulVec
      (problem.reduced.w.div (slacks problem.reduced.toProblem x)) =
      problem.A.transposeMulVec (problem.w.div (slacks problem.toProblem x)) := by
    apply Vec.ext_get
    intro j
    rw [Mat.get_transposeMulVec_eq_sum, Mat.get_transposeMulVec_eq_sum,
      ← sum_keptRows (w := problem.w) fun i zero => by rw [Vec.get_div, zero, zero_div, mul_zero]]
    refine Finset.sum_congr rfl fun k _ => ?_
    rw [Vec.get_div, Vec.get_div, get_slacks_reduced]
    simp only [Weighted.reduced, Vec.get_ofFn]
  unfold gradient
  dsimp only
  rw [pull]
  rfl

/-- The entries of the curvature. -/
theorem get_curvature (problem : Weighted K m n) (mu : K) (x : Vec K n) (j k : Fin n) :
    ((curvature problem mu x).get j).get k =
      mu * ∑ i, (problem.A.get i).get j *
        (problem.w.get i / ((slacks problem.toProblem x).get i *
          (slacks problem.toProblem x).get i) * (problem.A.get i).get k) := by
  simp only [curvature, Mat.transposeMul, Mat.ofFn, Mat.scaleRows, Vec.get_map, Vec.get_ofFn,
    Vec.get_scale, Vec.sum_eq, Vec.get_zipWith, Vec.get_div, Vec.get_mul]

/-- Rows of weight zero do not add to the curvature. -/
theorem curvature_reduced (problem : Weighted K m n) (mu : K) (x : Vec K n) :
    curvature problem.reduced mu x = curvature problem mu x := by
  apply Vec.ext_get
  intro j
  apply Vec.ext_get
  intro k
  rw [get_curvature, get_curvature,
    ← sum_keptRows (w := problem.w) fun i zero => by rw [zero, zero_div, zero_mul, mul_zero]]
  congr 1
  refine Finset.sum_congr rfl fun i _ => ?_
  rw [get_slacks_reduced]
  simp only [Weighted.reduced, Vec.get_ofFn]

end Kept

/-! ## The barrier inside the region -/

section Barrier

variable {m n : Nat} {problem : Weighted ℝ m n} {x : Vec ℝ n}

theorem barrier_eq_inside (mu : ℝ) (interior : Interior problem.toProblem x) :
    barrier problem mu x = .inside (problem.c.dot x +
      mu * ∑ i, problem.w.get i * Real.log ((slacks problem.toProblem x).get i)) := by
  have entered : barrier problem mu x ≠ .outside :=
    fun outside => barrier_eq_outside_iff.mp outside interior
  have logarithms : problem.w.dot ((slacks problem.toProblem x).map Analytic.log) =
      ∑ i, problem.w.get i * Real.log ((slacks problem.toProblem x).get i) := by
    rw [Vec.dot_eq]
    exact Finset.sum_congr rfl fun i _ => by rw [Vec.get_map]; rfl
  rw [← logarithms]
  unfold barrier at entered ⊢
  dsimp only at entered ⊢
  split at entered
  · exact absurd rfl entered
  · rename_i inside
    exact if_neg inside

/-- Rows of weight zero do not add to the barrier of a point inside the region of the others. -/
theorem barrier_reduced (mu : ℝ) (interior : Interior problem.reduced.toProblem x) :
    barrier problem.reduced mu x = .inside (problem.c.dot x +
      mu * ∑ i, problem.w.get i * Real.log ((slacks problem.toProblem x).get i)) := by
  rw [barrier_eq_inside mu interior,
    ← sum_keptRows (w := problem.w) fun i zero => by rw [zero, zero_mul]]
  congr 2
  refine congrArg (mu * ·) (Finset.sum_congr rfl fun k _ => ?_)
  rw [get_slacks_reduced]
  simp only [Weighted.reduced, Vec.get_ofFn]

end Barrier

end PolyTrace.CentralPath
