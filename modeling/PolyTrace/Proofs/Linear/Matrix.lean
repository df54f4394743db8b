import Mathlib
import PolyTrace.Linear.Vec
import PolyTrace.Proofs.Arith.Exact

/-!
# Vectors and matrices as functions of their indices

The entries of every vector and matrix operation, read off at one index.  Over an exact arithmetic
the products are the products of Mathlib's matrices, so that its theory applies: `A.matrix` is the
matrix with the entries of `A`, and `u.get` is the function of the entries of `u`.
-/

namespace PolyTrace

open Matrix

namespace Vec

section Entries

variable {α : Type} {n : Nat}

theorem ext_get_iff {u v : Vector α n} : u = v ↔ ∀ i, u.get i = v.get i :=
  ⟨fun equal i => congrArg (fun u => u.get i) equal, ext_get⟩

/-- Exchanging two entries permutes the indices. -/
@[simp]
theorem get_swap (u : Vector α n) (i j k : Fin n) :
    (swap u i j).get k = u.get (Equiv.swap i j k) := by
  unfold swap
  rw [get_put, get_put, Equiv.swap_apply_def]
  by_cases left : k = i
  · by_cases right : k = j
    · rw [if_pos right, if_pos left, ← right, left]
    · rw [if_neg right, if_pos left, if_pos left]
  · by_cases right : k = j
    · rw [if_pos right, if_neg left, if_pos right]
    · rw [if_neg right, if_neg left, if_neg left, if_neg right]

@[simp]
theorem get_cast {m : Nat} (same : n = m) (u : Vector α n) (i : Fin m) :
    (u.cast same).get i = u.get (i.cast same.symm) := by
  subst same
  rfl

theorem get_mem_toList (u : Vector α n) (i : Fin n) : u.get i ∈ u.toList := by
  rw [Vector.mem_toList_iff, Vector.mem_iff_getElem]
  exact ⟨i.val, i.isLt, rfl⟩

theorem exists_get_eq_of_mem_toList {u : Vector α n} {a : α} (member : a ∈ u.toList) :
    ∃ i, u.get i = a := by
  rw [Vector.mem_toList_iff, Vector.mem_iff_getElem] at member
  obtain ⟨i, bounded, entry⟩ := member
  exact ⟨⟨i, bounded⟩, entry⟩

end Entries

section Operations

variable {K : Type} [Scalar K] {n : Nat}

@[simp]
theorem get_zero (i : Fin n) : (zero n : Vec K n).get i = 0 :=
  get_replicate 0 i

@[simp]
theorem get_ones (i : Fin n) : (ones n : Vec K n).get i = 1 :=
  get_replicate 1 i

@[simp]
theorem get_add (u v : Vec K n) (i : Fin n) : (u.add v).get i = u.get i + v.get i :=
  get_zipWith _ u v i

@[simp]
theorem get_sub (u v : Vec K n) (i : Fin n) : (u.sub v).get i = u.get i - v.get i :=
  get_zipWith _ u v i

@[simp]
theorem get_mul (u v : Vec K n) (i : Fin n) : (u.mul v).get i = u.get i * v.get i :=
  get_zipWith _ u v i

@[simp]
theorem get_div (u v : Vec K n) (i : Fin n) : (u.div v).get i = u.get i / v.get i :=
  get_zipWith _ u v i

@[simp]
theorem get_neg (u : Vec K n) (i : Fin n) : (u.neg).get i = -u.get i :=
  get_map _ u i

@[simp]
theorem get_scale (t : K) (u : Vec K n) (i : Fin n) : (u.scale t).get i = t * u.get i :=
  get_map _ u i

@[simp]
theorem get_along (u : Vec K n) (t : K) (d : Vec K n) (i : Fin n) :
    (u.along t d).get i = u.get i + t * d.get i := by
  rw [along, get_add, get_scale]

theorem exists_largest? (u : Vec K (n + 1)) : ∃ a, u.largest? = some a := by
  unfold largest?
  cases listed : u.toList with
  | nil => exact absurd (congrArg List.length listed) (by simp)
  | cons first rest => exact ⟨_, rfl⟩

end Operations

section Exact

variable {K : Type} [ExactScalar K] {n : Nat}

theorem sum_eq (f : Fin n → K) : sum n f = ∑ i, f i := by
  unfold sum
  induction n with
  | zero => rfl
  | succ n inductionHypothesis =>
      rw [Fin.foldl_succ_last, Fin.sum_univ_castSucc, ← inductionHypothesis]

theorem dot_eq (u v : Vec K n) : u.dot v = u.get ⬝ᵥ v.get :=
  sum_eq _

theorem dot_comm (u v : Vec K n) : u.dot v = v.dot u := by
  rw [dot_eq, dot_eq, dotProduct_comm]

theorem neg_dot (u v : Vec K n) : u.neg.dot v = -u.dot v := by
  simp only [dot_eq, dotProduct, get_neg, neg_mul, Finset.sum_neg_distrib]

theorem add_dot (u v w : Vec K n) : (u.add v).dot w = u.dot w + v.dot w := by
  simp only [dot_eq, dotProduct, get_add, add_mul, Finset.sum_add_distrib]

theorem sub_dot (u v w : Vec K n) : (u.sub v).dot w = u.dot w - v.dot w := by
  simp only [dot_eq, dotProduct, get_sub, sub_mul, Finset.sum_sub_distrib]

theorem scale_dot (t : K) (u v : Vec K n) : (u.scale t).dot v = t * u.dot v := by
  simp only [dot_eq, dotProduct, get_scale, mul_assoc, Finset.mul_sum]

theorem dot_add (u v w : Vec K n) : u.dot (v.add w) = u.dot v + u.dot w := by
  rw [dot_comm, add_dot, dot_comm v, dot_comm w]

theorem dot_scale (u : Vec K n) (t : K) (v : Vec K n) : u.dot (v.scale t) = t * u.dot v := by
  rw [dot_comm, scale_dot, dot_comm v]

theorem dot_sub (u v w : Vec K n) : u.dot (v.sub w) = u.dot v - u.dot w := by
  rw [dot_comm, sub_dot, dot_comm v, dot_comm w]

theorem dot_neg (u v : Vec K n) : u.dot v.neg = -u.dot v := by
  rw [dot_comm, neg_dot, dot_comm]

/-- The inner product of nonnegative vectors vanishes only entry by entry. -/
theorem dot_eq_zero_iff_of_nonneg {u v : Vec K n} (u_nonneg : ∀ i, 0 ≤ u.get i)
    (v_nonneg : ∀ i, 0 ≤ v.get i) : u.dot v = 0 ↔ ∀ i, u.get i * v.get i = 0 := by
  rw [dot_eq, dotProduct,
    Finset.sum_eq_zero_iff_of_nonneg fun i _ => mul_nonneg (u_nonneg i) (v_nonneg i)]
  simp only [Finset.mem_univ, true_implies]

@[simp]
theorem get_project (u : Vec K n) (i : Fin n) : u.project.get i = max (u.get i) 0 := by
  rw [project, get_map, Scalar.larger_eq]

/-- The largest entry is at least every entry. -/
theorem get_le_of_largest? {u : Vec K n} {bound : K} (attained : u.largest? = some bound)
    (i : Fin n) : u.get i ≤ bound := by
  have member := get_mem_toList u i
  unfold largest? at attained
  cases listed : u.toList with
  | nil =>
      rw [listed] at member
      exact absurd member List.not_mem_nil
  | cons first rest =>
      rw [listed] at member attained
      obtain ⟨firstBound, restBound⟩ := Scalar.le_foldl_larger first rest
      cases attained
      rcases List.mem_cons.mp member with equal | member
      · rw [equal]
        exact firstBound
      · exact restBound _ member

/-- The largest entry is an entry. -/
theorem exists_get_eq_of_largest? {u : Vec K n} {bound : K} (attained : u.largest? = some bound) :
    ∃ i, u.get i = bound := by
  unfold largest? at attained
  cases listed : u.toList with
  | nil =>
      rw [listed] at attained
      cases attained
  | cons first rest =>
      rw [listed] at attained
      cases attained
      have member := Scalar.foldl_larger_mem first rest
      rw [← listed] at member
      exact exists_get_eq_of_mem_toList member

/-- The largest absolute value bounds every entry. -/
theorem abs_get_le_of_largestAbs? {u : Vec K n} {bound : K} (attained : u.largestAbs? = some bound)
    (i : Fin n) : |u.get i| ≤ bound := by
  have entry := get_le_of_largest? attained i
  rwa [get_map, Scalar.abs_eq] at entry

/-- The largest absolute value is that of an entry. -/
theorem exists_abs_get_eq_of_largestAbs? {u : Vec K n} {bound : K}
    (attained : u.largestAbs? = some bound) : ∃ i, |u.get i| = bound := by
  obtain ⟨i, entry⟩ := exists_get_eq_of_largest? attained
  rw [get_map, Scalar.abs_eq] at entry
  exact ⟨i, entry⟩

/-- The smallest entry is at most every entry. -/
theorem le_get_of_smallest? {u : Vec K n} {bound : K} (attained : u.smallest? = some bound)
    (i : Fin n) : bound ≤ u.get i := by
  have member := get_mem_toList u i
  unfold smallest? at attained
  cases listed : u.toList with
  | nil =>
      rw [listed] at member
      exact absurd member List.not_mem_nil
  | cons first rest =>
      rw [listed] at member attained
      obtain ⟨firstBound, restBound⟩ := Scalar.foldl_smaller_le first rest
      cases attained
      rcases List.mem_cons.mp member with equal | member
      · rw [equal]
        exact firstBound
      · exact restBound _ member

/-- The smallest entry is an entry. -/
theorem exists_get_eq_of_smallest? {u : Vec K n} {bound : K}
    (attained : u.smallest? = some bound) : ∃ i, u.get i = bound := by
  unfold smallest? at attained
  cases listed : u.toList with
  | nil =>
      rw [listed] at attained
      cases attained
  | cons first rest =>
      rw [listed] at attained
      cases attained
      have member := Scalar.foldl_smaller_mem first rest
      rw [← listed] at member
      exact exists_get_eq_of_mem_toList member

end Exact

end Vec

namespace Mat

section Layout

variable {K : Type} {m n p : Nat}

@[simp]
theorem get_ofFn (f : Fin m → Fin n → K) (i : Fin m) (j : Fin n) :
    ((ofFn f).get i).get j = f i j := by
  rw [ofFn, Vec.get_ofFn, Vec.get_ofFn]

@[simp]
theorem get_beside_castAdd (A : Mat K m n) (B : Mat K m p) (i : Fin m) (j : Fin n) :
    ((beside A B).get i).get (j.castAdd p) = (A.get i).get j := by
  rw [beside, Vec.get_zipWith, Vec.get_append_castAdd]

@[simp]
theorem get_beside_natAdd (A : Mat K m n) (B : Mat K m p) (i : Fin m) (j : Fin p) :
    ((beside A B).get i).get (j.natAdd n) = (B.get i).get j := by
  rw [beside, Vec.get_zipWith, Vec.get_append_natAdd]

@[simp]
theorem get_transpose (A : Mat K m n) (i : Fin m) (j : Fin n) :
    (A.transpose.get j).get i = (A.get i).get j :=
  get_ofFn _ j i

@[simp]
theorem get_column (A : Mat K m n) (j : Fin n) (i : Fin m) :
    (A.column j).get i = (A.get i).get j :=
  Vec.get_map _ A i

@[simp]
theorem get_columns (A : Mat K m n) (js : Vector (Fin n) p) (i : Fin m) (k : Fin p) :
    ((A.columns js).get i).get k = (A.get i).get (js.get k) := by
  rw [columns, Vec.get_map, Vec.get_map]

/-- The matrix with the entries of `A`. -/
def matrix (A : Mat K m n) : Matrix (Fin m) (Fin n) K :=
  Matrix.of fun i j => (A.get i).get j

@[simp]
theorem matrix_apply (A : Mat K m n) (i : Fin m) (j : Fin n) :
    A.matrix i j = (A.get i).get j :=
  rfl

theorem matrix_columns (A : Mat K m n) (js : Vector (Fin n) p) :
    (A.columns js).matrix = A.matrix.submatrix id js.get := by
  ext i k
  rw [matrix_apply, get_columns]
  rfl

end Layout

section Operations

variable {K : Type} [Scalar K] {m n : Nat}

@[simp]
theorem get_zero (i : Fin m) (j : Fin n) : ((zero m n : Mat K m n).get i).get j = 0 := by
  simp [zero]

@[simp]
theorem get_identity (i j : Fin n) :
    ((identity n : Mat K n n).get i).get j = if i = j then 1 else 0 :=
  get_ofFn _ i j

@[simp]
theorem get_diagonal (d : Vec K n) (i j : Fin n) :
    ((diagonal d).get i).get j = if i = j then d.get i else 0 :=
  get_ofFn _ i j

@[simp]
theorem get_neg (A : Mat K m n) (i : Fin m) (j : Fin n) :
    ((neg A).get i).get j = -(A.get i).get j := by
  rw [neg, Vec.get_map, Vec.get_neg]

@[simp]
theorem get_scaleRows (d : Vec K m) (A : Mat K m n) (i : Fin m) (j : Fin n) :
    ((scaleRows d A).get i).get j = d.get i * (A.get i).get j := by
  rw [scaleRows, Vec.get_zipWith, Vec.get_scale]

end Operations

section Exact

variable {K : Type} [ExactScalar K] {m n : Nat}

theorem get_mulVec (A : Mat K m n) (x : Vec K n) :
    (A.mulVec x).get = A.matrix *ᵥ x.get := by
  funext i
  rw [mulVec, Vec.get_map, Vec.dot_eq]
  rfl

theorem get_transposeMulVec (A : Mat K m n) (y : Vec K m) :
    (A.transposeMulVec y).get = y.get ᵥ* A.matrix := by
  funext j
  rw [transposeMulVec, Vec.get_ofFn, Vec.sum_eq]
  exact Finset.sum_congr rfl fun i _ => mul_comm _ _

theorem get_mulVec_eq_sum (A : Mat K m n) (x : Vec K n) (i : Fin m) :
    (A.mulVec x).get i = ∑ j, (A.get i).get j * x.get j := by
  rw [get_mulVec]
  rfl

theorem get_transposeMulVec_eq_sum (A : Mat K m n) (y : Vec K m) (j : Fin n) :
    (A.transposeMulVec y).get j = ∑ i, (A.get i).get j * y.get i := by
  rw [transposeMulVec, Vec.get_ofFn, Vec.sum_eq]

theorem mulVec_add (A : Mat K m n) (u v : Vec K n) :
    A.mulVec (u.add v) = (A.mulVec u).add (A.mulVec v) := by
  apply Vec.ext_get
  intro i
  simp only [mulVec, Vec.get_map, Vec.get_add, Vec.dot_add]

theorem transposeMulVec_add (A : Mat K m n) (y z : Vec K m) :
    A.transposeMulVec (y.add z) = (A.transposeMulVec y).add (A.transposeMulVec z) := by
  apply Vec.ext_get
  intro j
  simp only [get_transposeMulVec_eq_sum, Vec.get_add, mul_add, Finset.sum_add_distrib]

theorem transposeMulVec_scale (A : Mat K m n) (t : K) (y : Vec K m) :
    A.transposeMulVec (y.scale t) = (A.transposeMulVec y).scale t := by
  apply Vec.ext_get
  intro j
  rw [Vec.get_scale, get_transposeMulVec_eq_sum, get_transposeMulVec_eq_sum, Finset.mul_sum]
  exact Finset.sum_congr rfl fun i _ => by rw [Vec.get_scale, mul_left_comm]

theorem mulVec_sub (A : Mat K m n) (u v : Vec K n) :
    A.mulVec (u.sub v) = (A.mulVec u).sub (A.mulVec v) := by
  apply Vec.ext_get
  intro i
  simp only [mulVec, Vec.get_map, Vec.get_sub, Vec.dot_sub]

theorem mulVec_along (A : Mat K m n) (u : Vec K n) (t : K) (d : Vec K n) :
    A.mulVec (u.along t d) = (A.mulVec u).along t (A.mulVec d) := by
  apply Vec.ext_get
  intro i
  simp only [mulVec, Vec.along, Vec.get_map, Vec.get_add, Vec.get_scale, Vec.dot_add,
    Vec.dot_scale]

theorem transposeMulVec_along (A : Mat K m n) (y : Vec K m) (t : K) (d : Vec K m) :
    A.transposeMulVec (y.along t d) =
      (A.transposeMulVec y).along t (A.transposeMulVec d) := by
  rw [Vec.along, transposeMulVec_add, transposeMulVec_scale, Vec.along]

theorem neg_mulVec (A : Mat K m n) (x : Vec K n) : A.neg.mulVec x = (A.mulVec x).neg := by
  apply Vec.ext_get
  intro i
  simp only [Vec.get_neg, get_mulVec_eq_sum, get_neg, neg_mul, Finset.sum_neg_distrib]

theorem neg_transposeMulVec (A : Mat K m n) (y : Vec K m) :
    A.neg.transposeMulVec y = (A.transposeMulVec y).neg := by
  apply Vec.ext_get
  intro j
  simp only [Vec.get_neg, get_transposeMulVec_eq_sum, get_neg, neg_mul, Finset.sum_neg_distrib]

theorem mulVec_ofFn_eq_zero_iff (A : Mat K m n) (z : Fin n → K) :
    A.mulVec (Vector.ofFn z) = Vec.zero m ↔ A.matrix *ᵥ z = 0 := by
  have get_z : (Vector.ofFn z).get = z := funext (Vec.get_ofFn z)
  rw [Vec.ext_get_iff, get_mulVec, get_z, funext_iff]
  simp only [Vec.get_zero, Pi.zero_apply]

/-- The columns are independent when only zero is sent to zero. -/
theorem linearIndependent_col_iff (A : Mat K m n) :
    LinearIndependent K A.matrix.col ↔ ∀ z : Fin n → K, A.matrix *ᵥ z = 0 → z = 0 := by
  rw [← mulVec_injective_iff]
  constructor
  · intro injective z kernel
    exact injective (kernel.trans (mulVec_zero A.matrix).symm)
  · intro onlyZero z w equal
    apply sub_eq_zero.mp
    apply onlyZero
    rw [Matrix.mulVec_sub, equal, sub_self]

theorem linearIndependent_col_neg (A : Mat K m n) :
    LinearIndependent K A.neg.matrix.col ↔ LinearIndependent K A.matrix.col := by
  have negated : A.neg.matrix = -A.matrix := by
    ext i j
    rw [Matrix.neg_apply, matrix_apply, matrix_apply, get_neg]
  rw [linearIndependent_col_iff, linearIndependent_col_iff, negated]
  simp only [Matrix.neg_mulVec, neg_eq_zero]

/-- The columns of a combination of the rows, at a point, are the rows at that point combined. -/
theorem transposeMulVec_dot (A : Mat K m n) (y : Vec K m) (x : Vec K n) :
    (A.transposeMulVec y).dot x = (A.mulVec x).dot y := by
  rw [Vec.dot_eq, Vec.dot_eq, get_transposeMulVec, get_mulVec, ← dotProduct_mulVec,
    dotProduct_comm]

end Exact

end Mat

end PolyTrace
