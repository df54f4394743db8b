import Mathlib
import PolyTrace.Engine.InteriorPoint
import PolyTrace.Proofs.Failure
import PolyTrace.Proofs.Linear.Elimination

/-!
# The linearised conditions

The linearised conditions of a point are equations for a step `d`: the rows of `A d.x - d.s`, the
columns of `Aᵀ d.y`, and the products `y d.s + s d.y`.  Whatever has been factored is solved exactly,
so that a step has the rows and the columns that were asked for, and the correction towards the
centre, which asks for none of either, changes only its products.

At positive slacks and multipliers, the conditions determine a step exactly when the columns of `A`
are independent.
-/

namespace PolyTrace.InteriorPoint

open Matrix

/-! ## The conditions, block by block -/

section Blocks

variable {K : Type} {m n : Nat}

theorem conditions_eq_unknowns (m n : Nat) : m + n + m = n + m + m :=
  congrArg (fun k => k + m) (Nat.add_comm m n)

/-- The condition on a row. -/
def rowCondition (n : Nat) (i : Fin m) : Fin (n + m + m) :=
  ((i.castAdd n).castAdd m).cast (conditions_eq_unknowns m n)

/-- The condition on a column. -/
def columnCondition (m : Nat) (j : Fin n) : Fin (n + m + m) :=
  ((j.natAdd m).castAdd m).cast (conditions_eq_unknowns m n)

/-- The condition on a product. -/
def productCondition (n : Nat) (i : Fin m) : Fin (n + m + m) :=
  (i.natAdd (m + n)).cast (conditions_eq_unknowns m n)

/-- A property of all conditions, block by block. -/
theorem forall_condition {P : Fin (n + m + m) → Prop} (row : ∀ i : Fin m, P (rowCondition n i))
    (column : ∀ j : Fin n, P (columnCondition m j))
    (product : ∀ i : Fin m, P (productCondition n i)) (k : Fin (n + m + m)) : P k := by
  have listed : ∀ k : Fin (m + n + m), P (k.cast (conditions_eq_unknowns m n)) :=
    fun k => Fin.addCases (fun k => Fin.addCases row column k) product k
  exact listed (k.cast (conditions_eq_unknowns m n).symm)

/-- A property of all unknowns, block by block. -/
theorem forall_unknown {P : Fin (n + m + m) → Prop}
    (unknown : ∀ j : Fin n, P ((j.castAdd m).castAdd m))
    (slack : ∀ i : Fin m, P ((i.natAdd n).castAdd m))
    (multiplier : ∀ i : Fin m, P (i.natAdd (n + m))) (k : Fin (n + m + m)) : P k :=
  Fin.addCases (fun k => Fin.addCases unknown slack k) multiplier k

section Stacked

variable {α : Type} (u : Vector α m) (v : Vector α n) (w : Vector α m)

theorem get_stacked_row (i : Fin m) :
    ((u ++ v ++ w).cast (conditions_eq_unknowns m n)).get (rowCondition n i) = u.get i := by
  rw [Vec.get_cast]
  exact (Vec.get_append_castAdd _ w _).trans (Vec.get_append_castAdd u v i)

theorem get_stacked_column (j : Fin n) :
    ((u ++ v ++ w).cast (conditions_eq_unknowns m n)).get (columnCondition m j) = v.get j := by
  rw [Vec.get_cast]
  exact (Vec.get_append_castAdd _ w _).trans (Vec.get_append_natAdd u v j)

theorem get_stacked_product (i : Fin m) :
    ((u ++ v ++ w).cast (conditions_eq_unknowns m n)).get (productCondition n i) = w.get i := by
  rw [Vec.get_cast]
  exact Vec.get_append_natAdd _ w i

end Stacked

/-- Right-hand sides with the same entries have the same blocks. -/
theorem rightSide_inj {rows rows' products products' : Vec K m} {columns columns' : Vec K n} :
    rightSide rows columns products = rightSide rows' columns' products' ↔
      rows = rows' ∧ columns = columns' ∧ products = products' := by
  constructor
  · intro equal
    refine ⟨Vec.ext_get fun i => ?_, Vec.ext_get fun j => ?_, Vec.ext_get fun i => ?_⟩
    · rw [← get_stacked_row rows columns products, ← get_stacked_row rows' columns' products']
      exact Vec.ext_get_iff.mp equal (rowCondition n i)
    · rw [← get_stacked_column rows columns products,
        ← get_stacked_column rows' columns' products']
      exact Vec.ext_get_iff.mp equal (columnCondition m j)
    · rw [← get_stacked_product rows columns products,
        ← get_stacked_product rows' columns' products']
      exact Vec.ext_get_iff.mp equal (productCondition n i)
  · rintro ⟨rfl, rfl, rfl⟩
    rfl

/-- The unknowns of a step, one block after the other. -/
def Point.stacked (d : Point K m n) : Vec K (n + m + m) :=
  d.x ++ d.s ++ d.y

theorem blocks_stacked (d : Point K m n) : blocks d.stacked = d := by
  obtain ⟨x, s, y⟩ := d
  unfold blocks Point.stacked
  congr 1
  · apply Vec.ext_get
    intro j
    rw [Vec.get_ofFn, Vec.get_append_castAdd, Vec.get_append_castAdd]
  · apply Vec.ext_get
    intro i
    rw [Vec.get_ofFn, Vec.get_append_castAdd, Vec.get_append_natAdd]
  · apply Vec.ext_get
    intro i
    rw [Vec.get_ofFn, Vec.get_append_natAdd]

theorem rightSide_zero [Scalar K] :
    rightSide (Vec.zero m) (Vec.zero n) (Vec.zero m) = (Vec.zero (n + m + m) : Vec K _) := by
  apply Vec.ext_get
  refine forall_condition ?_ ?_ ?_
  · intro i
    rw [rightSide, get_stacked_row, Vec.get_zero, Vec.get_zero]
  · intro j
    rw [rightSide, get_stacked_column, Vec.get_zero, Vec.get_zero]
  · intro i
    rw [rightSide, get_stacked_product, Vec.get_zero, Vec.get_zero]

end Blocks

variable {K : Type} [ExactScalar K] {m n : Nat}

/-- The conditions on a step, as the rows, columns and products that the step has. -/
theorem mulVec_system (A : Mat K m n) (s y : Vec K m) (z : Vec K (n + m + m)) :
    (system A s y).mulVec z =
      rightSide ((A.mulVec (blocks z).x).sub (blocks z).s) (A.transposeMulVec (blocks z).y)
        ((y.mul (blocks z).s).add (s.mul (blocks z).y)) := by
  apply Vec.ext_get
  refine forall_condition ?_ ?_ ?_
  · intro i
    rw [rightSide, get_stacked_row, Mat.get_mulVec_eq_sum, system, get_stacked_row, Vec.get_sub,
      Mat.get_mulVec_eq_sum]
    simp [Fin.sum_univ_add, blocks, sub_eq_add_neg]
  · intro j
    rw [rightSide, get_stacked_column, Mat.get_mulVec_eq_sum, system, get_stacked_column,
      Mat.get_transposeMulVec_eq_sum]
    simp [Fin.sum_univ_add, blocks]
  · intro i
    rw [rightSide, get_stacked_product, Mat.get_mulVec_eq_sum, system, get_stacked_product,
      Vec.get_add, Vec.get_mul, Vec.get_mul]
    simp [Fin.sum_univ_add, blocks]

/-! ## The steps that are found -/

section Found

variable {A : Mat K m n} {s y rows : Vec K m} {columns : Vec K n} {mu : K}

/-- What is found with the factors of the conditions satisfies them. -/
theorem conditions_of_factorize {factors : Elimination K (n + m + m)}
    (accepted : factorize (system A s y) = .ok factors) (rows : Vec K m) (columns : Vec K n)
    (products : Vec K m) :
    let d := blocks (factors.solve (rightSide rows columns products))
    (A.mulVec d.x).sub d.s = rows ∧ A.transposeMulVec d.y = columns ∧
      (y.mul d.s).add (s.mul d.y) = products := by
  have solved := mulVec_solve_of_factorize accepted (rightSide rows columns products)
  rw [← Mat.get_mulVec] at solved
  rw [← rightSide_inj, ← mulVec_system]
  exact Vec.ext_get (congrFun solved)

/-- Adding a step without rows and columns changes neither. -/
theorem rows_columns_add {d e : Point K m n}
    (found : (A.mulVec d.x).sub d.s = rows ∧ A.transposeMulVec d.y = columns)
    (centring : (A.mulVec e.x).sub e.s = Vec.zero m ∧ A.transposeMulVec e.y = Vec.zero n) :
    (A.mulVec (d.add e).x).sub (d.add e).s = rows ∧
      A.transposeMulVec (d.add e).y = columns := by
  obtain ⟨rows_eq, columns_eq⟩ := found
  obtain ⟨noRows, noColumns⟩ := centring
  subst rows_eq columns_eq
  constructor
  · apply Vec.ext_get
    intro i
    have noRow := Vec.ext_get_iff.mp noRows i
    simp only [Vec.get_sub, Vec.get_zero] at noRow
    simp only [Point.add, Mat.mulVec_add, Vec.get_sub, Vec.get_add]
    linarith
  · apply Vec.ext_get
    intro j
    rw [Point.add, Mat.transposeMulVec_add, Vec.get_add, noColumns, Vec.get_zero, add_zero]

/-- A step has the rows and the columns it was computed for, with and without a correction. -/
theorem rows_columns_of_direction {d : Point K m n}
    (found : direction A s y rows columns mu = .ok d) :
    (A.mulVec d.x).sub d.s = rows ∧ A.transposeMulVec d.y = columns := by
  unfold direction at found
  obtain ⟨factors, accepted, found⟩ := bind_eq_ok found
  have solves := conditions_of_factorize (ofFailure_eq_ok accepted)
  obtain ⟨fullRows, fullColumns, -⟩ := solves rows columns (s.neg.mul y)
  dsimp only at found
  split at found
  · cases found
    exact ⟨fullRows, fullColumns⟩
  · obtain ⟨sigma, -, found⟩ := bind_eq_ok found
    cases found
    obtain ⟨noRows, noColumns, -⟩ := solves (Vec.zero m) (Vec.zero n) _
    exact rows_columns_add ⟨fullRows, fullColumns⟩ ⟨noRows, noColumns⟩

/-- There is no step exactly when the conditions cannot be factored, and for the same reason. -/
theorem direction_eq_failure_iff {cause : Failure K} :
    direction A s y rows columns mu = .error (.failure cause) ↔
      factorize (system A s y) = .error cause := by
  constructor
  · intro failed
    unfold direction at failed
    rcases bind_eq_error failed with refused | ⟨factors, -, failed⟩
    · exact ofFailure_eq_failure refused
    · dsimp only at failed
      split at failed
      · cases failed
      · rcases bind_eq_error failed with weightless | ⟨sigma, -, failed⟩
        · exact absurd weightless ofFault_ne_failure
        · cases failed
  · intro refused
    rw [direction, refused]
    rfl

end Found

/-! ## When the conditions determine a step -/

section Determined

variable {A : Mat K m n} {s y : Vec K m}

/-- Two steps that are orthogonal and whose weighted sum vanishes are zero, if the weights are
positive: each product of their entries is at most zero, and their sum is zero. -/
theorem eq_zero_of_orthogonal (s_pos : ∀ i, 0 < s.get i) (y_pos : ∀ i, 0 < y.get i)
    {ds dy : Vec K m} (orthogonal : ds.dot dy = 0)
    (products : ∀ i, y.get i * ds.get i + s.get i * dy.get i = 0) :
    (∀ i, ds.get i = 0) ∧ ∀ i, dy.get i = 0 := by
  have weighted : ∀ i, y.get i * (ds.get i * dy.get i) = -(s.get i * dy.get i ^ 2) := by
    intro i
    linear_combination dy.get i * products i
  have nonpos : ∀ i, ds.get i * dy.get i ≤ 0 := by
    intro i
    have square : 0 ≤ s.get i * dy.get i ^ 2 := mul_nonneg (s_pos i).le (sq_nonneg _)
    exact nonpos_of_mul_nonpos_right ((weighted i).le.trans (neg_nonpos.mpr square)) (y_pos i)
  have vanishes : ∀ i, ds.get i * dy.get i = 0 := by
    intro i
    rw [Vec.dot_eq, dotProduct] at orthogonal
    exact (Finset.sum_eq_zero_iff_of_nonpos fun i _ => nonpos i).mp orthogonal i
      (Finset.mem_univ i)
  have dy_zero : ∀ i, dy.get i = 0 := by
    intro i
    have square : s.get i * dy.get i ^ 2 = 0 := by
      rw [← neg_eq_zero, ← weighted, vanishes, mul_zero]
    exact pow_eq_zero_iff two_ne_zero |>.mp ((mul_eq_zero.mp square).resolve_left (s_pos i).ne')
  refine ⟨fun i => ?_, dy_zero⟩
  have product := products i
  rw [dy_zero, mul_zero, add_zero] at product
  exact (mul_eq_zero.mp product).resolve_left (y_pos i).ne'

/-- At positive slacks and multipliers, a step that has no rows, columns and products has no slacks
and no multipliers, and its variables are sent to zero. -/
theorem blocks_of_mulVec_system_eq_zero (s_pos : ∀ i, 0 < s.get i) (y_pos : ∀ i, 0 < y.get i)
    {z : Vec K (n + m + m)} (kernel : (system A s y).mulVec z = Vec.zero (n + m + m)) :
    (∀ i, (A.mulVec (blocks z).x).get i = 0) ∧ (∀ i, (blocks z).s.get i = 0) ∧
      ∀ i, (blocks z).y.get i = 0 := by
  rw [mulVec_system, ← rightSide_zero, rightSide_inj] at kernel
  obtain ⟨noRows, noColumns, noProducts⟩ := kernel
  set d := blocks z
  have slacks : ∀ i, (A.mulVec d.x).get i = d.s.get i := by
    intro i
    have noRow := Vec.ext_get_iff.mp noRows i
    rw [Vec.get_sub, Vec.get_zero] at noRow
    exact sub_eq_zero.mp noRow
  -- the slacks are rows of `A`, and the multipliers have no columns
  have orthogonal : d.s.dot d.y = 0 := by
    rw [← Vec.ext_get slacks, ← Mat.transposeMulVec_dot, noColumns, Vec.dot_eq]
    simp [dotProduct]
  have products : ∀ i, y.get i * d.s.get i + s.get i * d.y.get i = 0 := by
    intro i
    have noProduct := Vec.ext_get_iff.mp noProducts i
    rwa [Vec.get_add, Vec.get_mul, Vec.get_mul, Vec.get_zero] at noProduct
  obtain ⟨noSlack, noMultiplier⟩ := eq_zero_of_orthogonal s_pos y_pos orthogonal products
  exact ⟨fun i => (slacks i).trans (noSlack i), noSlack, noMultiplier⟩

/-- Variables that are sent to zero are a step without rows, columns and products. -/
theorem mulVec_system_of_kernel (s y : Vec K m) {x : Vec K n} (kernel : A.mulVec x = Vec.zero m) :
    (system A s y).mulVec (Point.stacked ⟨x, Vec.zero m, Vec.zero m⟩) =
      Vec.zero (n + m + m) := by
  rw [mulVec_system, blocks_stacked, ← rightSide_zero, rightSide_inj, kernel]
  refine ⟨Vec.ext_get fun i => ?_, Vec.ext_get fun j => ?_, Vec.ext_get fun i => ?_⟩
  · simp
  · simp [Mat.get_transposeMulVec_eq_sum]
  · simp

/-- At positive slacks and multipliers, the conditions can be factored exactly when the columns are
independent. -/
theorem exists_factorize_system_iff (unknowns : 0 < n) (s_pos : ∀ i, 0 < s.get i)
    (y_pos : ∀ i, 0 < y.get i) :
    (∃ factors, factorize (system A s y) = .ok factors) ↔
      LinearIndependent K A.matrix.col := by
  rw [Mat.linearIndependent_col_iff]
  constructor
  · rintro ⟨factors, accepted⟩ x kernel
    have vanishes := mulVec_system_of_kernel s y ((Mat.mulVec_ofFn_eq_zero_iff A x).mpr kernel)
    have zero : (Point.stacked ⟨Vector.ofFn x, Vec.zero m, Vec.zero m⟩).get = 0 := by
      apply eq_zero_of_factorize accepted
      rw [← Mat.get_mulVec, vanishes]
      exact funext Vec.get_zero
    funext j
    have entry := congrFun zero ((j.castAdd m).castAdd m)
    rwa [Point.stacked, Vec.get_append_castAdd, Vec.get_append_castAdd, Vec.get_ofFn] at entry
  · intro independent
    apply exists_factorize_eq_ok (by omega)
    intro z kernel
    obtain ⟨sent, noSlack, noMultiplier⟩ := blocks_of_mulVec_system_eq_zero s_pos y_pos
      ((Mat.mulVec_ofFn_eq_zero_iff _ z).mpr kernel)
    have noUnknown : (blocks (Vector.ofFn z)).x.get = 0 := by
      apply independent
      rw [← Mat.get_mulVec]
      exact funext sent
    funext k
    revert k
    refine forall_unknown ?_ ?_ ?_
    · intro j
      simpa [blocks] using congrFun noUnknown j
    · intro i
      simpa [blocks] using noSlack i
    · intro i
      simpa [blocks] using noMultiplier i

end Determined

end PolyTrace.InteriorPoint
