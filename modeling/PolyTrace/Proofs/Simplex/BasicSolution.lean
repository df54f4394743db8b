import PolyTrace.Proofs.Linear.Elimination
import PolyTrace.Proofs.Simplex.Basis
import PolyTrace.Proofs.Simplex.Path

/-!
# Basic solutions

The columns of a basis are independent when no nonzero vector that is zero outside the basis is sent
to zero.  Over an exact arithmetic a basis has a solution exactly when it has one member for each
row and its columns are independent; the solution is then the only vector that is zero outside the
basis and satisfies the equations, and the reduced costs vanish on the basis.

An entering column `j` makes an edge: the direction in which the entry of `j` grows by one and the
basic entries change so that the equations go on to hold.  Every fact about an exchange of columns
is a fact about moving along an edge.
-/

namespace PolyTrace.Simplex

open Matrix

variable {K : Type} [ExactScalar K] {m p : Nat}

/-- The vector is zero outside the basis. -/
def Supported (basis : Basis p) (z : Fin p → K) : Prop :=
  ∀ j, basis.get j = false → z j = 0

/-- The marked columns of the matrix are independent. -/
def Independent (A : Mat K m p) (basis : Basis p) : Prop :=
  ∀ z : Fin p → K, Supported basis z → A.matrix *ᵥ z = 0 → z = 0

/-- The vector is zero outside the basis and satisfies the equations. -/
structure IsBasic (program : Program K m p) (basis : Basis p) (x : Fin p → K) : Prop where
  supported : Supported basis x
  solves : program.A.matrix *ᵥ x = program.b.get

/-- Independent columns have at most one basic vector. -/
theorem IsBasic.unique {program : Program K m p} {basis : Basis p}
    (independent : Independent program.A basis) {x x' : Fin p → K}
    (first : IsBasic program basis x) (second : IsBasic program basis x') : x = x' := by
  apply sub_eq_zero.mp
  apply independent
  · intro j outside
    rw [Pi.sub_apply, first.supported j outside, second.supported j outside, sub_zero]
  · rw [Matrix.mulVec_sub, first.solves, second.solves, sub_self]

/-- Independent columns do not include a column and a multiple of it. -/
theorem Independent.not_both {A : Mat K m p} {basis : Basis p} (independent : Independent A basis)
    {j k : Fin p} (different : j ≠ k) {a : K}
    (parallel : ∀ i, (A.get i).get k = a * (A.get i).get j) :
    ¬ (basis.get j = true ∧ basis.get k = true) := by
  rintro ⟨first, second⟩
  have vanishes : Pi.single k 1 - Pi.single j a = (0 : Fin p → K) := by
    apply independent
    · intro l outside
      have notFirst : l ≠ j := by
        rintro rfl
        exact absurd (first.symm.trans outside) nofun
      have notSecond : l ≠ k := by
        rintro rfl
        exact absurd (second.symm.trans outside) nofun
      rw [Pi.sub_apply, Pi.single_eq_of_ne notSecond, Pi.single_eq_of_ne notFirst, sub_zero]
    · funext i
      simp [Matrix.mulVec_sub, Matrix.mulVec_single, parallel]
  have entry := congrFun vanishes k
  rw [Pi.sub_apply, Pi.single_eq_same, Pi.single_eq_of_ne different.symm, sub_zero] at entry
  exact one_ne_zero entry

/-- The product with a vector that is zero outside the basis is a combination of the marked
columns. -/
theorem mulVec_eq_sum_marked (A : Mat K m p) {basis : Basis p} {z : Fin p → K}
    (supported : Supported basis z) :
    A.matrix *ᵥ z = ∑ j : {j // basis.get j = true}, z j • A.matrix.col j := by
  funext i
  rw [Finset.sum_apply]
  symm
  apply Fintype.sum_of_injective Subtype.val Subtype.val_injective
  · intro j outside
    have unmarked : basis.get j = false := by
      rw [← Bool.not_eq_true]
      exact fun marked => outside ⟨⟨j, marked⟩, rfl⟩
    rw [supported j unmarked, mul_zero]
  · intro j
    exact mul_comm _ _

/-- The marked columns are independent as a family of vectors. -/
theorem independent_iff_linearIndependent {A : Mat K m p} {basis : Basis p} :
    Independent A basis ↔
      LinearIndependent K fun j : {j // basis.get j = true} => A.matrix.col j := by
  rw [Fintype.linearIndependent_iff]
  constructor
  · intro independent weights vanishes j
    let z : Fin p → K := fun k => if marked : basis.get k = true then weights ⟨k, marked⟩ else 0
    have supported : Supported basis z := fun k outside => dif_neg (by rw [outside]; nofun)
    have extends_weights : ∀ k : {k // basis.get k = true}, z k = weights k := fun k => dif_pos k.2
    have kernel : A.matrix *ᵥ z = 0 := by
      rw [mulVec_eq_sum_marked A supported, ← vanishes]
      exact Finset.sum_congr rfl fun k _ => by rw [extends_weights]
    rw [← extends_weights, independent z supported kernel, Pi.zero_apply]
  · intro independent z supported kernel
    rw [mulVec_eq_sum_marked A supported] at kernel
    have weights := independent (fun j => z j) kernel
    funext j
    by_cases marked : basis.get j = true
    · exact weights ⟨j, marked⟩
    · exact supported j (Bool.eq_false_of_not_eq_true marked)

/-! ## Listed columns -/

/-- The product with a vector that is zero outside the basis uses the listed columns only. -/
theorem mulVec_of_supported {columns : Vector (Fin p) m} {basis : Basis p}
    (lists : Lists columns basis) (A : Mat K m p) {z : Fin p → K} (supported : Supported basis z) :
    A.matrix *ᵥ z = (A.columns columns).matrix *ᵥ fun i => z (columns.get i) := by
  funext i
  rw [Mat.matrix_columns]
  symm
  apply Fintype.sum_of_injective columns.get lists.injective
  · intro j outside
    have unmarked : basis.get j = false := by
      rw [← Bool.not_eq_true, lists.marked_iff]
      exact outside
    rw [supported j unmarked, mul_zero]
  · intro k
    rfl

theorem supported_scatter {columns : Vector (Fin p) m} {basis : Basis p}
    (lists : Lists columns basis) (values : Vec K m) :
    Supported basis (scatter columns values).get :=
  fun _ outside => get_scatter_of_ne values (lists.get_ne outside)

theorem mulVec_scatter {columns : Vector (Fin p) m} {basis : Basis p}
    (lists : Lists columns basis) (A : Mat K m p) (values : Vec K m) :
    A.matrix *ᵥ (scatter columns values).get = (A.columns columns).matrix *ᵥ values.get := by
  rw [mulVec_of_supported lists A (supported_scatter lists values)]
  congr 1
  funext i
  exact get_scatter_column lists.injective values i

/-- The columns are independent exactly when the square matrix of the listed columns sends only zero
to zero. -/
theorem independent_iff {columns : Vector (Fin p) m} {basis : Basis p}
    (lists : Lists columns basis) (A : Mat K m p) :
    Independent A basis ↔
      ∀ z : Fin m → K, (A.columns columns).matrix *ᵥ z = 0 → z = 0 := by
  constructor
  · intro independent z kernel
    have spread : A.matrix *ᵥ (scatter columns (Vector.ofFn z)).get = 0 := by
      rw [mulVec_scatter lists, funext (Vec.get_ofFn z), kernel]
    have vanishes := independent _ (supported_scatter lists _) spread
    funext i
    have entry := congrFun vanishes (columns.get i)
    rw [get_scatter_column lists.injective, Vec.get_ofFn] at entry
    exact entry
  · intro injective z supported kernel
    rw [mulVec_of_supported lists A supported] at kernel
    have listed := injective _ kernel
    funext j
    by_cases marked : basis.get j = true
    · obtain ⟨i, rfl⟩ := (lists.marked_iff j).mp marked
      exact congrFun listed i
    · exact supported j (Bool.eq_false_of_not_eq_true marked)

/-! ## The solution of a basis -/

/-- What the solution of a basis is. -/
structure Solves (program : Program K m p) (basis : Basis p) (here : Solution K m p) : Prop where
  lists : Lists here.columns basis
  independent : Independent program.A basis
  basic : IsBasic program basis here.full.get
  full_column : ∀ i, here.full.get (here.columns.get i) = here.basic.get i
  prices : ∃ y : Fin m → K, ∀ j,
    here.reduced.get j = program.c.get j - (y ᵥ* program.A.matrix) j
  reduced_eq_zero : ∀ j, basis.get j = true → here.reduced.get j = 0
  objective_eq : here.objective = program.c.get ⬝ᵥ here.full.get
  solve_columns : ∀ r : Vec K m,
    (program.A.columns here.columns).matrix *ᵥ (here.factors.solve r).get = r.get

theorem solves_of_solution {program : Program K m p} {basis : Basis p} {here : Solution K m p}
    (solved : solution program basis = .ok here) : Solves program basis here := by
  have size := length_of_solution solved
  have lists := lists_members size
  set columns : Vector (Fin p) m := ⟨basis.members.toArray, by simpa using size⟩
  rw [solution, dif_pos size, solutionAt] at solved
  cases factored : factorize (program.A.columns columns) with
  | error cause =>
      rw [factored] at solved
      cases solved
  | ok factors =>
      rw [factored] at solved
      cases solved
      refine
        { lists := lists
          independent := (independent_iff lists program.A).mpr fun z kernel =>
            eq_zero_of_factorize factored kernel
          basic := ⟨supported_scatter lists _, ?_⟩
          full_column := fun i => get_scatter_column lists.injective _ i
          prices := ⟨(factors.solveTranspose (columns.map fun j => program.c.get j)).get, ?_⟩
          reduced_eq_zero := ?_
          objective_eq := Vec.dot_eq _ _
          solve_columns := mulVec_solve_of_factorize factored }
      · rw [mulVec_scatter lists, mulVec_solve_of_factorize factored]
      · intro j
        rw [Vec.get_sub, Mat.get_transposeMulVec]
      · intro j marked
        obtain ⟨i, rfl⟩ := (lists.marked_iff j).mp marked
        have price := congrFun (vecMul_solveTranspose_of_factorize factored
          (columns.map fun j => program.c.get j)) i
        rw [Vec.get_map, Mat.matrix_columns] at price
        rw [Vec.get_sub, Mat.get_transposeMulVec, ← price, sub_eq_zero]
        rfl

/-- A basis with one independent column for each row has a solution. -/
theorem exists_solution {program : Program K m p} {basis : Basis p} (positive : 0 < m)
    (size : basis.members.length = m) (independent : Independent program.A basis) :
    ∃ here, solution program basis = .ok here := by
  have lists := lists_members size
  obtain ⟨factors, factored⟩ := exists_factorize_eq_ok positive
    ((independent_iff lists program.A).mp independent)
  rw [solution, dif_pos size, solutionAt, factored]
  exact ⟨_, rfl⟩

namespace Solves

variable {program : Program K m p} {basis : Basis p} {here : Solution K m p}

/-- Along a vector that keeps the equations, the objective changes by the reduced costs. -/
theorem dot_of_kernel (solves : Solves program basis here) {z : Fin p → K}
    (kernel : program.A.matrix *ᵥ z = 0) :
    program.c.get ⬝ᵥ z = here.reduced.get ⬝ᵥ z := by
  obtain ⟨y, reduced_eq⟩ := solves.prices
  have split : here.reduced.get = program.c.get - y ᵥ* program.A.matrix := funext reduced_eq
  rw [split, sub_dotProduct, ← dotProduct_mulVec, kernel, dotProduct_zero, sub_zero]

/-- The objective at any vector that satisfies the equations, from the objective of the basis and
the reduced costs. -/
theorem dot_eq_objective_add (solves : Solves program basis here) {t : Fin p → K}
    (equations : program.A.matrix *ᵥ t = program.b.get) :
    program.c.get ⬝ᵥ t = here.objective + here.reduced.get ⬝ᵥ t := by
  have reduced_full : here.reduced.get ⬝ᵥ here.full.get = 0 := by
    apply Finset.sum_eq_zero
    intro j _
    by_cases marked : basis.get j = true
    · rw [solves.reduced_eq_zero j marked, zero_mul]
    · rw [solves.basic.supported j (Bool.eq_false_of_not_eq_true marked), mul_zero]
  have kernel : program.A.matrix *ᵥ (t - here.full.get) = 0 := by
    rw [Matrix.mulVec_sub, equations, solves.basic.solves, sub_self]
  have change := solves.dot_of_kernel kernel
  rw [dotProduct_sub, dotProduct_sub, reduced_full, sub_zero, ← solves.objective_eq] at change
  rw [← change]
  ring

end Solves

/-! ## Edges -/

/-- The direction in which the entry of column `j` grows by one. -/
def Solution.edge (program : Program K m p) (here : Solution K m p) (j : Fin p) : Fin p → K :=
  Pi.single j 1 - (scatter here.columns (here.direction program j)).get

namespace Solves

variable {program : Program K m p} {basis : Basis p} {here : Solution K m p} {j : Fin p}

theorem mulVec_edge (solves : Solves program basis here) (j : Fin p) :
    program.A.matrix *ᵥ here.edge program j = 0 := by
  rw [Solution.edge, Matrix.mulVec_sub, Matrix.mulVec_single_one, mulVec_scatter solves.lists,
    Solution.direction, solves.solve_columns, sub_eq_zero]
  funext i
  rw [Matrix.col_apply, Mat.matrix_apply, Mat.get_column]

theorem edge_entering (solves : Solves program basis here) (outside : basis.get j = false) :
    here.edge program j j = 1 := by
  rw [Solution.edge, Pi.sub_apply, Pi.single_eq_same,
    supported_scatter solves.lists _ j outside, sub_zero]

theorem edge_column (solves : Solves program basis here) (outside : basis.get j = false)
    (i : Fin m) :
    here.edge program j (here.columns.get i) = -(here.direction program j).get i := by
  rw [Solution.edge, Pi.sub_apply, Pi.single_eq_of_ne (solves.lists.get_ne outside i),
    get_scatter_column solves.lists.injective, zero_sub]

theorem edge_other (solves : Solves program basis here) {k : Fin p}
    (outside : basis.get k = false) (other : k ≠ j) : here.edge program j k = 0 := by
  rw [Solution.edge, Pi.sub_apply, Pi.single_eq_of_ne other,
    supported_scatter solves.lists _ k outside, sub_zero]

/-- Along an edge no entry falls faster than the direction allows. -/
theorem neg_le_edge (solves : Solves program basis here) (outside : basis.get j = false) {pace : K}
    (pace_nonneg : 0 ≤ pace) (flat : ∀ i, (here.direction program j).get i ≤ pace) (k : Fin p) :
    -pace ≤ here.edge program j k := by
  by_cases marked : basis.get k = true
  · obtain ⟨i, rfl⟩ := (solves.lists.marked_iff k).mp marked
    rw [solves.edge_column outside]
    exact neg_le_neg (flat i)
  · by_cases entered : k = j
    · rw [entered, solves.edge_entering outside]
      exact (neg_nonpos.mpr pace_nonneg).trans zero_le_one
    · rw [solves.edge_other (Bool.eq_false_of_not_eq_true marked) entered]
      exact neg_nonpos.mpr pace_nonneg

/-- Only basic entries fall along an edge. -/
theorem marked_of_edge_neg (solves : Solves program basis here) (outside : basis.get j = false)
    {k : Fin p} (falls : here.edge program j k < 0) : basis.get k = true := by
  by_contra unmarked
  by_cases entered : k = j
  · rw [entered, solves.edge_entering outside] at falls
    exact absurd zero_le_one (not_le_of_gt falls)
  · rw [solves.edge_other (Bool.eq_false_of_not_eq_true unmarked) entered] at falls
    exact lt_irrefl _ falls

/-- Along an edge the objective grows by the reduced cost of its column. -/
theorem dot_edge (solves : Solves program basis here) (outside : basis.get j = false) :
    program.c.get ⬝ᵥ here.edge program j = here.reduced.get j := by
  rw [solves.dot_of_kernel (solves.mulVec_edge j), dotProduct, Finset.sum_eq_single j]
  · rw [solves.edge_entering outside, mul_one]
  · intro k _ other
    by_cases marked : basis.get k = true
    · rw [solves.reduced_eq_zero k marked, zero_mul]
    · rw [solves.edge_other (Bool.eq_false_of_not_eq_true marked) other, mul_zero]
  · intro absent
    exact absurd (Finset.mem_univ j) absent

/-- An exchange at a row where the direction is not zero keeps the columns independent: on a vector
of the new basis that is sent to zero, the entry of the entering column vanishes at that row. -/
theorem independent_exchange (solves : Solves program basis here)
    (outside : basis.get j = false) {r : Fin m}
    (nonzero : (here.direction program j).get r ≠ 0) :
    Independent program.A (basis.exchange j (here.columns.get r)) := by
  intro z supported kernel
  have along : z - z j • here.edge program j = 0 := by
    apply solves.independent
    · intro k unmarked
      rw [Pi.sub_apply, Pi.smul_apply, smul_eq_mul]
      by_cases equal : k = j
      · rw [equal, solves.edge_entering outside, mul_one, sub_self]
      · have still : (basis.exchange j (here.columns.get r)).get k = false := by
          rw [Basis.get_exchange, if_neg equal, unmarked, ite_self]
        rw [supported k still, solves.edge_other unmarked equal, mul_zero, sub_zero]
    · rw [Matrix.mulVec_sub, Matrix.mulVec_smul, solves.mulVec_edge, kernel, smul_zero, sub_zero]
  have left : z (here.columns.get r) = 0 := by
    apply supported
    rw [Basis.get_exchange, if_pos rfl]
  have entry := congrFun along (here.columns.get r)
  rw [Pi.sub_apply, Pi.smul_apply, smul_eq_mul, solves.edge_column outside, left,
    Pi.zero_apply, zero_sub, mul_neg, neg_neg] at entry
  have vanishes : z j = 0 := (mul_eq_zero.mp entry).resolve_right nonzero
  rw [vanishes, zero_smul, sub_zero] at along
  exact along

/-- The solution after an exchange lies on the edge, where the leaving entry reaches zero. -/
theorem isBasic_exchange (solves : Solves program basis here)
    (outside : basis.get j = false) {r : Fin m}
    (nonzero : (here.direction program j).get r ≠ 0) :
    IsBasic program (basis.exchange j (here.columns.get r))
      (here.full.get +
        (here.basic.get r / (here.direction program j).get r) • here.edge program j) := by
  constructor
  · intro k unmarked
    rw [Pi.add_apply, Pi.smul_apply, smul_eq_mul]
    rw [Basis.get_exchange] at unmarked
    by_cases leaves : k = here.columns.get r
    · rw [leaves, solves.full_column, solves.edge_column outside, mul_neg,
        div_mul_cancel₀ _ nonzero, add_neg_cancel]
    · rw [if_neg leaves] at unmarked
      by_cases enters : k = j
      · rw [if_pos enters] at unmarked
        cases unmarked
      · rw [if_neg enters] at unmarked
        rw [solves.basic.supported k unmarked, solves.edge_other unmarked enters, mul_zero,
          add_zero]
  · rw [Matrix.mulVec_add, Matrix.mulVec_smul, solves.mulVec_edge, smul_zero, add_zero,
      solves.basic.solves]

end Solves

end PolyTrace.Simplex
