import Mathlib
import PolyTrace.Engine.Simplex.Phase
import PolyTrace.Proofs.Linear.Matrix

/-!
# Bases and their columns

A basis marks columns; a vector of columns lists it when it names the marked columns in ascending
order.  An exchange keeps the number of members, and `scatter` puts values into the listed columns.
Nothing here depends on the arithmetic.
-/

namespace PolyTrace.Simplex

variable {m p : Nat}

namespace Basis

theorem mem_members {basis : Basis p} {j : Fin p} :
    j ∈ basis.members ↔ basis.get j = true := by
  rw [members, List.mem_filter]
  exact and_iff_right (List.mem_finRange j)

theorem pairwise_members (basis : Basis p) : basis.members.Pairwise (· < ·) :=
  (List.pairwise_lt_finRange p).filter _

theorem length_members (basis : Basis p) :
    basis.members.length = (Finset.univ.filter fun j => basis.get j = true).card := by
  have nodup : basis.members.Nodup := basis.pairwise_members.imp ne_of_lt
  rw [← List.toFinset_card_of_nodup nodup]
  congr 1
  ext j
  rw [List.mem_toFinset, mem_members, Finset.mem_filter]
  exact (and_iff_right (Finset.mem_univ j)).symm

theorem get_exchange (basis : Basis p) (entering leaving j : Fin p) :
    (basis.exchange entering leaving).get j =
      if j = leaving then false else if j = entering then true else basis.get j := by
  rw [exchange, Vec.get_put, Vec.get_put]

/-- An exchange of a marked column for an unmarked one keeps the number of members. -/
theorem length_members_exchange {basis : Basis p} {entering leaving : Fin p}
    (outside : basis.get entering = false) (inside : basis.get leaving = true) :
    (basis.exchange entering leaving).members.length = basis.members.length := by
  have different : entering ≠ leaving := by
    rintro rfl
    rw [inside] at outside
    cases outside
  have marked : (Finset.univ.filter fun j => (basis.exchange entering leaving).get j = true) =
      insert entering ((Finset.univ.filter fun j => basis.get j = true).erase leaving) := by
    ext j
    simp only [Finset.mem_filter, Finset.mem_univ, true_and, Finset.mem_insert, Finset.mem_erase,
      get_exchange]
    by_cases isLeaving : j = leaving
    · simp [isLeaving, different.symm]
    · by_cases isEntering : j = entering <;> simp [isLeaving, isEntering, different]
  have absent : entering ∉ (Finset.univ.filter fun j => basis.get j = true).erase leaving := by
    simp [outside]
  have present : leaving ∈ Finset.univ.filter fun j => basis.get j = true := by
    simp [inside]
  rw [length_members, length_members, marked, Finset.card_insert_of_notMem absent,
    Finset.card_erase_add_one present]

/-- Marking one more column adds one member. -/
theorem length_members_put {basis : Basis p} {j : Fin p} (outside : basis.get j = false) :
    (members (Vec.put basis j true)).length = basis.members.length + 1 := by
  have marked : (Finset.univ.filter fun k => (Vec.put basis j true).get k = true) =
      insert j (Finset.univ.filter fun k => basis.get k = true) := by
    ext k
    by_cases equal : k = j <;> simp [equal]
  have absent : j ∉ Finset.univ.filter fun k => basis.get k = true := by
    simp [outside]
  rw [length_members, length_members, marked, Finset.card_insert_of_notMem absent]

end Basis

/-- The columns name the members of the basis in ascending order. -/
structure Lists (columns : Vector (Fin p) m) (basis : Basis p) : Prop where
  strictMono : StrictMono columns.get
  marked_iff : ∀ j, basis.get j = true ↔ ∃ i, columns.get i = j

namespace Lists

variable {columns : Vector (Fin p) m} {basis : Basis p}

theorem injective (lists : Lists columns basis) : Function.Injective columns.get :=
  lists.strictMono.injective

theorem marked (lists : Lists columns basis) (i : Fin m) : basis.get (columns.get i) = true :=
  (lists.marked_iff _).mpr ⟨i, rfl⟩

/-- A column that is not marked is not listed. -/
theorem get_ne (lists : Lists columns basis) {j : Fin p} (outside : basis.get j = false)
    (i : Fin m) : columns.get i ≠ j := by
  rintro rfl
  rw [lists.marked i] at outside
  cases outside

end Lists

/-- A basis with as many members as there are rows is listed by its members. -/
theorem lists_members {basis : Basis p} (size : basis.members.length = m) :
    Lists (⟨basis.members.toArray, by simpa using size⟩ : Vector (Fin p) m) basis where
  strictMono := by
    intro i k less
    exact List.pairwise_iff_getElem.mp basis.pairwise_members i.val k.val
      (by rw [size]; exact i.isLt) (by rw [size]; exact k.isLt) less
  marked_iff j := by
    rw [← Basis.mem_members, List.mem_iff_getElem]
    constructor
    · rintro ⟨i, bound, equal⟩
      exact ⟨⟨i, by rw [← size]; exact bound⟩, equal⟩
    · rintro ⟨i, equal⟩
      exact ⟨i.val, by rw [size]; exact i.isLt, equal⟩

/-! ## Values in listed columns -/

variable {K : Type}

/-- Putting values one after the other leaves a column alone that is not among theirs. -/
theorem get_foldl_put_of_ne (columns : Vector (Fin p) m) (values : Vec K m)
    (rows : List (Fin m)) (x : Vec K p) {j : Fin p} (other : ∀ i ∈ rows, columns.get i ≠ j) :
    (rows.foldl (fun x i => Vec.put x (columns.get i) (values.get i)) x).get j = x.get j := by
  induction rows generalizing x with
  | nil => rfl
  | cons first rest inductionHypothesis =>
      rw [List.forall_mem_cons] at other
      rw [List.foldl_cons, inductionHypothesis _ other.2, Vec.get_put,
        if_neg (Ne.symm other.1)]

variable [Scalar K]

theorem get_scatter_of_ne {columns : Vector (Fin p) m} (values : Vec K m) {j : Fin p}
    (other : ∀ i, columns.get i ≠ j) : (scatter columns values).get j = 0 := by
  rw [scatter, Fin.foldl_eq_finRange_foldl,
    get_foldl_put_of_ne columns values _ _ fun i _ => other i, Vec.get_zero]

theorem get_scatter_column {columns : Vector (Fin p) m}
    (injective : Function.Injective columns.get) (values : Vec K m) (i : Fin m) :
    (scatter columns values).get (columns.get i) = values.get i := by
  have scan : ∀ (rows : List (Fin m)) (x : Vec K p), i ∈ rows → rows.Nodup →
      (rows.foldl (fun x i => Vec.put x (columns.get i) (values.get i)) x).get (columns.get i) =
        values.get i := by
    intro rows
    induction rows with
    | nil => intro x member; exact absurd member List.not_mem_nil
    | cons first rest inductionHypothesis =>
        intro x member nodup
        rw [List.nodup_cons] at nodup
        rw [List.foldl_cons]
        rcases List.mem_cons.mp member with equal | member
        · subst equal
          have other : ∀ k ∈ rest, columns.get k ≠ columns.get i := by
            intro k later same
            rw [injective same] at later
            exact nodup.1 later
          rw [get_foldl_put_of_ne columns values rest _ other, Vec.get_put, if_pos rfl]
        · exact inductionHypothesis _ member nodup.2
  rw [scatter, Fin.foldl_eq_finRange_foldl]
  exact scan _ _ (List.mem_finRange i) (List.nodup_finRange m)

/-! ## The columns of a solution -/

section Solution

variable {program : Program K m p} {basis : Basis p} {here : Solution K m p}

/-- A basis that has a solution has one column for each row. -/
theorem length_of_solution (solved : solution program basis = .ok here) :
    basis.members.length = m := by
  unfold solution at solved
  split at solved
  · assumption
  · cases solved

/-- The columns of a solution are the members of its basis. -/
theorem lists_of_solution (solved : solution program basis = .ok here) :
    Lists here.columns basis := by
  have size := length_of_solution solved
  rw [solution, dif_pos size, solutionAt] at solved
  cases factored : factorize (program.A.columns ⟨basis.members.toArray, by simpa using size⟩) with
  | error cause =>
      rw [factored] at solved
      cases solved
  | ok factors =>
      rw [factored] at solved
      cases solved
      exact lists_members size

end Solution

end PolyTrace.Simplex
