import PolyTrace.Proofs.Simplex.RatioTest

/-!
# What an exchange preserves, and what the end of a phase says

A basis is regular when it has one member for each row and its columns are independent.  For every
positive tolerance an exchange keeps a basis regular, so that over an exact arithmetic a phase on at
least one row never fails to solve for its basis.

At a basis without entering column no reduced cost exceeds the tolerance; this bounds the objective
at every nonnegative solution of the equations.
-/

namespace PolyTrace.Simplex

open Matrix

variable {K : Type} [ExactScalar K] {m p q : Nat}

/-- One independent column for each row. -/
structure Regular (program : Program K m p) (basis : Basis p) : Prop where
  size : basis.members.length = m
  independent : Independent program.A basis

section Exchange

variable {options : Options K} {program : Program K m p} {basis next : Basis p}
  {here : Solution K m p}

theorem ascending_columns (solves : Solves program basis here) :
    StrictMono fun i => (here.columns.get i).val :=
  fun _ _ less => solves.lists.strictMono less

/-- What an exchange does, in terms of the solution at which it is made. -/
theorem exchange_cases (tol_pos : 0 < options.tol) (solves : Solves program basis here)
    (pivoted : pivot options program basis here = .exchange next) :
    ∃ j r, basis.get j = false ∧ options.tol < here.reduced.get j ∧
      options.tol < (here.direction program j).get r ∧
      (∀ i, Beaten options.tol here.basic (here.direction program j) r i) ∧
      next = basis.exchange j (here.columns.get r) := by
  obtain ⟨j, r, enters, leaves, next_eq⟩ := pivot_eq_exchange pivoted
  obtain ⟨outside, gains⟩ := entering_eq_some enters
  obtain ⟨steep, beaten⟩ := leaving_eq_some tol_pos (ascending_columns solves) leaves
  exact ⟨j, r, outside, gains, steep, beaten, next_eq⟩

/-- An exchange leads to a regular basis. -/
theorem Regular.exchange (tol_pos : 0 < options.tol) (solved : solution program basis = .ok here)
    (pivoted : pivot options program basis here = .exchange next) : Regular program next := by
  have solves := solves_of_solution solved
  obtain ⟨j, r, outside, _, steep, _, rfl⟩ := exchange_cases tol_pos solves pivoted
  constructor
  · rw [Basis.length_members_exchange outside (solves.lists.marked r)]
    exact length_of_solution solved
  · exact solves.independent_exchange outside (tol_pos.trans steep).ne'

end Exchange

/-- Every path from a regular basis ends at one. -/
theorem Path.regular {options : Options K} (tol_pos : 0 < options.tol) {program : Program K m p}
    {basis last : Basis p} {visits : List (Visit K m p)}
    (path : Path options program basis visits last) (regular : Regular program basis) :
    Regular program last :=
  path.preserves (fun _ solved pivoted => Regular.exchange tol_pos solved pivoted) regular

/-- A regular basis has a solution. -/
theorem Regular.exists_solution {program : Program K m p} {basis : Basis p}
    (regular : Regular program basis) (positive : 0 < m) :
    ∃ here, solution program basis = .ok here :=
  Simplex.exists_solution positive regular.size regular.independent

/-- A regular basis without a solution belongs to a program without rows. -/
theorem Regular.eq_zero_of_unsolved {program : Program K m p} {basis : Basis p}
    (regular : Regular program basis) {cause : Failure K}
    (failed : solution program basis = .error cause) : m = 0 := by
  by_contra rows
  obtain ⟨here, solved⟩ := regular.exists_solution (Nat.pos_of_ne_zero rows)
  rw [failed] at solved
  cases solved

/-! ## The end of a phase -/

section Endings

variable {options : Options K} {program : Program K m p} {basis : Basis p}
  {here : Solution K m p}

/-- Without entering column, no reduced cost exceeds the tolerance. -/
theorem reduced_le_of_optimal (tol_pos : 0 < options.tol) (solves : Solves program basis here)
    (pivoted : pivot options program basis here = .optimal) (j : Fin p) :
    here.reduced.get j ≤ options.tol := by
  by_cases marked : basis.get j = true
  · rw [solves.reduced_eq_zero j marked]
    exact tol_pos.le
  · exact entering_eq_none (pivot_eq_optimal pivoted) (Bool.eq_false_of_not_eq_true marked)

/-- A bound on the reduced costs bounds the objective at every nonnegative solution of the
equations. -/
theorem Solves.dot_le_of_reduced_le (solves : Solves program basis here) {bound : K}
    (reduced_le : ∀ j, here.reduced.get j ≤ bound) {t : Fin p → K} (nonneg : ∀ j, 0 ≤ t j)
    (equations : program.A.matrix *ᵥ t = program.b.get) :
    program.c.get ⬝ᵥ t ≤ here.objective + bound * ∑ j, t j := by
  rw [solves.dot_eq_objective_add equations, Finset.mul_sum]
  exact add_le_add_right
    (Finset.sum_le_sum fun j _ => mul_le_mul_of_nonneg_right (reduced_le j) (nonneg j)) _

end Endings

end PolyTrace.Simplex
