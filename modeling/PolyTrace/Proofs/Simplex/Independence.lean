import Mathlib
import PolyTrace.Proofs.Failure
import PolyTrace.Proofs.Simplex.Invariant

/-!
# No run meets a singular basis

Over an exact arithmetic and with a positive tolerance, every basis that a run visits selects
independent columns, one for each row.  An exchange keeps this because the entry of the direction in
the leaving row is above the tolerance, and the hand-over keeps it because the columns of the slack
and the artificial variable of a row differ by a sign only.

Independent columns do not include both parts of a variable, whose columns are opposite, and not
both the slack and the artificial variable of a row.  And a run on at least one row does not fail
over a singular matrix.
-/

namespace PolyTrace.Simplex

section Phases

variable {K : Type} [ExactScalar K] {m p : Nat} {program : Program K m p}

/-- The only regular basis that cannot be solved for has no columns at all. -/
theorem Regular.kind_ne_singular {basis : Basis p} (regular : Regular program basis)
    {cause : Failure K} (failed : solution program basis = .error cause) :
    cause.kind ≠ .singular := by
  have noRows := regular.eq_zero_of_unsolved failed
  subst noRows
  rw [solution, dif_pos regular.size, solutionAt] at failed
  cases eq_error_of_map failed
  intro equal
  cases equal

theorem preserved_regular {options : Options K} (tol_pos : 0 < options.tol)
    (program : Program K m p) :
    Preserved options program (Regular program) fun cause => cause.kind ≠ .singular where
  size := Regular.size
  exchange _ solved pivoted := Regular.exchange tol_pos solved pivoted
  unsolved regular failed := regular.kind_ne_singular failed

end Phases

section Runs

variable {K : Type} [ExactScalar K] {m n : Nat}

/-- A basis of the first phase that selects independent columns, one for each row. -/
structure IndependentOne (problem : Problem K m n) (basis : Basis (n + n + m + m)) : Prop where
  size : basis.members.length = m
  columns : LinearIndependent K fun j : {j // basis.get j = true} =>
    (phaseOne problem).A.matrix.col j
  parts : ∀ j : Fin n, ¬ (basis.get (((j.castAdd n).castAdd m).castAdd m) = true ∧
    basis.get (((j.natAdd n).castAdd m).castAdd m) = true)
  rows : ∀ i : Fin m, ¬ (basis.get ((slackColumn i).castAdd m) = true ∧
    basis.get (artificialColumn i) = true)

/-- A basis of the second phase that selects independent columns, one for each row. -/
structure IndependentTwo (problem : Problem K m n) (basis : Basis (n + n + m)) : Prop where
  size : basis.members.length = m
  columns : LinearIndependent K fun j : {j // basis.get j = true} =>
    (phaseTwo problem).A.matrix.col j
  parts : ∀ j : Fin n, ¬ (basis.get ((j.castAdd n).castAdd m) = true ∧
    basis.get ((j.natAdd n).castAdd m) = true)

theorem castAdd_ne_natAdd (j : Fin n) : (j.castAdd n : Fin (n + n)) ≠ j.natAdd n := by
  intro equal
  have values := congrArg Fin.val equal
  simp only [Fin.val_castAdd, Fin.val_natAdd] at values
  omega

/-- The two parts of a variable have opposite columns in the first phase. -/
theorem Regular.independentOne {problem : Problem K m n} {basis : Basis (n + n + m + m)}
    (regular : Regular (phaseOne problem) basis) : IndependentOne problem basis where
  size := regular.size
  columns := independent_iff_linearIndependent.mp regular.independent
  parts := by
    intro j
    apply regular.independent.not_both (a := -1)
    · rw [Ne, Fin.castAdd_inj, Fin.castAdd_inj]
      exact castAdd_ne_natAdd j
    · intro i
      simp only [phaseOne, Mat.get_beside_castAdd, Mat.get_beside_natAdd, Mat.get_neg, neg_one_mul]
  rows := by
    rintro i ⟨slack, artificial⟩
    have unmarked := exclusive_of_independent regular.independent i slack
    rw [artificial] at unmarked
    cases unmarked

theorem Regular.independentTwo {problem : Problem K m n} {basis : Basis (n + n + m)}
    (regular : Regular (phaseTwo problem) basis) : IndependentTwo problem basis where
  size := regular.size
  columns := independent_iff_linearIndependent.mp regular.independent
  parts := by
    intro j
    apply regular.independent.not_both (a := -1)
    · rw [Ne, Fin.castAdd_inj]
      exact castAdd_ne_natAdd j
    · intro i
      simp only [phaseTwo, Problem.splitMatrix, Mat.get_beside_castAdd, Mat.get_beside_natAdd,
        Mat.get_neg, neg_one_mul]

/-- A regular basis is handed over to a regular basis, unless an artificial variable is stuck. -/
theorem Regular.carried {problem : Problem K m n} {basis : Basis (n + n + m + m)}
    (regular : Regular (phaseOne problem) basis) (tol : K) (x : Vec K (n + n + m + m))
    (objective : K) :
    Carried (Regular (phaseTwo problem)) (fun cause => cause.kind ≠ .singular)
      (handover tol basis x objective).outcome := by
  rcases handover_cases regular tol x objective with ⟨i, _, stuck⟩ | ⟨_, passed⟩
  · rw [stuck]
    exact .refused nofun
  · rw [passed]
    exact .passed regular.replaced

theorem keeps_regular_solve {options : Options K} (tol_pos : 0 < options.tol) (cap : Int)
    (problem : Problem K m n) :
    (solve options cap problem).Keeps options cap problem (Regular (phaseOne problem))
      (Regular (phaseTwo problem)) fun cause => cause.kind ≠ .singular :=
  keeps_solve (preserved_regular tol_pos _) (preserved_regular tol_pos _) nofun nofun
    (regular_artificialBasis problem) fun regular => regular.carried options.tol

/-- In exact arithmetic every basis that is visited in either phase, the repaired one between the
phases included, selects independent columns, and no run fails over a singular matrix. -/
theorem solve_bases_independent {options : Options Rat} (tol_pos : 0 < options.tol) (cap : Int)
    (problem : Problem Rat m n) :
    (∀ vertex ∈ (solve options cap problem).first.vertices,
        IndependentOne problem vertex.basis) ∧
      (∀ changes start, (solve options cap problem).between = some ⟨changes, .ok start⟩ →
        IndependentTwo problem start) ∧
      (∀ vertex ∈ (solve options cap problem).secondVertices,
        IndependentTwo problem vertex.basis) ∧
      ∀ cause, (solve options cap problem).outcome = .error cause → cause.kind ≠ .singular := by
  have keeps := keeps_regular_solve tol_pos cap problem
  refine ⟨?_, ?_, ?_, keeps.failure⟩
  · exact fun vertex member => (keeps.first vertex member).independentOne
  · exact fun changes start passed => (keeps.between changes start passed).independentTwo
  · exact fun vertex member => (keeps.second vertex member).independentTwo

/-- On the way to the pinned point each phase visits two bases, and all four select independent
columns. -/
theorem pinned_bases_independent :
    (solve ⟨false, 1 / 10, .bland⟩ 65536 pinned).bases = ["000011", "010001", "0101", "0110"] ∧
      (∀ vertex ∈ (solve ⟨false, 1 / 10, .bland⟩ 65536 pinned).first.vertices,
        IndependentOne pinned vertex.basis) ∧
      ∀ vertex ∈ (solve ⟨false, 1 / 10, .bland⟩ 65536 pinned).secondVertices,
        IndependentTwo pinned vertex.basis := by
  have tol_pos : (0 : Rat) < 1 / 10 := by norm_num
  have bases : (solve ⟨false, 1 / 10, .bland⟩ 65536 pinned).bases =
      ["000011", "010001", "0101", "0110"] := by
    decide +kernel
  obtain ⟨first, -, second, -⟩ :=
    @solve_bases_independent _ _ ⟨false, 1 / 10, .bland⟩ tol_pos 65536 pinned
  exact ⟨bases, first, second⟩

end Runs

end PolyTrace.Simplex
