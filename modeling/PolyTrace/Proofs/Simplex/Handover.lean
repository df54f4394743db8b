import PolyTrace.Proofs.Simplex.Programs

/-!
# The hand-over between the phases

A regular basis of the first phase never marks the slack and the artificial variable of one row,
since the two columns differ by a sign.  So the artificial columns left in the basis are replaced
one by one by slacks, the number of members stays the same, and nothing is padded.  The new basis is
regular in the second phase, and its solution is the last solution of the first phase with the
artificial variables added to the slacks: the point that is shown does not move.
-/

namespace PolyTrace.Simplex

open Matrix

/-! ## The repaired basis -/

section Repair

variable {m n : Nat}

/-- A property of all columns of the first phase, block by block. -/
theorem forall_firstColumn {P : Fin (n + n + m + m) → Prop}
    (unknown : ∀ j : Fin (n + n), P ((j.castAdd m).castAdd m))
    (slack : ∀ i : Fin m, P ((slackColumn i).castAdd m))
    (artificial : ∀ i : Fin m, P (artificialColumn i)) (j : Fin (n + n + m + m)) : P j :=
  Fin.addCases (fun j => Fin.addCases unknown slack j) artificial j

/-- A property of all columns of the second phase, block by block. -/
theorem forall_secondColumn {P : Fin (n + n + m) → Prop}
    (unknown : ∀ j : Fin (n + n), P (j.castAdd m)) (slack : ∀ i : Fin m, P (slackColumn i))
    (j : Fin (n + n + m)) : P j :=
  Fin.addCases unknown slack j

/-- One replacement marks the slack of its row if the artificial variable was basic. -/
theorem get_replaceArtificial (basis : Basis (n + n + m + m)) (state : Repaired (n + n + m))
    (i : Fin m) (j : Fin (n + n + m)) :
    (replaceArtificial basis state i).basis.get j = true ↔
      state.basis.get j = true ∨ j = slackColumn i ∧ basis.get (artificialColumn i) = true := by
  unfold replaceArtificial
  cases artificial : basis.get (artificialColumn i) with
  | false => simp
  | true =>
      cases slack : state.basis.get (slackColumn i) with
      | true =>
          simp only [Bool.not_true, Bool.and_false, Bool.false_eq_true, if_false, and_true]
          constructor
          · exact Or.inl
          · rintro (already | rfl)
            · exact already
            · exact slack
      | false =>
          simp only [Bool.not_false, Bool.and_true, if_true, Vec.get_put, and_true]
          by_cases equal : j = slackColumn i <;> simp [equal]

theorem get_foldl_replaceArtificial (basis : Basis (n + n + m + m)) (rows : List (Fin m))
    (state : Repaired (n + n + m)) (j : Fin (n + n + m)) :
    (rows.foldl (replaceArtificial basis) state).basis.get j = true ↔
      state.basis.get j = true ∨
        ∃ i ∈ rows, j = slackColumn i ∧ basis.get (artificialColumn i) = true := by
  induction rows generalizing state with
  | nil => simp
  | cons first rest inductionHypothesis =>
      rw [List.foldl_cons, inductionHypothesis, get_replaceArtificial, List.exists_mem_cons_iff,
        or_assoc]

/-- Padding leaves a basis with enough members alone. -/
theorem foldl_padSlack_of_length (rows : List (Fin m)) {state : Repaired (n + n + m)}
    (enough : m ≤ state.basis.members.length) : rows.foldl padSlack state = state := by
  induction rows with
  | nil => rfl
  | cons first rest inductionHypothesis =>
      have unchanged : padSlack state first = state := by
        unfold padSlack
        exact if_neg fun short => absurd short.1 (not_lt_of_ge enough)
      rw [List.foldl_cons, unchanged, inductionHypothesis]

/-- No row has both its slack and its artificial variable in the basis. -/
def Exclusive (basis : Basis (n + n + m + m)) : Prop :=
  ∀ i : Fin m, basis.get ((slackColumn i).castAdd m) = true →
    basis.get (artificialColumn i) = false

/-- The basis with its artificial columns replaced by slacks. -/
def replaced (basis : Basis (n + n + m + m)) : Repaired (n + n + m) :=
  Fin.foldl m (replaceArtificial basis) ⟨dropArtificials basis, []⟩

theorem get_replaced (basis : Basis (n + n + m + m)) (j : Fin (n + n + m)) :
    (replaced basis).basis.get j = true ↔
      basis.get (j.castAdd m) = true ∨
        ∃ i, j = slackColumn i ∧ basis.get (artificialColumn i) = true := by
  rw [replaced, Fin.foldl_eq_finRange_foldl, get_foldl_replaceArtificial, dropArtificials,
    Vec.get_ofFn]
  simp only [List.mem_finRange, true_and]

theorem get_replaced_variable (basis : Basis (n + n + m + m)) (j : Fin (n + n)) :
    (replaced basis).basis.get (j.castAdd m) = true ↔
      basis.get ((j.castAdd m).castAdd m) = true := by
  rw [get_replaced]
  constructor
  · rintro (marked | ⟨i, equal, _⟩)
    · exact marked
    · have values := congrArg Fin.val equal
      simp only [Fin.val_castAdd, slackColumn, Fin.val_natAdd] at values
      omega
  · exact Or.inl

theorem get_replaced_slack (basis : Basis (n + n + m + m)) (i : Fin m) :
    (replaced basis).basis.get (slackColumn i) = true ↔
      basis.get ((slackColumn i).castAdd m) = true ∨ basis.get (artificialColumn i) = true := by
  rw [get_replaced]
  constructor
  · rintro (marked | ⟨k, equal, marked⟩)
    · exact Or.inl marked
    · rw [slackColumn, slackColumn, Fin.natAdd_inj] at equal
      rw [equal]
      exact Or.inr marked
  · rintro (marked | marked)
    · exact Or.inl marked
    · exact Or.inr ⟨i, rfl, marked⟩

/-- Every row with both its slack and its artificial variable in the basis costs one member. -/
theorem length_replaced_add_card (basis : Basis (n + n + m + m)) :
    (replaced basis).basis.members.length +
        (Finset.univ.filter fun i : Fin m => basis.get ((slackColumn i).castAdd m) = true ∧
          basis.get (artificialColumn i) = true).card =
      basis.members.length := by
  have newBlocks := Fin.sum_univ_add fun j : Fin (n + n + m) =>
    if (replaced basis).basis.get j = true then (1 : Nat) else 0
  have oldBlocks := Fin.sum_univ_add fun j : Fin (n + n + m + m) =>
    if basis.get j = true then (1 : Nat) else 0
  have oldSplit := Fin.sum_univ_add fun j : Fin (n + n + m) =>
    if basis.get (j.castAdd m) = true then (1 : Nat) else 0
  rw [Basis.length_members, Basis.length_members, Finset.card_filter, Finset.card_filter,
    Finset.card_filter, newBlocks, oldBlocks, oldSplit]
  simp only [get_replaced_variable]
  refine (add_assoc _ _ _).trans ((congrArg _ ?_).trans (add_assoc _ _ _).symm)
  rw [← Finset.sum_add_distrib, ← Finset.sum_add_distrib]
  apply Finset.sum_congr rfl
  intro i _
  change (if (replaced basis).basis.get (slackColumn i) = true then 1 else 0) + _ =
    (if basis.get ((slackColumn i).castAdd m) = true then 1 else 0) +
      if basis.get (artificialColumn i) = true then 1 else 0
  rw [if_congr (get_replaced_slack basis i) rfl rfl]
  by_cases slack : basis.get ((slackColumn i).castAdd m) = true <;>
    by_cases artificial : basis.get (artificialColumn i) = true <;> simp [slack, artificial]

/-- Replacing artificial columns by slacks that were not basic keeps the number of members. -/
theorem length_replaced {basis : Basis (n + n + m + m)} (exclusive : Exclusive basis) :
    (replaced basis).basis.members.length = basis.members.length := by
  have none : (Finset.univ.filter fun i : Fin m => basis.get ((slackColumn i).castAdd m) = true ∧
      basis.get (artificialColumn i) = true) = ∅ := by
    rw [Finset.filter_eq_empty_iff]
    rintro i _ ⟨slack, artificial⟩
    rw [exclusive i slack] at artificial
    cases artificial
  rw [← length_replaced_add_card, none, Finset.card_empty, add_zero]

/-- With one member for each row and no row in the basis twice, nothing is padded. -/
theorem repair_eq_replaced {basis : Basis (n + n + m + m)} (exclusive : Exclusive basis)
    (size : basis.members.length = m) : repair basis = replaced basis := by
  have enough : m ≤ (replaced basis).basis.members.length := by
    rw [length_replaced exclusive, size]
  rw [repair, Fin.foldl_eq_finRange_foldl]
  exact foldl_padSlack_of_length _ enough

end Repair

/-! ## Solutions across the hand-over -/

variable {K : Type} [ExactScalar K] {m n : Nat}

/-- The slack and the artificial variable of a row have columns that differ by a sign, so that
independent columns do not contain both. -/
theorem exclusive_of_independent {problem : Problem K m n} {basis : Basis (n + n + m + m)}
    (independent : Independent (phaseOne problem).A basis) : Exclusive basis := by
  intro i slack
  have different : artificialColumn i ≠ ((slackColumn i).castAdd m : Fin (n + n + m + m)) := by
    intro equal
    have values := congrArg Fin.val equal
    simp only [artificialColumn, slackColumn, Fin.val_natAdd, Fin.val_castAdd] at values
    omega
  have parallel : ∀ k, ((phaseOne problem).A.get k).get ((slackColumn i).castAdd m) =
      (rowSigns problem.b).get i * ((phaseOne problem).A.get k).get (artificialColumn i) := by
    intro k
    simp only [phaseOne, slackColumn, artificialColumn, Mat.get_beside_castAdd,
      Mat.get_beside_natAdd, Mat.get_diagonal, Mat.get_identity]
    split
    · rename_i equal
      rw [equal, mul_one]
    · rw [mul_zero]
  rw [← Bool.not_eq_true]
  exact fun artificial => independent.not_both different parallel ⟨artificial, slack⟩

/-- The variables of the first phase with each artificial variable added to the slack of its row. -/
def handed (problem : Problem K m n) (x : Fin (n + n + m + m) → K) : Fin (n + n + m) → K :=
  Fin.append (fun j => x ((j.castAdd m).castAdd m)) fun i =>
    x ((slackColumn i).castAdd m) + (rowSigns problem.b).get i * artificialPart x i

theorem handed_variable (problem : Problem K m n) (x : Fin (n + n + m + m) → K)
    (j : Fin (n + n)) : handed problem x (j.castAdd m) = x ((j.castAdd m).castAdd m) :=
  Fin.append_left _ _ j

theorem handed_slack (problem : Problem K m n) (x : Fin (n + n + m + m) → K) (i : Fin m) :
    handed problem x (slackColumn i) =
      x ((slackColumn i).castAdd m) + (rowSigns problem.b).get i * artificialPart x i :=
  Fin.append_right _ _ i

theorem free_handed (problem : Problem K m n) (x : Fin (n + n + m + m) → K) :
    Split.free (handed problem x) = Split.free (splitPart x) := by
  funext j
  rw [Split.free, Split.free, handed_variable, handed_variable]
  rfl

theorem slack_handed (problem : Problem K m n) (x : Fin (n + n + m + m) → K) (i : Fin m) :
    Split.slack (handed problem x) i =
      Split.slack (splitPart x) i + (rowSigns problem.b).get i * artificialPart x i :=
  handed_slack problem x i

/-- The rows of the second phase at the handed variables are the rows of the first, less their
signs. -/
theorem phaseTwo_mulVec_handed (problem : Problem K m n) (x : Fin (n + n + m + m) → K)
    (i : Fin m) :
    ((phaseTwo problem).A.matrix *ᵥ handed problem x) i =
      (rowSigns problem.b).get i * ((phaseOne problem).A.matrix *ᵥ x) i := by
  rw [phaseOne_mulVec, phaseTwo_mulVec, phaseTwo_mulVec, Pi.add_apply, Pi.add_apply, free_handed,
    slack_handed, mul_add, ← mul_assoc, rowSigns_mul_self, one_mul, add_assoc]

/-- The solution of the first phase, handed over, is the solution of the second. -/
theorem IsBasic.handed {problem : Problem K m n} {basis : Basis (n + n + m + m)}
    {x : Fin (n + n + m + m) → K} (basic : IsBasic (phaseOne problem) basis x) :
    IsBasic (phaseTwo problem) (replaced basis).basis (Simplex.handed problem x) where
  supported := by
    apply forall_secondColumn
    · intro j unmarked
      rw [← Bool.not_eq_true, get_replaced_variable, Bool.not_eq_true] at unmarked
      rw [handed_variable, basic.supported _ unmarked]
    · intro i unmarked
      rw [← Bool.not_eq_true, get_replaced_slack, not_or, Bool.not_eq_true, Bool.not_eq_true]
        at unmarked
      rw [handed_slack, artificialPart, basic.supported _ unmarked.1,
        basic.supported _ unmarked.2, mul_zero, add_zero]
  solves := by
    funext i
    rw [phaseTwo_mulVec_handed, basic.solves, phaseOne_get_b, ← mul_assoc, rowSigns_mul_self,
      one_mul]
    rfl

/-- Variables of the second phase taken back to the first: a slack goes to the artificial variable
of its row if that one is basic. -/
def takenBack (problem : Problem K m n) (basis : Basis (n + n + m + m))
    (z : Fin (n + n + m) → K) : Fin (n + n + m + m) → K :=
  Fin.append
    (Fin.append (fun j => z (j.castAdd m)) fun i =>
      if basis.get ((slackColumn i).castAdd m) = true then z (slackColumn i) else 0)
    fun i =>
      if basis.get (artificialColumn i) = true then
        (rowSigns problem.b).get i * z (slackColumn i)
      else 0

theorem takenBack_variable (problem : Problem K m n) (basis : Basis (n + n + m + m))
    (z : Fin (n + n + m) → K) (j : Fin (n + n)) :
    takenBack problem basis z ((j.castAdd m).castAdd m) = z (j.castAdd m) := by
  rw [takenBack, Fin.append_left, Fin.append_left]

theorem takenBack_slack (problem : Problem K m n) (basis : Basis (n + n + m + m))
    (z : Fin (n + n + m) → K) (i : Fin m) :
    takenBack problem basis z ((slackColumn i).castAdd m) =
      if basis.get ((slackColumn i).castAdd m) = true then z (slackColumn i) else 0 := by
  rw [takenBack, Fin.append_left, slackColumn, Fin.append_right]
  rfl

theorem takenBack_artificial (problem : Problem K m n) (basis : Basis (n + n + m + m))
    (z : Fin (n + n + m) → K) (i : Fin m) :
    takenBack problem basis z (artificialColumn i) =
      if basis.get (artificialColumn i) = true then
        (rowSigns problem.b).get i * z (slackColumn i)
      else 0 := by
  rw [takenBack, artificialColumn, Fin.append_right]
  rfl

/-- Variables of the repaired basis are the ones handed over from the variables taken back. -/
theorem handed_takenBack (problem : Problem K m n) {basis : Basis (n + n + m + m)}
    (exclusive : Exclusive basis) {z : Fin (n + n + m) → K}
    (supported : Supported (replaced basis).basis z) :
    handed problem (takenBack problem basis z) = z := by
  apply funext
  apply forall_secondColumn
  · intro j
    rw [handed_variable, takenBack_variable]
  · intro i
    rw [handed_slack, artificialPart, takenBack_slack, takenBack_artificial]
    by_cases slack : basis.get ((slackColumn i).castAdd m) = true
    · rw [if_pos slack, if_neg (by rw [exclusive i slack]; exact Bool.false_ne_true), mul_zero,
        add_zero]
    · rw [if_neg slack, zero_add]
      by_cases artificial : basis.get (artificialColumn i) = true
      · rw [if_pos artificial, ← mul_assoc, rowSigns_mul_self, one_mul]
      · rw [if_neg artificial, mul_zero]
        symm
        apply supported
        rw [← Bool.not_eq_true, get_replaced_slack, not_or]
        exact ⟨slack, artificial⟩

theorem supported_takenBack (problem : Problem K m n) {basis : Basis (n + n + m + m)}
    {z : Fin (n + n + m) → K} (supported : Supported (replaced basis).basis z) :
    Supported basis (takenBack problem basis z) := by
  apply forall_firstColumn
  · intro j unmarked
    rw [takenBack_variable]
    apply supported
    rw [← Bool.not_eq_true, get_replaced_variable, Bool.not_eq_true]
    exact unmarked
  · intro i unmarked
    rw [takenBack_slack, unmarked, if_neg Bool.false_ne_true]
  · intro i unmarked
    rw [takenBack_artificial, unmarked, if_neg Bool.false_ne_true]

/-- A regular basis of the first phase becomes a regular basis of the second. -/
theorem Regular.replaced {problem : Problem K m n} {basis : Basis (n + n + m + m)}
    (regular : Regular (phaseOne problem) basis) :
    Regular (phaseTwo problem) (Simplex.replaced basis).basis where
  size := by
    rw [length_replaced (exclusive_of_independent regular.independent), regular.size]
  independent := by
    intro z supported kernel
    have back := handed_takenBack problem (exclusive_of_independent regular.independent) supported
    have vanishes : takenBack problem basis z = 0 := by
      apply regular.independent _ (supported_takenBack problem supported)
      funext i
      have row := phaseTwo_mulVec_handed problem (takenBack problem basis z) i
      rw [back, kernel, Pi.zero_apply] at row
      exact (mul_eq_zero.mp row.symm).resolve_left (rowSigns_ne_zero problem.b i)
    rw [← back, vanishes]
    apply funext
    apply forall_secondColumn
    · intro j
      rw [handed_variable, Pi.zero_apply, Pi.zero_apply]
    · intro i
      rw [handed_slack, artificialPart, Pi.zero_apply, Pi.zero_apply, mul_zero, add_zero,
        Pi.zero_apply]

/-- The two outcomes of a hand-over from a regular basis: an artificial variable is stuck above the
tolerance, or none is and the repaired basis goes on. -/
theorem handover_cases {problem : Problem K m n} {basis : Basis (n + n + m + m)}
    (regular : Regular (phaseOne problem) basis) (tol : K) (x : Vec K (n + n + m + m))
    (objective : K) :
    (∃ i, tol < artificialPart x.get i ∧
      handover tol basis x objective = ⟨[], .error (.infeasible (-objective))⟩) ∨
    ((∀ i, basis.get (artificialColumn i) = true → artificialPart x.get i ≤ tol) ∧
      handover tol basis x objective =
        ⟨(replaced basis).changes, .ok (replaced basis).basis⟩) := by
  unfold handover
  by_cases stuck : (List.finRange m).any (isStuck tol basis x) = true
  · left
    obtain ⟨i, _, isStuck_i⟩ := List.any_eq_true.mp stuck
    rw [isStuck, Bool.and_eq_true, decide_eq_true_iff] at isStuck_i
    rw [if_pos stuck]
    exact ⟨i, isStuck_i.2, rfl⟩
  · right
    rw [if_neg stuck, repair_eq_replaced (exclusive_of_independent regular.independent)
      regular.size]
    constructor
    · intro i marked
      by_contra above
      apply stuck
      rw [List.any_eq_true]
      refine ⟨i, List.mem_finRange i, ?_⟩
      rw [isStuck, Bool.and_eq_true, decide_eq_true_iff]
      exact ⟨marked, lt_of_not_ge above⟩
    · have checked : (replaced basis).basis.check m = (.ok () : Except (Failure K) Unit) :=
        if_pos regular.replaced.size
      dsimp only
      rw [checked]

end PolyTrace.Simplex
