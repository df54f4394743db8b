import PolyTrace.Proofs.Simplex.BasicSolution

/-!
# The choice of the columns to exchange

The entering column is unmarked and its reduced cost exceeds the tolerance; there is none only if no
unmarked column has such a reduced cost.  The leaving row is found by one scan over the rows.  There
is none only if no row is steep, so that no direction exceeds the tolerance; else the leaving row is
steep, and it stands to every row in each relation that the scan keeps.  If the rows are in ascending
order of their columns, one such relation is that the ratio of the best row exceeds no other by more
than the tolerance.
-/

namespace PolyTrace.Simplex

/-! ## The entering column -/

section Entering

variable {K : Type} [Scalar K] {p : Nat}

theorem mem_candidates {tol : K} {reduced : Vec K p} {basis : Basis p} {j : Fin p} :
    j ∈ candidates tol reduced basis ↔ basis.get j = false ∧ tol < reduced.get j := by
  rw [candidates, List.mem_filter, Bool.and_eq_true, Bool.not_eq_true', decide_eq_true_iff]
  exact and_iff_right (List.mem_finRange j)

theorem foldl_larger_mem (reduced : Vec K p) (first : Fin p) (rest : List (Fin p)) :
    rest.foldl (fun best j => if reduced.get best < reduced.get j then j else best) first ∈
      first :: rest := by
  induction rest generalizing first with
  | nil => exact List.mem_cons_self
  | cons next rest inductionHypothesis =>
      rw [List.foldl_cons]
      split
      · exact List.mem_cons_of_mem _ (inductionHypothesis next)
      · rcases List.mem_cons.mp (inductionHypothesis first) with equal | member
        · rw [equal]
          exact List.mem_cons_self
        · exact List.mem_cons_of_mem _ (List.mem_cons_of_mem _ member)

/-- An entering column may enter. -/
theorem entering_eq_some {rule : PivotRule} {tol : K} {reduced : Vec K p} {basis : Basis p}
    {j : Fin p} (chosen : entering rule tol reduced basis = some j) :
    basis.get j = false ∧ tol < reduced.get j := by
  rw [← mem_candidates]
  unfold entering at chosen
  split at chosen
  · cases chosen
  · rename_i first rest listed
    rw [listed]
    cases rule with
    | bland =>
        cases chosen
        exact List.mem_cons_self
    | dantzig =>
        cases chosen
        exact foldl_larger_mem reduced first rest

end Entering

variable {K : Type} [ExactScalar K] {m p : Nat}

/-- Without an entering column no unmarked column may enter. -/
theorem entering_eq_none {rule : PivotRule} {tol : K} {reduced : Vec K p} {basis : Basis p}
    (none : entering rule tol reduced basis = none) {j : Fin p} (outside : basis.get j = false) :
    reduced.get j ≤ tol := by
  by_contra above
  have member : j ∈ candidates tol reduced basis :=
    mem_candidates.mpr ⟨outside, lt_of_not_ge above⟩
  unfold entering at none
  split at none
  · rename_i empty
    rw [empty] at member
    exact List.not_mem_nil member
  · cases rule <;> cases none

/-! ## The scan for the leaving row -/

/-- The share of the step at which the entry of a row reaches zero. -/
def rowRatio (values direction : Vec K m) (i : Fin m) : K :=
  values.get i / direction.get i

/-- Row `k` takes the place of the best row: its ratio is smaller by more than the tolerance, or it
is within the tolerance and its column comes first. -/
def TakesOver (tol : K) (values direction : Vec K m) (index : Fin m → Nat) (row k : Fin m) : Prop :=
  rowRatio values direction k < rowRatio values direction row - tol ∨
    |rowRatio values direction k - rowRatio values direction row| ≤ tol ∧ index k < index row

/-- A relation of the best row to the rows scanned so far that the scan keeps. -/
structure KeptByScan (tol : K) (values direction : Vec K m) (index : Fin m → Nat)
    (Leads : Fin m → Fin m → Prop) : Prop where
  self : ∀ row, Leads row row
  flat : ∀ row i, direction.get i ≤ tol → Leads row i
  takes : ∀ {row k i}, row < k → tol < direction.get k →
    TakesOver tol values direction index row k → Leads row i → Leads k i
  stays : ∀ {row k}, row < k → tol < direction.get row → tol < direction.get k →
    ¬ TakesOver tol values direction index row k → Leads row k

/-- What the scan has found after the given rows. -/
inductive Scanned (tol : K) (values direction : Vec K m) (Leads : Fin m → Fin m → Prop)
    (rows : List (Fin m)) : Option (Fin m × K) → Prop
  | none (flat : ∀ i ∈ rows, direction.get i ≤ tol) : Scanned tol values direction Leads rows none
  | some {row : Fin m} (member : row ∈ rows) (steep : tol < direction.get row)
      (leads : ∀ i ∈ rows, Leads row i) :
      Scanned tol values direction Leads rows (some (row, rowRatio values direction row))

section Scan

variable {tol : K} {values direction : Vec K m} {index : Fin m → Nat} {Leads : Fin m → Fin m → Prop}

/-- One step of the scan at a row that is not steep. -/
theorem Scanned.append_flat (kept : KeptByScan tol values direction index Leads)
    {rows : List (Fin m)} {best : Option (Fin m × K)}
    (scanned : Scanned tol values direction Leads rows best) {k : Fin m}
    (flat : direction.get k ≤ tol) : Scanned tol values direction Leads (rows ++ [k]) best := by
  cases scanned with
  | none flatRows =>
      exact .none (List.forall_mem_append.mpr ⟨flatRows, List.forall_mem_singleton.mpr flat⟩)
  | some member steepRow leads =>
      exact .some (List.mem_append_left _ member) steepRow (List.forall_mem_append.mpr
        ⟨leads, List.forall_mem_singleton.mpr (kept.flat _ k flat)⟩)

/-- The last row is the best if it leads all rows before it. -/
theorem Scanned.of_last (kept : KeptByScan tol values direction index Leads)
    {rows : List (Fin m)} {k : Fin m} (steep : tol < direction.get k)
    (leads : ∀ i ∈ rows, Leads k i) :
    Scanned tol values direction Leads (rows ++ [k])
      (Option.some (k, rowRatio values direction k)) := by
  apply Scanned.some (List.mem_append_right _ List.mem_cons_self) steep
  rw [List.forall_mem_append, List.forall_mem_singleton]
  exact ⟨leads, kept.self k⟩

/-- One step of the scan. -/
theorem Scanned.step (kept : KeptByScan tol values direction index Leads) {rows : List (Fin m)}
    {best : Option (Fin m × K)} (scanned : Scanned tol values direction Leads rows best) {k : Fin m}
    (later : ∀ i ∈ rows, i < k) :
    Scanned tol values direction Leads (rows ++ [k])
      (betterRow tol values direction index best k) := by
  unfold betterRow
  by_cases steep : tol < direction.get k
  · rw [if_pos steep]
    cases scanned with
    | none flat =>
        have attained : Attained (values.get k / direction.get k) := Or.inl (Scalar.finite _)
        dsimp only
        rw [if_pos attained]
        exact .of_last kept steep fun i old => kept.flat k i (flat i old)
    | @some row member steepRow leads =>
        have takes (takesOver : TakesOver tol values direction index row k) :
            Scanned tol values direction Leads (rows ++ [k])
              (Option.some (k, rowRatio values direction k)) :=
          .of_last kept steep fun i old => kept.takes (later row member) steep takesOver (leads i old)
        dsimp only
        rw [Scalar.abs_eq]
        by_cases below : values.get k / direction.get k < rowRatio values direction row - tol
        · rw [if_pos below]
          exact takes (Or.inl below)
        · rw [if_neg below]
          by_cases first : |values.get k / direction.get k - rowRatio values direction row| ≤ tol ∧
              index k < index row
          · rw [if_pos first]
            exact takes (Or.inr first)
          · rw [if_neg first]
            apply Scanned.some (List.mem_append_left _ member) steepRow
            rw [List.forall_mem_append, List.forall_mem_singleton]
            exact ⟨leads, kept.stays (later row member) steepRow steep (not_or.mpr ⟨below, first⟩)⟩
  · rw [if_neg steep]
    exact scanned.append_flat kept (le_of_not_gt steep)

/-- The whole scan. -/
theorem scanned_foldl (kept : KeptByScan tol values direction index Leads) :
    Scanned tol values direction Leads (List.finRange m)
      (Fin.foldl m (betterRow tol values direction index) none) := by
  have scan : ∀ (rows done : List (Fin m)) (best : Option (Fin m × K)),
      Scanned tol values direction Leads done best → (done ++ rows).Pairwise (· < ·) →
      Scanned tol values direction Leads (done ++ rows)
        (rows.foldl (betterRow tol values direction index) best) := by
    intro rows
    induction rows with
    | nil =>
        intro done best scanned _
        rw [List.append_nil]
        exact scanned
    | cons k rest inductionHypothesis =>
        intro done best scanned sorted
        have later : ∀ i ∈ done, i < k := fun i member =>
          (List.pairwise_append.mp sorted).2.2 i member k List.mem_cons_self
        rw [List.foldl_cons, List.append_cons]
        apply inductionHypothesis _ _ (scanned.step kept later)
        rw [← List.append_cons]
        exact sorted
  rw [Fin.foldl_eq_finRange_foldl]
  exact scan (List.finRange m) [] none (.none fun i member => absurd member List.not_mem_nil)
    (List.pairwise_lt_finRange m)

/-- The leaving row is steep and leads every row. -/
theorem leads_of_leaving (kept : KeptByScan tol values direction index Leads) {r : Fin m}
    (chosen : leaving tol values direction index = some r) :
    tol < direction.get r ∧ ∀ i, Leads r i := by
  have scanned := scanned_foldl kept
  unfold leaving at chosen
  generalize Fin.foldl m (betterRow tol values direction index) none = best at scanned chosen
  cases scanned with
  | none _ => cases chosen
  | some member steep leads =>
      cases chosen
      exact ⟨steep, fun i => leads i (List.mem_finRange i)⟩

end Scan

/-- Every relation is kept in which all rows stand. -/
theorem keptByScan_true (tol : K) (values direction : Vec K m) (index : Fin m → Nat) :
    KeptByScan tol values direction index fun _ _ => True where
  self _ := trivial
  flat _ _ _ := trivial
  takes _ _ _ _ := trivial
  stays _ _ _ _ := trivial

/-- Without a leaving row no row is steep. -/
theorem leaving_eq_none {tol : K} {values direction : Vec K m} {index : Fin m → Nat}
    (none : leaving tol values direction index = none) (i : Fin m) : direction.get i ≤ tol := by
  have scanned := scanned_foldl (keptByScan_true tol values direction index)
  unfold leaving at none
  generalize Fin.foldl m (betterRow tol values direction index) Option.none = best
    at scanned none
  cases scanned with
  | none flat => exact flat i (List.mem_finRange i)
  | some _ _ _ => cases none

/-! ## The leaving row when the columns ascend -/

/-- Row `i` does not beat `row`: if it is steep, its ratio is not smaller by more than the
tolerance, and larger if it comes before. -/
def Beaten (tol : K) (values direction : Vec K m) (row i : Fin m) : Prop :=
  tol < direction.get i →
    rowRatio values direction row ≤ rowRatio values direction i + tol ∧
      (i < row → rowRatio values direction row < rowRatio values direction i)

/-- The columns ascend with the rows, so that a later row never takes over on account of its
column. -/
theorem keptByScan_beaten {tol : K} (tol_pos : 0 < tol) (values direction : Vec K m)
    {index : Fin m → Nat} (ascending : StrictMono index) :
    KeptByScan tol values direction index (Beaten tol values direction) where
  self row _ := ⟨le_add_of_nonneg_right tol_pos.le, fun less => absurd less (lt_irrefl row)⟩
  flat _ _ flat steep := absurd steep (not_lt_of_ge flat)
  takes := by
    rintro row k i later _ (below | ⟨_, first⟩) beaten steep
    · have near := (beaten steep).1
      have smaller : rowRatio values direction k < rowRatio values direction i := by linarith
      exact ⟨smaller.le.trans (le_add_of_nonneg_right tol_pos.le), fun _ => smaller⟩
    · exact absurd first (lt_asymm (ascending later))
  stays := by
    rintro row k later _ _ stays _
    have above := le_of_not_gt (not_or.mp stays).1
    exact ⟨by linarith, fun before => absurd before (lt_asymm later)⟩

/-- The leaving row is steep and no row beats it. -/
theorem leaving_eq_some {tol : K} (tol_pos : 0 < tol) {values direction : Vec K m}
    {index : Fin m → Nat} (ascending : StrictMono index) {r : Fin m}
    (chosen : leaving tol values direction index = some r) :
    tol < direction.get r ∧ ∀ i, Beaten tol values direction r i :=
  leads_of_leaving (keptByScan_beaten tol_pos values direction ascending) chosen

end PolyTrace.Simplex
