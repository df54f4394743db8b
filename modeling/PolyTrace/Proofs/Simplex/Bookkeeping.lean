import Mathlib
import PolyTrace.Proofs.Failure
import PolyTrace.Proofs.Linear.Elimination
import PolyTrace.Proofs.Linear.Identity
import PolyTrace.Proofs.Problem.Load
import PolyTrace.Proofs.Schema.Options
import PolyTrace.Proofs.Simplex.Invariant
import PolyTrace.Service.Session

/-!
# The bases that a run records

A basis has one member for each row from the first basis of a run to the last, whatever the numbers
are.  An exchange marks an unmarked column and unmarks a marked one.  Between the phases the
replacement of artificial columns by slacks loses a member for every slack that was basic already,
and the padding makes up for these: while members are missing there is a slack that is not basic.

So no run ends because a basis has the wrong size, and the texts of the recorded bases have the
lengths of the two phases, one one for each row, and differ from one to the next in one zero that
becomes a one and one one that becomes a zero.
-/

namespace PolyTrace.Simplex

/-! ## Exchanges in the text of a basis -/

section Texts

variable {p : Nat}

/-- A column enters and another one leaves. -/
def Basis.Adjacent (basis next : Basis p) : Prop :=
  ∃ entering leaving, basis.get entering = false ∧ basis.get leaving = true ∧
    next = basis.exchange entering leaving

/-- One zero becomes a one and one one becomes a zero. -/
def Exchanged (before after : String) : Prop :=
  ∃ enters leaves : Nat, before.toList[enters]? = some '0' ∧ before.toList[leaves]? = some '1' ∧
    after.toList = (before.toList.set enters '1').set leaves '0'

theorem Basis.toList_text (basis : Basis p) :
    basis.text.toList = List.ofFn fun j => if basis.get j = true then '1' else '0' := by
  apply List.ext_getElem
  · simp [text, flagText]
  · intro k _ _
    simp [text, flagText, Vector.get]

theorem Basis.length_text (basis : Basis p) : basis.text.length = p := by
  rw [← String.length_toList, toList_text, List.length_ofFn]

/-- The ones in the text of a basis are its members. -/
theorem Basis.count_text (basis : Basis p) :
    basis.text.toList.count '1' = basis.members.length := by
  rw [toList_text, List.ofFn_eq_map, List.count_eq_countP, List.countP_map, members,
    ← List.countP_eq_length_filter]
  apply List.countP_congr
  intro j _
  cases marked : basis.get j <;> simp [marked]

theorem Basis.Adjacent.exchanged {basis next : Basis p} (adjacent : basis.Adjacent next) :
    Exchanged basis.text next.text := by
  obtain ⟨entering, leaving, outside, inside, rfl⟩ := adjacent
  refine ⟨entering, leaving, ?_, ?_, ?_⟩
  · simp [toList_text, outside]
  · simp [toList_text, inside]
  · rw [toList_text, toList_text]
    apply List.ext_getElem
    · simp
    · intro k _ _
      simp only [List.getElem_ofFn, List.getElem_set, get_exchange, Fin.ext_iff]
      grind

theorem Basis.Adjacent.length_eq {basis next : Basis p} (adjacent : basis.Adjacent next) :
    next.members.length = basis.members.length := by
  obtain ⟨entering, leaving, outside, inside, rfl⟩ := adjacent
  exact length_members_exchange outside inside

end Texts

/-! ## The bases of a phase -/

section Phases

variable {K : Type} [Scalar K] {m p q : Nat} {options : Options K} {program : Program K m p}

/-- An exchange leads to an adjacent basis. -/
theorem adjacent_of_pivot {basis next : Basis p} {here : Solution K m p}
    (solved : solution program basis = .ok here)
    (pivoted : pivot options program basis here = .exchange next) : basis.Adjacent next := by
  obtain ⟨j, r, enters, -, next_eq⟩ := pivot_eq_exchange pivoted
  exact ⟨j, here.columns.get r, (entering_eq_some enters).1, (lists_of_solution solved).marked r,
    next_eq⟩

/-- Each basis along a path comes from the one before it by an exchange. -/
theorem Path.isChain_adjacent {start last : Basis p} {visits : List (Visit K m p)}
    (path : Path options program start visits last) :
    (visits.map Prod.fst ++ [last]).IsChain Basis.Adjacent := by
  induction path with
  | here basis => exact List.isChain_singleton basis
  | exchange solved pivoted onward inductionHypothesis =>
      rw [List.map_cons, List.cons_append, List.isChain_cons]
      refine ⟨fun second first => ?_, inductionHypothesis⟩
      rw [onward.head?_bases, Option.mem_some_iff] at first
      rw [← first]
      exact adjacent_of_pivot solved pivoted

/-- Each basis that a phase records comes from the one before it by an exchange. -/
theorem Phase.isChain_adjacent (options : Options K) (cap : Int) (program : Program K m p)
    (view : Vec K p → Vec K q) {start : Basis p} (size : start.members.length = m) :
    ((Phase.run options cap program view start).vertices.map Vertex.basis).IsChain
      Basis.Adjacent := by
  obtain ⟨visits, last, path, ends⟩ := Phase.run_path options cap program view size
  exact path.isChain_adjacent.prefix ends.bases_prefix

/-- A factorisation never fails over the number of members of a basis. -/
theorem kind_ne_invariant_of_factorize {A : Mat K m m} {cause : Failure K}
    (refused : factorize A = .error cause) : cause.kind ≠ .invariant := by
  rw [kind_of_factorize refused]
  split <;> nofun

theorem kind_ne_invariant_of_solution {basis : Basis p} (size : basis.members.length = m)
    {cause : Failure K} (failed : solution program basis = .error cause) :
    cause.kind ≠ .invariant := by
  rw [solution, dif_pos size, solutionAt] at failed
  exact kind_ne_invariant_of_factorize (eq_error_of_map failed)

/-- An exchange keeps the number of members. -/
theorem preserved_size (options : Options K) (program : Program K m p) :
    Preserved options program (fun basis => basis.members.length = m)
      fun cause => cause.kind ≠ .invariant where
  size := id
  exchange size solved pivoted := (adjacent_of_pivot solved pivoted).length_eq.trans size
  unsolved size failed := kind_ne_invariant_of_solution size failed

end Phases

/-! ## The basis between the phases -/

section Padding

variable {m n : Nat}

/-- After the padding has looked at the given rows: not more members than rows, and while members
are missing all slacks looked at are basic. -/
structure Padded (rows : List (Fin m)) (basis : Basis (n + n + m)) : Prop where
  length_le : basis.members.length ≤ m
  short : basis.members.length < m → ∀ i ∈ rows, basis.get (slackColumn i) = true

theorem Padded.step {rows : List (Fin m)} {state : Repaired (n + n + m)}
    (padded : Padded rows state.basis) (i : Fin m) :
    Padded (rows ++ [i]) (padSlack state i).basis := by
  unfold padSlack
  split
  · rename_i lacking
    obtain ⟨few, outside⟩ := lacking
    have length_eq := Basis.length_members_put outside
    constructor
    · exact length_eq.trans_le few
    · intro _ k member
      rw [Vec.get_put]
      rcases List.mem_append.mp member with before | this
      · rw [padded.short few k before, ite_self]
      · rw [List.mem_singleton.mp this, if_pos rfl]
  · rename_i enough
    refine ⟨padded.length_le, fun few k member => ?_⟩
    rcases List.mem_append.mp member with before | this
    · exact padded.short few k before
    · rw [List.mem_singleton.mp this, ← Bool.not_eq_false]
      exact fun outside => enough ⟨few, outside⟩

theorem padded_foldl (rows : List (Fin m)) {state : Repaired (n + n + m)}
    (length_le : state.basis.members.length ≤ m) :
    Padded rows (rows.foldl padSlack state).basis := by
  induction rows using List.reverseRecOn with
  | nil => exact ⟨length_le, fun _ i member => absurd member List.not_mem_nil⟩
  | append_singleton rows i inductionHypothesis =>
      rw [List.foldl_append]
      exact inductionHypothesis.step i

/-- A basis with all slacks has a member for each row. -/
theorem le_length_of_slacks {basis : Basis (n + n + m)}
    (slacks : ∀ i, basis.get (slackColumn i) = true) : m ≤ basis.members.length := by
  have injective : Function.Injective (slackColumn : Fin m → Fin (n + n + m)) :=
    Fin.natAdd_injective m (n + n)
  have marked : Finset.univ.image (slackColumn : Fin m → Fin (n + n + m)) ⊆
      Finset.univ.filter fun j => basis.get j = true := by
    intro j member
    obtain ⟨i, _, rfl⟩ := Finset.mem_image.mp member
    exact Finset.mem_filter.mpr ⟨Finset.mem_univ _, slacks i⟩
  calc m = (Finset.univ.image (slackColumn : Fin m → Fin (n + n + m))).card := by
        rw [Finset.card_image_of_injective _ injective, Finset.card_univ, Fintype.card_fin]
    _ ≤ (Finset.univ.filter fun j => basis.get j = true).card := Finset.card_le_card marked
    _ = basis.members.length := basis.length_members.symm

/-- The repaired basis has one member for each row, whichever artificial columns and slacks were
basic. -/
theorem length_repair {basis : Basis (n + n + m + m)} (size : basis.members.length = m) :
    (repair basis).basis.members.length = m := by
  have length_le : (replaced basis).basis.members.length ≤ m :=
    (Nat.le_add_right _ _).trans_eq ((length_replaced_add_card basis).trans size)
  have padded : Padded (List.finRange m) (repair basis).basis := by
    rw [repair, Fin.foldl_eq_finRange_foldl]
    exact padded_foldl _ length_le
  by_contra different
  have few := lt_of_le_of_ne padded.length_le different
  have slacks := le_length_of_slacks fun i => padded.short few i (List.mem_finRange i)
  exact absurd few (not_lt_of_ge slacks)

/-- The hand-over of a basis of the right size leads to another one, and never fails over a size. -/
theorem carried_size {K : Type} [Scalar K] {basis : Basis (n + n + m + m)}
    (size : basis.members.length = m) (tol : K) (x : Vec K (n + n + m + m)) (objective : K) :
    Carried (fun start => start.members.length = m) (fun cause => cause.kind ≠ .invariant)
      (handover tol basis x objective).outcome := by
  have checked : (repair basis).basis.check m = (.ok () : Except (Failure K) Unit) :=
    if_pos (length_repair size)
  unfold handover
  split
  · exact .refused nofun
  · dsimp only
    rw [checked]
    exact .passed (length_repair size)

end Padding

/-! ## The bases of a run -/

/-- Every basis of a run has one member for each row, and no run fails over a size. -/
theorem keeps_size_solve {K : Type} [Scalar K] {m n : Nat} (options : Options K) (cap : Int)
    (problem : Problem K m n) :
    (solve options cap problem).Keeps options cap problem (fun basis => basis.members.length = m)
      (fun basis => basis.members.length = m) fun cause => cause.kind ≠ .invariant :=
  keeps_solve (preserved_size _ _) (preserved_size _ _) nofun nofun length_artificialBasis
    fun size => carried_size size options.tol

/-! ## The first basis -/

section First

variable {m n : Nat}

/-- The columns of the artificial basis are the artificial ones, in the order of their rows. -/
theorem Lists.eq_artificialColumn {columns : Vector (Fin (n + n + m + m)) m}
    (lists : Lists columns (artificialBasis m n)) : columns.get = artificialColumn := by
  apply (lists.strictMono.range_inj (Fin.strictMono_natAdd (n + n + m))).mp
  ext j
  rw [Set.mem_range, ← lists.marked_iff, Set.mem_range]
  refine Fin.addCases (fun j => ?_) (fun i => ?_) j
  · constructor
    · intro marked
      have unmarked := get_artificialBasis_split (m := m) (n := n) j
      rw [marked] at unmarked
      cases unmarked
    · rintro ⟨i, equal⟩
      have values := congrArg Fin.val equal
      simp only [Fin.val_natAdd, Fin.val_castAdd] at values
      omega
  · exact iff_of_true (get_artificialBasis_artificial i) ⟨i, rfl⟩

/-- The first phase starts from the identity, which is factored without rounding. -/
theorem exists_solution_artificialBasis (rows : 0 < m) (problem : Problem Float m n) :
    ∃ here, solution (phaseOne problem) (artificialBasis m n) = .ok here := by
  have size := length_artificialBasis (m := m) (n := n)
  have columns_eq := (lists_members size).eq_artificialColumn
  rw [solution, dif_pos size, solutionAt]
  generalize (⟨(artificialBasis m n).members.toArray, by simpa using size⟩ :
    Vector (Fin (n + n + m + m)) m) = columns at columns_eq ⊢
  have identity : (phaseOne problem).A.columns columns = Mat.identity m := by
    apply Vec.ext_get
    intro i
    apply Vec.ext_get
    intro k
    rw [Mat.get_columns, columns_eq]
    exact Mat.get_beside_natAdd _ _ i k
  obtain ⟨factors, factored⟩ := exists_factorize_identity rows
  rw [identity, factored]
  exact ⟨_, rfl⟩

/-- A run on machine numbers records the artificial basis first. -/
theorem head?_first_bases (rows : 0 < m) {cap : Int} (positive : 0 < cap)
    (options : Options Float) (problem : Problem Float m n) :
    ((solve options cap problem).first.vertices.map Vertex.basis).head? =
      some (artificialBasis m n) := by
  obtain ⟨here, solved⟩ := exists_solution_artificialBasis rows problem
  obtain ⟨rest, vertices⟩ := Phase.exists_vertices_eq_cons options viewOne solved
    (Int.pos_iff_toNat_pos.mp positive)
  rw [solve_first, vertices]
  rfl

theorem text_artificialBasis :
    (artificialBasis m n).text =
      String.ofList (List.replicate (2 * n + m) '0' ++ List.replicate m '1') := by
  rw [Basis.text, flagText, artificialBasis]
  simp [two_mul]

end First

/-! ## The texts in a report -/

section Reports

variable {m n : Nat}

/-- The texts of the bases of a run on `m` rows and `n` unknowns, of which the first phase has
recorded the first `boundary` ones. -/
structure WellKept (m n : Nat) (bases : List String) (boundary : Nat) : Prop where
  boundary_le : boundary ≤ bases.length
  digits : ∀ text ∈ bases, ∀ digit ∈ text.toList, digit = '0' ∨ digit = '1'
  ones : ∀ text ∈ bases, text.toList.count '1' = m
  first_length : ∀ text ∈ bases.take boundary, text.length = 2 * n + 2 * m
  second_length : ∀ text ∈ bases.drop boundary, text.length = 2 * n + m
  first_exchanges : (bases.take boundary).IsChain Exchanged
  second_exchanges : (bases.drop boundary).IsChain Exchanged
  first_text : (bases.take boundary).head? =
    some (String.ofList (List.replicate (2 * n + m) '0' ++ List.replicate m '1'))

/-- A call on `m` rows and `n` unknowns ends with a report, whose bases are well kept, and does not
fail over the size of a basis. -/
def KeepsBases (m n : Nat) (outcome : Outcome) : Prop :=
  ∃ (report : Report) (phaseLogs : List (List String)) (bases : List String) (boundary : Nat),
    (outcome = .finished report ∨
      ∃ cause, cause.kind ≠ .invariant ∧ outcome = .failed cause (some report)) ∧
    report.detail = some (.simplex phaseLogs bases boundary) ∧ WellKept m n bases boundary

theorem digits_of_text {p : Nat} (basis : Basis p) :
    ∀ digit ∈ basis.text.toList, digit = '0' ∨ digit = '1' := by
  intro digit member
  rw [Basis.toList_text] at member
  obtain ⟨j, rfl⟩ := List.mem_ofFn.mp member
  cases basis.get j
  · exact .inl rfl
  · exact .inr rfl

/-- The texts of bases that come from each other by exchanges. -/
theorem exchanged_texts {p : Nat} {bases : List (Basis p)}
    (chain : bases.IsChain Basis.Adjacent) : (bases.map Basis.text).IsChain Exchanged :=
  (List.isChain_map _).mpr (chain.imp fun _ _ adjacent => adjacent.exchanged)

/-- The texts of the bases of two phases are well kept when the bases have one member for each row,
come from each other by exchanges and begin with the artificial basis. -/
theorem wellKept_append {first : List (Basis (n + n + m + m))} {second : List (Basis (n + n + m))}
    (size : ∀ basis ∈ first, basis.members.length = m) (chain : first.IsChain Basis.Adjacent)
    (size' : ∀ basis ∈ second, basis.members.length = m) (chain' : second.IsChain Basis.Adjacent)
    (head : first.head? = some (artificialBasis m n)) :
    WellKept m n (first.map Basis.text ++ second.map Basis.text) first.length := by
  have taken : (first.map Basis.text ++ second.map Basis.text).take first.length =
      first.map Basis.text := List.take_left' (List.length_map _)
  have dropped : (first.map Basis.text ++ second.map Basis.text).drop first.length =
      second.map Basis.text := List.drop_left' (List.length_map _)
  constructor
  · rw [List.length_append, List.length_map]
    exact Nat.le_add_right _ _
  · simp only [List.forall_mem_append, List.forall_mem_map]
    exact ⟨fun basis _ => digits_of_text basis, fun basis _ => digits_of_text basis⟩
  · simp only [List.forall_mem_append, List.forall_mem_map, Basis.count_text]
    exact ⟨size, size'⟩
  · rw [taken, List.forall_mem_map]
    intro basis _
    rw [Basis.length_text]
    omega
  · rw [dropped, List.forall_mem_map]
    intro basis _
    rw [Basis.length_text]
    omega
  · rw [taken]
    exact exchanged_texts chain
  · rw [dropped]
    exact exchanged_texts chain'
  · rw [taken, List.head?_map, head, Option.map_some, text_artificialBasis]

/-- The bases of a run on machine numbers are well kept. -/
theorem wellKept_solve (rows : 0 < m) {cap : Int} (positive : 0 < cap) (options : Options Float)
    (problem : Problem Float m n) :
    WellKept m n (solve options cap problem).bases
      (solve options cap problem).firstPoints.length := by
  have keeps := keeps_size_solve options cap problem
  have head := head?_first_bases rows positive options problem
  have chain := Phase.isChain_adjacent options cap (phaseOne problem) viewOne
    (length_artificialBasis (m := m) (n := n))
  rw [← solve_first] at chain
  generalize solve options cap problem = run at keeps head chain ⊢
  have chain' : (run.secondVertices.map Vertex.basis).IsChain Basis.Adjacent := by
    unfold Run.secondVertices
    split
    · rename_i phase ran
      obtain ⟨start, size, rfl⟩ := keeps.began phase ran
      exact Phase.isChain_adjacent options cap (phaseTwo problem) unsplit size
    · exact List.isChain_nil
  have kept := wellKept_append (List.forall_mem_map.mpr keeps.first) chain
    (List.forall_mem_map.mpr keeps.second) chain' head
  rw [List.map_map, List.map_map, List.length_map] at kept
  rw [Run.firstPoints, List.length_map]
  exact kept

/-- A call on a problem with a row keeps its bases. -/
theorem session_keepsBases (rows : 0 < m) {cap : Int} (positive : 0 < cap)
    (options : Options Float) (elapsed : Float) (problem : Problem Float m n) :
    KeepsBases m n (session options cap elapsed problem).outcome := by
  have kept := wellKept_solve rows positive options problem
  have kind := (keeps_size_solve options cap problem).failure
  unfold session
  dsimp only
  generalize solve options cap problem = run at kept kind ⊢
  unfold Run.result
  cases outcome_eq : run.outcome with
  | ok final => exact ⟨_, _, run.bases, run.firstPoints.length, .inl rfl, rfl, kept⟩
  | error cause =>
      exact ⟨_, _, run.bases, run.firstPoints.length, .inr ⟨cause, kind cause outcome_eq, rfl⟩,
        rfl, kept⟩

/-- Whatever the numbers are, a call of the simplex method on a problem that can be read, with
settings that can be read, keeps its bases.  Arrays that are nested too deeply are a fault. -/
theorem call_keepsBases {lines : Lines} {objective settings : Datum} {arrays : ProblemArrays}
    {options : EngineOptions} {around : Surroundings}
    (loaded : ProblemArrays.load lines objective = .ok arrays)
    (valid : EngineOptions.resolve .simplex settings = .ok options) (positive : 0 < around.cap) :
    (∃ m n session, arrays.A.shape = [m, n] ∧
      Engine.call .simplex settings around (LoadedProblem.ofData lines objective) = .ok session ∧
      KeepsBases m n session.outcome) ∨
    (∀ m n, arrays.A.shape ≠ [m, n]) ∧
      Engine.call .simplex settings around (LoadedProblem.ofData lines objective) =
        .error .shapes := by
  have named := EngineOptions.engine_of_resolve valid
  unfold Engine.call LoadedProblem.ofData
  rw [valid, loaded]
  cases options with
  | simplex options =>
      by_cases shaped : ∃ m n, arrays.A.shape = [m, n]
      · obtain ⟨m, n, shaped⟩ := shaped
        obtain ⟨rows, problem, found⟩ := ProblemArrays.exists_problem loaded shaped
        refine .inl ⟨m, n, _, shaped, ?_,
          session_keepsBases rows positive options around.elapsed problem⟩
        dsimp only [Except.map]
        rw [found]
        rfl
      · push Not at shaped
        refine .inr ⟨shaped, ?_⟩
        have missing : arrays.problem? = none := by
          unfold ProblemArrays.problem?
          split
          · rename_i shape_eq
            exact absurd shape_eq (shaped _ _)
          · rfl
        dsimp only [Except.map]
        rw [missing]
        rfl
  | ipm _ | pdhg _ | central _ => cases named

/-- The row whose coefficient is not a number, with the bound 1. -/
theorem notANumber_keepsBases :
    ∃ session, Engine.call .simplex (.object []) {}
        (LoadedProblem.ofData (.rows (.list [.list [.number (0 / 0), .number 1]]))
          (.list [.number 1])) = .ok session ∧
      KeepsBases 1 1 session.outcome := by
  have loaded : ProblemArrays.load (.rows (.list [.list [.number (0 / 0), .number 1]]))
      (.list [.number 1]) = .ok ⟨⟨[1, 1], #[0 / 0]⟩, ⟨[1], #[1]⟩, ⟨[1], #[1]⟩⟩ := rfl
  have valid : EngineOptions.resolve .simplex (.object []) =
      .ok (.simplex Options.standard) := rfl
  have positive : 0 < ({} : Surroundings).cap := by decide
  rcases call_keepsBases loaded valid positive with
    ⟨m, n, session, shaped, called, kept⟩ | ⟨unfit, -⟩
  · cases shaped
    exact ⟨session, called, kept⟩
  · exact absurd rfl (unfit 1 1)

end Reports

end PolyTrace.Simplex
