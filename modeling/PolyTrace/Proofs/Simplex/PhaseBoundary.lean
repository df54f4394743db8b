import PolyTrace.Proofs.Simplex.Course

/-!
# Across the boundary between the phases

When the first phase has ended and no artificial variable is stuck, the second phase starts at the
vertex where the first one stood.  The replacement of artificial columns by slacks fills the basis,
so that nothing is padded; the basic solution keeps its variables, and each slack takes over the
artificial variable of its row with the sign of the row.  The point shown does not move, and the
points of a run therefore list it once, although both phases record it: a run that has reached its
second phase shows one point less than it records bases.
-/

namespace PolyTrace.Simplex

/-! ## The parts of a run -/

section Parts

variable {K : Type} [Scalar K] {m n p q : Nat}

/-- A run stops after its first phase, or at the hand-over, or goes through a second phase. -/
theorem solve_cases (options : Options K) (cap : Int) (problem : Problem K m n) :
    ∃ first, first = Phase.run options cap (phaseOne problem) viewOne (artificialBasis m n) ∧
      ((∃ cause, first.outcome = .error cause ∧
          solve options cap problem = ⟨first, none, none, .error cause⟩) ∨
        ∃ final, first.outcome = .ok final ∧
          ((∃ changes cause,
              handover options.tol final.basis final.full final.objective =
                ⟨changes, .error cause⟩ ∧
              solve options cap problem =
                ⟨first, some ⟨changes, .error cause⟩, none, .error cause⟩) ∨
            ∃ changes repaired second,
              handover options.tol final.basis final.full final.objective =
                ⟨changes, .ok repaired⟩ ∧
              second = Phase.run options cap (phaseTwo problem) unsplit repaired ∧
              solve options cap problem =
                ⟨first, some ⟨changes, .ok repaired⟩, some second, second.outcome⟩)) := by
  refine ⟨_, rfl, ?_⟩
  unfold solve
  dsimp only
  generalize Phase.run options cap (phaseOne problem) viewOne (artificialBasis m n) = first
  cases outcome_eq : first.outcome with
  | error cause => exact .inl ⟨cause, rfl, rfl⟩
  | ok final =>
      refine .inr ⟨final, rfl, ?_⟩
      dsimp only
      obtain ⟨changes, outcome⟩ :=
        handover options.tol final.basis final.full final.objective
      cases outcome with
      | error cause => exact .inl ⟨changes, cause, rfl, rfl⟩
      | ok repaired => exact .inr ⟨changes, repaired, _, rfl, rfl, rfl⟩

/-- Every run begins with the first phase. -/
theorem solve_first (options : Options K) (cap : Int) (problem : Problem K m n) :
    (solve options cap problem).first =
      Phase.run options cap (phaseOne problem) viewOne (artificialBasis m n) := by
  obtain ⟨first, first_eq, ⟨_, _, run_eq⟩ | ⟨_, _, ⟨_, _, _, run_eq⟩ |
    ⟨_, _, _, _, _, run_eq⟩⟩⟩ := solve_cases options cap problem
  all_goals
    rw [run_eq]
    exact first_eq

/-- A phase that found an optimal basis has recorded its solution last. -/
theorem Ends.final_eq {options : Options K} {cap : Int} {program : Program K m p}
    {view : Vec K p → Vec K q} {fuel : Nat} {seen : List (Vertex K p q)}
    {visits : List (Visit K m p)} {last : Basis p} {phase : Phase K p q}
    (ends : Ends options cap program view fuel seen visits last phase) {final : Final K p}
    (finished : phase.outcome = .ok final) :
    ∃ here, solution program last = .ok here ∧ final.basis = last ∧ final.full = here.full ∧
      phase.vertices = seen ++ (visits ++ [(last, here)]).map (Visit.vertex view) := by
  cases ends with
  | stalled _ => cases finished
  | unsolved _ => cases finished
  | unbounded _ _ => cases finished
  | optimal solved _ =>
      cases finished
      exact ⟨_, solved, rfl, rfl, rfl⟩

/-- A phase that finds an optimal basis may record a vertex. -/
theorem Phase.cap_pos_of_run {options : Options K} {cap : Int} {program : Program K m p}
    {view : Vec K p → Vec K q} {basis : Basis p} {final : Final K p}
    (finished : (Phase.run options cap program view basis).outcome = .ok final) :
    0 < cap.toNat := by
  by_contra none
  have zero := Nat.eq_zero_of_not_pos none
  unfold Phase.run at finished
  rw [zero] at finished
  split at finished <;> cases finished

/-- A phase from a basis with a solution records it first. -/
theorem Phase.exists_vertices_eq_cons (options : Options K) {cap : Int} {program : Program K m p}
    (view : Vec K p → Vec K q) {basis : Basis p} {here : Solution K m p}
    (solved : solution program basis = .ok here) (positive : 0 < cap.toNat) :
    ∃ rest, (Phase.run options cap program view basis).vertices =
      Visit.vertex view (basis, here) :: rest := by
  obtain ⟨visits, last, path, ends⟩ :=
    Phase.run_path options cap program view (length_of_solution solved)
  generalize Phase.run options cap program view basis = phase at ends ⊢
  cases path with
  | here =>
      cases ends with
      | stalled all => exact absurd all positive.ne
      | unsolved failed =>
          rw [solved] at failed
          cases failed
      | unbounded solved' _ | optimal solved' _ =>
          rw [solved] at solved'
          cases solved'
          exact ⟨[], rfl⟩
  | exchange solved' _ _ =>
      rw [solved] at solved'
      cases solved'
      cases ends <;> exact ⟨_, rfl⟩

end Parts

/-! ## The first vertex of the second phase -/

section Exact

variable {K : Type} [ExactScalar K] {m n p q : Nat}

/-- Every point is equal to itself up to small errors. -/
theorem closePoints_self (x : Vec K n) : closePoints x x = true := by
  rw [closePoints, List.all_eq_true]
  intro i _
  have slight : Scalar.abs (x.get i - x.get i) ≤
      Scalar.unitAt 8 + Scalar.unitAt 5 * Scalar.abs (x.get i) := by
    rw [sub_self, Scalar.abs_eq, Scalar.abs_eq, abs_zero]
    exact add_nonneg (Scalar.unitAt_pos 8).le
      (mul_nonneg (Scalar.unitAt_pos 5).le (abs_nonneg _))
  rw [closeTo, Bool.or_eq_true, decide_eq_true_iff]
  exact .inl ⟨slight, Scalar.finite _⟩

/-- A point that both phases record at their boundary is listed once. -/
theorem Run.points_of_shared {run : Run K m n} {x : Vec K n} {rest : List (Vec K n)}
    (first : run.firstPoints.getLast? = some x)
    (second : run.secondVertices.map Vertex.point = x :: rest) :
    run.points = run.firstPoints ++ rest := by
  unfold Run.points
  dsimp only
  rw [first, second]
  exact if_pos (closePoints_self x)

theorem Run.length_points_of_shared {run : Run K m n} {x : Vec K n} {rest : List (Vec K n)}
    (first : run.firstPoints.getLast? = some x)
    (second : run.secondVertices.map Vertex.point = x :: rest) :
    run.points.length + 1 = run.bases.length := by
  have counted : run.secondVertices.length = rest.length + 1 := by
    rw [← List.length_map (f := Vertex.point), second, List.length_cons]
  rw [Run.points_of_shared first second, Run.bases, List.length_append, List.length_append,
    List.length_map, List.length_map, counted, Run.firstPoints, List.length_map]
  rfl

/-- Replacing artificial columns is not padding. -/
theorem padded_notMem_replaced (basis : Basis (n + n + m + m)) (members slack : Nat) :
    .padded members slack ∉ (replaced basis).changes := by
  have kept : ∀ (rows : List (Fin m)) (state : Repaired (n + n + m)),
      .padded members slack ∉ state.changes →
        .padded members slack ∉ (rows.foldl (replaceArtificial basis) state).changes := by
    intro rows
    induction rows with
    | nil => exact fun state absent => absent
    | cons first rest inductionHypothesis =>
        intro state absent
        rw [List.foldl_cons]
        apply inductionHypothesis
        unfold replaceArtificial
        split
        · simp [absent]
        · exact absent
  rw [replaced, Fin.foldl_eq_finRange_foldl]
  exact kept _ _ List.not_mem_nil

/-! ## Runs that go on to the second phase -/

/-- The run goes on from `last`, where the first phase found the optimal solution `here` without an
artificial variable above the tolerance. -/
structure GoesOn (options : Options K) (cap : Int) (problem : Problem K m n) (run : Run K m n)
    (last : Basis (n + n + m + m)) (here : Solution K m (n + n + m + m)) : Prop where
  recorded : ∃ visits, Path options (phaseOne problem) (artificialBasis m n) visits last ∧
    run.first.vertices = (visits ++ [(last, here)]).map (Visit.vertex viewOne)
  solved : solution (phaseOne problem) last = .ok here
  below : ∀ i, last.get (artificialColumn i) = true →
    artificialPart here.full.get i ≤ options.tol
  ended : ∃ final, run.first.outcome = .ok final ∧ final.basis = last ∧ final.full = here.full
  between : run.between = some ⟨(replaced last).changes, .ok (replaced last).basis⟩
  second : run.second =
    some (Phase.run options cap (phaseTwo problem) unsplit (replaced last).basis)
  positive : 0 < cap.toNat

/-- A run either has no second phase, and then no basis was handed over, or it goes on. -/
theorem goesOn_cases {options : Options K} (tol_pos : 0 < options.tol) (cap : Int)
    (problem : Problem K m n) :
    ((solve options cap problem).second = none ∧
        ∀ changes repaired, (solve options cap problem).between ≠
          some ⟨changes, .ok repaired⟩) ∨
      ∃ last here, GoesOn options cap problem (solve options cap problem) last here := by
  have regular := regular_artificialBasis problem
  obtain ⟨visits, last, path, ends⟩ :=
    Phase.run_path options cap (phaseOne problem) viewOne regular.size
  obtain ⟨first, first_eq, ⟨cause, _, run_eq⟩ | ⟨final, ended, ⟨changes, cause, _, run_eq⟩ |
    ⟨changes, repaired, second, handed, second_eq, run_eq⟩⟩⟩ := solve_cases options cap problem
  · rw [run_eq]
    exact .inl ⟨rfl, fun _ _ none => nomatch none⟩
  · rw [run_eq]
    refine .inl ⟨rfl, fun _ _ failed => ?_⟩
    cases failed
  · right
    rw [first_eq] at ended
    obtain ⟨here, solved, basis_eq, full_eq, vertices⟩ := ends.final_eq ended
    have regularLast := path.regular tol_pos regular
    rw [basis_eq] at handed
    rcases handover_cases regularLast options.tol final.full final.objective with
      ⟨i, _, stuck⟩ | ⟨below, handed'⟩
    · rw [handed] at stuck
      cases stuck
    · rw [handed] at handed'
      cases handed'
      rw [full_eq] at below
      rw [run_eq]
      refine ⟨last, here, ?_⟩
      exact
        { recorded := ⟨visits, path, by rw [first_eq, vertices, List.nil_append]⟩
          solved := solved
          below := below
          ended := ⟨final, by rw [first_eq, ended], basis_eq, full_eq⟩
          between := rfl
          second := congrArg some second_eq
          positive := Phase.cap_pos_of_run ended }

namespace GoesOn

variable {options : Options K} {cap : Int} {problem : Problem K m n} {run : Run K m n}
  {last : Basis (n + n + m + m)} {here : Solution K m (n + n + m + m)}

theorem regular (goesOn : GoesOn options cap problem run last here) :
    Regular (phaseOne problem) last :=
  ⟨length_of_solution goesOn.solved, (solves_of_solution goesOn.solved).independent⟩

/-- The second phase starts at the vertex of the first, handed over. -/
theorem exists_started (goesOn : GoesOn options cap problem run last here) :
    ∃ started, solution (phaseTwo problem) (replaced last).basis = .ok started ∧
      started.full.get = handed problem here.full.get := by
  have rows : 0 < m := by
    by_contra none
    have noRows := Nat.eq_zero_of_not_pos none
    subst noRows
    have solved := goesOn.solved
    have size := length_of_solution solved
    rw [solution, dif_pos size, solutionAt] at solved
    cases solved
  obtain ⟨started, solved⟩ := goesOn.regular.replaced.exists_solution rows
  have solves := solves_of_solution solved
  exact ⟨started, solved, IsBasic.unique solves.independent solves.basic
    (solves_of_solution goesOn.solved).basic.handed⟩

theorem getLast?_firstPoints (goesOn : GoesOn options cap problem run last here) :
    run.firstPoints.getLast? = some (viewOne here.full) := by
  obtain ⟨visits, _, recorded⟩ := goesOn.recorded
  rw [Run.firstPoints, recorded, List.map_map, List.map_append, List.map_singleton,
    List.getLast?_concat]
  rfl

/-- The second phase records the last point of the first once more. -/
theorem exists_secondPoints (goesOn : GoesOn options cap problem run last here) :
    ∃ rest, run.secondVertices.map Vertex.point = viewOne here.full :: rest := by
  obtain ⟨started, solved, _⟩ := goesOn.exists_started
  obtain ⟨rest, vertices⟩ :=
    Phase.exists_vertices_eq_cons options unsplit solved goesOn.positive
  refine ⟨rest.map Vertex.point, ?_⟩
  rw [Run.secondVertices, goesOn.second]
  dsimp only
  rw [vertices, List.map_cons, ← unsplit_full_of_replaced goesOn.solved solved]
  rfl

end GoesOn

end Exact

variable {m n : Nat}

/-- Whenever the first phase of a run over the fractions ends at a basis that is handed over, with
any positive tolerance and either pivot rule, the basis has no row with both its slack and its
artificial variable, nothing is padded, and the basic solution of the second phase at the basis
handed over has the same split variables as the last solution of the first phase, and as slacks the
old ones with the artificial variables added under the signs of the rows.  The second phase starts
at the last point of the first, which the run lists once: it shows one point less than bases. -/
theorem solve_handover_keeps_point {options : Options Rat} (tol_pos : 0 < options.tol) {cap : Int}
    {problem : Problem Rat m n} {final : Final Rat (n + n + m + m)} {changes : List Repair}
    {basis : Basis (n + n + m)} (ended : (solve options cap problem).first.outcome = .ok final)
    (between : (solve options cap problem).between = some ⟨changes, .ok basis⟩) :
    (∀ i : Fin m, ¬ (final.basis.get ((slackColumn i).castAdd m) = true ∧
        final.basis.get (artificialColumn i) = true)) ∧
      ((repair final.basis).basis = basis ∧ repair final.basis = replaced final.basis ∧
        ∀ members slack, .padded members slack ∉ changes) ∧
      (∃ started, solution (phaseTwo problem) basis = .ok started ∧
        (∀ j : Fin (n + n),
          started.full.get (j.castAdd m) = final.full.get ((j.castAdd m).castAdd m)) ∧
        ∀ i : Fin m, started.full.get (slackColumn i) =
          final.full.get ((slackColumn i).castAdd m) +
            (rowSigns problem.b).get i * final.full.get (artificialColumn i)) ∧
      ∃ x rest, (solve options cap problem).firstPoints.getLast? = some x ∧
        (solve options cap problem).secondVertices.map Vertex.point = x :: rest ∧
        (solve options cap problem).points = (solve options cap problem).firstPoints ++ rest ∧
        (solve options cap problem).points.length + 1 =
          (solve options cap problem).bases.length := by
  rcases goesOn_cases tol_pos cap problem with ⟨_, notHanded⟩ | ⟨last, here, goesOn⟩
  · exact absurd between (notHanded _ _)
  · obtain ⟨final', ended', basis_eq, full_eq⟩ := goesOn.ended
    rw [ended] at ended'
    cases ended'
    rw [goesOn.between] at between
    cases between
    have exclusive := exclusive_of_independent goesOn.regular.independent
    have repaired := repair_eq_replaced exclusive goesOn.regular.size
    rw [basis_eq, full_eq, repaired]
    refine ⟨fun i both => ?_, ⟨rfl, rfl, padded_notMem_replaced last⟩, ?_, ?_⟩
    · exact absurd (exclusive i both.1) (ne_false_of_eq_true both.2)
    · obtain ⟨started, solved, full_eq⟩ := goesOn.exists_started
      refine ⟨started, solved, fun j => ?_, fun i => ?_⟩
      · rw [full_eq, handed_variable]
      · rw [full_eq, handed_slack]
        rfl
    · obtain ⟨rest, second⟩ := goesOn.exists_secondPoints
      have first := goesOn.getLast?_firstPoints
      exact ⟨_, rest, first, second, Run.points_of_shared first second,
        Run.length_points_of_shared first second⟩

/-- The single point `-1`.  At the end of the first phase the artificial variable of the second row
is still basic, with the value zero. -/
def pinned : Problem Rat 2 1 where
  A := #v[#v[-2], #v[2]]
  b := #v[2, -2]
  c := #v[2]

/-- At the pinned point the artificial variable of the second row is replaced by its slack, and the
second phase starts where the first one ended. -/
theorem pinned_keeps_point : ∃ final,
    (solve ⟨false, 1 / 10, .bland⟩ 65536 pinned).first.outcome = .ok final ∧
      (solve ⟨false, 1 / 10, .bland⟩ 65536 pinned).between =
        some ⟨[.replaced 5 3], .ok #v[false, true, false, true]⟩ ∧
      (∀ i : Fin 2, ¬ (final.basis.get ((slackColumn i).castAdd 2) = true ∧
        final.basis.get (artificialColumn i) = true)) ∧
      (∃ started, solution (phaseTwo pinned) #v[false, true, false, true] = .ok started ∧
        (∀ j : Fin (1 + 1),
          started.full.get (j.castAdd 2) = final.full.get ((j.castAdd 2).castAdd 2)) ∧
        ∀ i : Fin 2, started.full.get (slackColumn i) =
          final.full.get ((slackColumn i).castAdd 2) +
            (rowSigns pinned.b).get i * final.full.get (artificialColumn i)) ∧
      (solve ⟨false, 1 / 10, .bland⟩ 65536 pinned).points.length + 1 =
        (solve ⟨false, 1 / 10, .bland⟩ 65536 pinned).bases.length := by
  have ended : (solve ⟨false, 1 / 10, .bland⟩ 65536 pinned).first.outcome.isOk = true := by
    decide +kernel
  have parts : ((solve ⟨false, 1 / 10, .bland⟩ 65536 pinned).between.map
      fun handover => (handover.changes, handover.outcome.toOption)) =
        some ([.replaced 5 3], some #v[false, true, false, true]) := by
    decide +kernel
  obtain ⟨⟨changes, outcome⟩, between, parts_eq⟩ := Option.map_eq_some_iff.mp parts
  cases outcome with
  | error cause => cases parts_eq
  | ok basis =>
      cases parts_eq
      cases outcome_eq : (solve ⟨false, 1 / 10, .bland⟩ 65536 pinned).first.outcome with
      | error cause =>
          rw [outcome_eq] at ended
          cases ended
      | ok final =>
          obtain ⟨exclusive, _, started, _, _, _, _, _, counted⟩ :=
            solve_handover_keeps_point (by decide +kernel) outcome_eq between
          exact ⟨final, rfl, between, exclusive, started, counted⟩

end PolyTrace.Simplex
