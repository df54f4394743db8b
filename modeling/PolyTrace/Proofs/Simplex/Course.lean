import PolyTrace.Proofs.Simplex.Handover

/-!
# The course of a run of the two-phase method

Over an exact arithmetic and with a positive tolerance, a run on at least one row can end in five
ways only: a phase stalls, the first phase finds a ray, an artificial variable is stuck, the second
phase finds a ray, or the second phase finds an optimal basis.  No basis fails to be solved, and no
basis has the wrong number of members.  In the last case the last point of the run is the point of
the optimal basis, although the first point of the second phase may have been left out: the
hand-over does not move the point.
-/

namespace PolyTrace.Simplex

variable {K : Type}

section Points

variable [Scalar K] {m n p : Nat}

/-- The phase that starts from `start` comes to `last`, and with its solution `here` to the given
verdict. -/
structure Stops (options : Options K) (program : Program K m p) (start : Basis p)
    (verdict : Pivot K p) (last : Basis p) (here : Solution K m p) : Prop where
  reached : ∃ visits, Path options program start visits last
  solved : solution program last = .ok here
  pivoted : pivot options program last here = verdict

/-- The first basis that a path visits is the one it starts from. -/
theorem Path.head_visit {options : Options K} {program : Program K m p} {start last : Basis p}
    {visits : List (Visit K m p)} (path : Path options program start visits last)
    {here : Solution K m p} (solved : solution program last = .ok here) :
    ∃ first rest, solution program start = .ok first ∧
      visits ++ [(last, here)] = (start, first) :: rest := by
  cases path with
  | here => exact ⟨here, [], solved, rfl⟩
  | exchange startSolved _ _ => exact ⟨_, _, startSolved, rfl⟩

/-- If the second phase starts at the last point of the first, the last point of the run is the last
point of the second phase. -/
theorem Run.getLast?_points {run : Run K m n} {x : Vec K n} {rest : List (Vec K n)}
    (first : run.firstPoints.getLast? = some x)
    (second : run.secondVertices.map Vertex.point = x :: rest) :
    run.points.getLast? = (x :: rest).getLast? := by
  unfold Run.points
  dsimp only
  rw [first, second]
  dsimp only
  split
  · cases rest with
    | nil =>
        rw [List.append_nil, first]
        rfl
    | cons next others =>
        rw [List.getLast?_append_cons, List.getLast?_cons_cons]
  · rw [List.getLast?_append_cons]

omit [Scalar K] in
theorem Run.exists_final {run : Run K m n} (converged : run.outcome.isOk = true) :
    ∃ final, run.outcome = .ok final := by
  cases outcome_eq : run.outcome with
  | error cause =>
      rw [outcome_eq] at converged
      cases converged
  | ok final => exact ⟨final, rfl⟩

end Points

variable [ExactScalar K] {m n : Nat}

/-- How a run can go. -/
inductive Course (options : Options K) (cap : Int) (problem : Problem K m n) (run : Run K m n) :
    Prop
  | empty {cause : Failure K} (noRows : m = 0) (outcome_eq : run.outcome = .error cause)
  | stalled (outcome_eq : run.outcome = .error (.stalled cap))
  | ray {last : Basis (n + n + m + m)} {here : Solution K m (n + n + m + m)}
      (first : Stops options (phaseOne problem) (artificialBasis m n) .unbounded last here)
      (outcome_eq : run.outcome = .error .unbounded)
  | stuck {last : Basis (n + n + m + m)} {here : Solution K m (n + n + m + m)} {i : Fin m}
      (first : Stops options (phaseOne problem) (artificialBasis m n) .optimal last here)
      (above : options.tol < artificialPart here.full.get i)
      (outcome_eq : run.outcome = .error (.infeasible (-here.objective)))
  | unbounded {last : Basis (n + n + m + m)} {here : Solution K m (n + n + m + m)}
      {last' : Basis (n + n + m)} {here' : Solution K m (n + n + m)}
      (first : Stops options (phaseOne problem) (artificialBasis m n) .optimal last here)
      (below : ∀ i, last.get (artificialColumn i) = true →
        artificialPart here.full.get i ≤ options.tol)
      (second : Stops options (phaseTwo problem) (replaced last).basis .unbounded last' here')
      (outcome_eq : run.outcome = .error .unbounded)
  | converged {last : Basis (n + n + m + m)} {here : Solution K m (n + n + m + m)}
      {last' : Basis (n + n + m)} {here' : Solution K m (n + n + m)}
      {final : Final K (n + n + m)}
      (first : Stops options (phaseOne problem) (artificialBasis m n) .optimal last here)
      (below : ∀ i, last.get (artificialColumn i) = true →
        artificialPart here.full.get i ≤ options.tol)
      (second : Stops options (phaseTwo problem) (replaced last).basis .optimal last' here')
      (outcome_eq : run.outcome = .ok final)
      (getLast?_points : run.points.getLast? = some (unsplit here'.full))

/-- The second phase starts at the point where the first ended. -/
theorem unsplit_full_of_replaced {problem : Problem K m n} {last : Basis (n + n + m + m)}
    {here : Solution K m (n + n + m + m)} (solved : solution (phaseOne problem) last = .ok here)
    {first : Solution K m (n + n + m)}
    (started : solution (phaseTwo problem) (replaced last).basis = .ok first) :
    unsplit first.full = viewOne here.full := by
  have solves := solves_of_solution started
  have handedOver := (solves_of_solution solved).basic.handed
  apply Vec.ext_get
  intro j
  rw [Split.get_unsplit, get_viewOne,
    IsBasic.unique solves.independent solves.basic handedOver, free_handed]

/-- The last point of a run whose phases both found an optimal basis. -/
theorem getLast?_points_of_optimal {options : Options K} {problem : Problem K m n}
    {run : Run K m n} {visits : List (Visit K m (n + n + m + m))}
    {last : Basis (n + n + m + m)} {here : Solution K m (n + n + m + m)}
    (solved : solution (phaseOne problem) last = .ok here)
    (firstVertices : run.first.vertices =
      (visits ++ [(last, here)]).map (Visit.vertex viewOne))
    {visits' : List (Visit K m (n + n + m))} {last' : Basis (n + n + m)}
    {here' : Solution K m (n + n + m)}
    (path' : Path options (phaseTwo problem) (replaced last).basis visits' last')
    (solved' : solution (phaseTwo problem) last' = .ok here')
    (secondVertices : run.secondVertices =
      (visits' ++ [(last', here')]).map (Visit.vertex unsplit)) :
    run.points.getLast? = some (unsplit here'.full) := by
  obtain ⟨first, rest, started, visited⟩ := path'.head_visit solved'
  have firstLast : run.firstPoints.getLast? = some (viewOne here.full) := by
    rw [Run.firstPoints, firstVertices, List.map_map, List.map_append, List.map_singleton,
      List.getLast?_concat]
    rfl
  have secondPoints : run.secondVertices.map Vertex.point =
      (visits' ++ [(last', here')]).map fun visit => unsplit visit.2.full := by
    rw [secondVertices, List.map_map]
    rfl
  have secondHead : run.secondVertices.map Vertex.point =
      viewOne here.full :: rest.map fun visit => unsplit visit.2.full := by
    rw [secondPoints, visited, List.map_cons, unsplit_full_of_replaced solved started]
  rw [Run.getLast?_points firstLast secondHead, ← secondHead, secondPoints, List.map_append,
    List.map_singleton, List.getLast?_concat]

/-- Every run goes in one of the five ways, or there is no row. -/
theorem course_solve {options : Options K} (tol_pos : 0 < options.tol) (cap : Int)
    (problem : Problem K m n) : Course options cap problem (solve options cap problem) := by
  have regular := regular_artificialBasis problem
  obtain ⟨visits, last, path, ends⟩ :=
    Phase.run_path options cap (phaseOne problem) viewOne regular.size
  have regularLast := path.regular tol_pos regular
  unfold solve
  dsimp only
  generalize Phase.run options cap (phaseOne problem) viewOne (artificialBasis m n) = firstPhase
    at ends ⊢
  cases ends with
  | stalled _ => exact .stalled rfl
  | unsolved failed =>
      exact .empty (regularLast.eq_zero_of_unsolved failed) rfl
  | unbounded solved pivoted => exact .ray ⟨⟨visits, path⟩, solved, pivoted⟩ rfl
  | @optimal here solved pivoted =>
      dsimp only
      rcases handover_cases regularLast options.tol here.full here.objective with
        ⟨i, above, handed_eq⟩ | ⟨below, handed_eq⟩
      · rw [handed_eq]
        exact .stuck ⟨⟨visits, path⟩, solved, pivoted⟩ above rfl
      · rw [handed_eq]
        obtain ⟨visits', last', path', ends'⟩ :=
          Phase.run_path options cap (phaseTwo problem) unsplit regularLast.replaced.size
        have regularLast' := path'.regular tol_pos regularLast.replaced
        dsimp only
        generalize Phase.run options cap (phaseTwo problem) unsplit (replaced last).basis =
          secondPhase at ends' ⊢
        cases ends' with
        | stalled _ => exact .stalled rfl
        | unsolved failed =>
            exact .empty (regularLast'.eq_zero_of_unsolved failed) rfl
        | unbounded solved' pivoted' =>
            exact .unbounded ⟨⟨visits, path⟩, solved, pivoted⟩ below
              ⟨⟨visits', path'⟩, solved', pivoted'⟩ rfl
        | optimal solved' pivoted' =>
            exact .converged ⟨⟨visits, path⟩, solved, pivoted⟩ below
              ⟨⟨visits', path'⟩, solved', pivoted'⟩ rfl
              (getLast?_points_of_optimal solved rfl path' solved' rfl)

/-- The course of a run that converged. -/
theorem stops_of_converged {options : Options K} (tol_pos : 0 < options.tol) {cap : Int}
    {problem : Problem K m n} {final : Final K (n + n + m)}
    (converged : (solve options cap problem).outcome = .ok final) :
    ∃ last here last' here',
      Stops options (phaseOne problem) (artificialBasis m n) .optimal last here ∧
      (∀ i, last.get (artificialColumn i) = true →
        artificialPart here.full.get i ≤ options.tol) ∧
      Stops options (phaseTwo problem) (replaced last).basis .optimal last' here' ∧
      (solve options cap problem).points.getLast? = some (unsplit here'.full) := by
  cases course_solve tol_pos cap problem with
  | converged first below second _ getLast?_points =>
      exact ⟨_, _, _, _, first, below, second, getLast?_points⟩
  | empty _ outcome_eq | stalled outcome_eq | ray _ outcome_eq | stuck _ _ outcome_eq
  | unbounded _ _ _ outcome_eq =>
      rw [converged] at outcome_eq
      cases outcome_eq

end PolyTrace.Simplex
