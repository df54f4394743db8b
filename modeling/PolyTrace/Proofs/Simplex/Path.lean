import PolyTrace.Engine.Simplex.Phase

/-!
# The bases a phase goes through

`Path options program basis visits last` says that from `basis` the phase exchanges one column after
another, visiting the bases of `visits` with their solutions, until it stands at `last`.  Every
phase is such a path, and `Ends` says in which of four ways it ends there and what it has recorded.
This holds in every arithmetic; what a phase preserves follows by induction along its path.
-/

namespace PolyTrace.Simplex

variable {K : Type} [Scalar K] {m p q : Nat}

/-- The change of the basic entries that makes room for a column. -/
def Solution.direction (program : Program K m p) (here : Solution K m p) (j : Fin p) : Vec K m :=
  here.factors.solve (program.A.column j)

/-! ## One exchange -/

section Exchange

variable {options : Options K} {program : Program K m p} {basis : Basis p}
  {here : Solution K m p}

theorem pivot_eq_optimal (pivoted : pivot options program basis here = .optimal) :
    entering options.rule options.tol here.reduced basis = none := by
  unfold pivot at pivoted
  split at pivoted
  · assumption
  · dsimp only at pivoted
    split at pivoted <;> cases pivoted

theorem pivot_eq_unbounded (pivoted : pivot options program basis here = .unbounded) :
    ∃ j, entering options.rule options.tol here.reduced basis = some j ∧
      leaving options.tol here.basic (here.direction program j)
        (fun i => (here.columns.get i).val) = none := by
  unfold pivot at pivoted
  split at pivoted
  · cases pivoted
  · rename_i j enters
    dsimp only at pivoted
    split at pivoted
    · rename_i leaves
      exact ⟨j, enters, leaves⟩
    · cases pivoted

theorem pivot_eq_exchange {next : Basis p}
    (pivoted : pivot options program basis here = .exchange next) :
    ∃ j r, entering options.rule options.tol here.reduced basis = some j ∧
      leaving options.tol here.basic (here.direction program j)
        (fun i => (here.columns.get i).val) = some r ∧
      next = basis.exchange j (here.columns.get r) := by
  unfold pivot at pivoted
  split at pivoted
  · cases pivoted
  · rename_i j enters
    dsimp only at pivoted
    split at pivoted
    · cases pivoted
    · rename_i r leaves
      cases pivoted
      exact ⟨j, r, enters, leaves, rfl⟩

end Exchange

/-! ## Whole phases -/

/-- A basis and its solution. -/
abbrev Visit (K : Type) (m p : Nat) :=
  Basis p × Solution K m p

/-- What is recorded of a visited basis. -/
def Visit.vertex (view : Vec K p → Vec K q) (visit : Visit K m p) : Vertex K p q :=
  ⟨visit.1, view visit.2.full, visit.2.objective⟩

/-- Exchanges from a basis to another, with the bases visited on the way. -/
inductive Path (options : Options K) (program : Program K m p) :
    Basis p → List (Visit K m p) → Basis p → Prop
  | here (basis : Basis p) : Path options program basis [] basis
  | exchange {basis next last : Basis p} {here : Solution K m p} {rest : List (Visit K m p)}
      (solved : solution program basis = .ok here)
      (pivoted : pivot options program basis here = .exchange next)
      (onward : Path options program next rest last) :
      Path options program basis ((basis, here) :: rest) last

/-- What every exchange preserves holds of all bases along a path. -/
theorem Path.forall_visited {options : Options K} {program : Program K m p} {Inv : Basis p → Prop}
    (step : ∀ {basis here next}, Inv basis → solution program basis = .ok here →
      pivot options program basis here = .exchange next → Inv next)
    {basis last : Basis p} {visits : List (Visit K m p)}
    (path : Path options program basis visits last) (start : Inv basis) :
    ∀ visited ∈ visits.map Prod.fst ++ [last], Inv visited := by
  induction path with
  | here basis =>
      intro visited member
      rw [List.map_nil, List.nil_append, List.mem_singleton] at member
      rw [member]
      exact start
  | exchange solved pivoted _ inductionHypothesis =>
      rw [List.map_cons, List.cons_append, List.forall_mem_cons]
      exact ⟨start, inductionHypothesis (step start solved pivoted)⟩

/-- What every exchange preserves holds at the end of a path. -/
theorem Path.preserves {options : Options K} {program : Program K m p} {Inv : Basis p → Prop}
    (step : ∀ {basis here next}, Inv basis → solution program basis = .ok here →
      pivot options program basis here = .exchange next → Inv next)
    {basis last : Basis p} {visits : List (Visit K m p)}
    (path : Path options program basis visits last) (start : Inv basis) : Inv last :=
  path.forall_visited step start last (List.mem_append_right _ (List.mem_singleton_self last))

/-- The first basis along a path is the one it starts from. -/
theorem Path.head?_bases {options : Options K} {program : Program K m p} {basis last : Basis p}
    {visits : List (Visit K m p)} (path : Path options program basis visits last) :
    (visits.map Prod.fst ++ [last]).head? = some basis := by
  cases path <;> rfl

/-- The four ways in which a phase of at most `fuel` vertices ends at `last`, after `visits` and
with the vertices `seen` recorded before. -/
inductive Ends (options : Options K) (cap : Int) (program : Program K m p)
    (view : Vec K p → Vec K q) (fuel : Nat) (seen : List (Vertex K p q))
    (visits : List (Visit K m p)) (last : Basis p) : Phase K p q → Prop
  | stalled (all : visits.length = fuel) :
      Ends options cap program view fuel seen visits last
        ⟨seen ++ visits.map (Visit.vertex view), .error (.stalled cap)⟩
  | unsolved {cause : Failure K} (failed : solution program last = .error cause) :
      Ends options cap program view fuel seen visits last
        ⟨seen ++ visits.map (Visit.vertex view), .error cause⟩
  | unbounded {here : Solution K m p} (solved : solution program last = .ok here)
      (pivoted : pivot options program last here = .unbounded) :
      Ends options cap program view fuel seen visits last
        ⟨seen ++ (visits ++ [(last, here)]).map (Visit.vertex view), .error .unbounded⟩
  | optimal {here : Solution K m p} (solved : solution program last = .ok here)
      (pivoted : pivot options program last here = .optimal) :
      Ends options cap program view fuel seen visits last
        ⟨seen ++ (visits ++ [(last, here)]).map (Visit.vertex view),
          .ok ⟨last, here.full, here.objective, seen.length + visits.length + 1⟩⟩

/-- A vertex recorded before the phase went on can be counted among the visits. -/
theorem Ends.cons {options : Options K} {cap : Int} {program : Program K m p}
    {view : Vec K p → Vec K q} {fuel : Nat} {seen : List (Vertex K p q)} {visit : Visit K m p}
    {visits : List (Visit K m p)} {last : Basis p} {phase : Phase K p q}
    (ends : Ends options cap program view fuel (seen ++ [visit.vertex view]) visits last phase) :
    Ends options cap program view (fuel + 1) seen (visit :: visits) last phase := by
  cases ends with
  | stalled all =>
      rw [List.append_assoc]
      exact .stalled (congrArg Nat.succ all)
  | unsolved failed =>
      rw [List.append_assoc]
      exact .unsolved failed
  | unbounded solved pivoted =>
      rw [List.append_assoc]
      exact .unbounded solved pivoted
  | optimal solved pivoted =>
      rw [List.append_assoc, List.length_append, List.length_singleton, Nat.add_assoc seen.length,
        Nat.add_comm 1, ← List.length_cons (a := visit)]
      exact .optimal solved pivoted

/-- A phase follows a path from its first basis and ends in one of the four ways. -/
theorem Phase.loop_path (options : Options K) (cap : Int) (program : Program K m p)
    (view : Vec K p → Vec K q) (fuel : Nat) (basis : Basis p) (seen : Array (Vertex K p q)) :
    ∃ visits last, Path options program basis visits last ∧
      Ends options cap program view fuel seen.toList visits last
        (Phase.loop options cap program view fuel basis seen) := by
  induction fuel generalizing basis seen with
  | zero =>
      refine ⟨[], basis, .here basis, ?_⟩
      have ends : Ends options cap program view 0 seen.toList [] basis
          ⟨seen.toList ++ ([] : List (Visit K m p)).map (Visit.vertex view),
            .error (.stalled cap)⟩ :=
        .stalled rfl
      rw [List.map_nil, List.append_nil] at ends
      exact ends
  | succ fuel inductionHypothesis =>
      rw [Phase.loop]
      cases solved : solution program basis with
      | error cause =>
          refine ⟨[], basis, .here basis, ?_⟩
          have ends : Ends options cap program view (fuel + 1) seen.toList [] basis
              ⟨seen.toList ++ ([] : List (Visit K m p)).map (Visit.vertex view),
                .error cause⟩ :=
            .unsolved solved
          rw [List.map_nil, List.append_nil] at ends
          exact ends
      | ok here =>
          dsimp only
          have recorded : (seen.push ⟨basis, view here.full, here.objective⟩).toList =
              seen.toList ++ [Visit.vertex view (basis, here)] :=
            Array.toList_push
          cases pivoted : pivot options program basis here with
          | optimal =>
              refine ⟨[], basis, .here basis, ?_⟩
              dsimp only
              rw [recorded, Array.size_push, ← Array.length_toList]
              exact .optimal solved pivoted
          | unbounded =>
              refine ⟨[], basis, .here basis, ?_⟩
              dsimp only
              rw [recorded]
              exact .unbounded solved pivoted
          | exchange next =>
              obtain ⟨visits, last, path, ends⟩ := inductionHypothesis next
                (seen.push ⟨basis, view here.full, here.objective⟩)
              rw [recorded] at ends
              exact ⟨(basis, here) :: visits, last, .exchange solved pivoted path, ends.cons⟩

/-- The bases that are recorded are the first ones of those that are visited. -/
theorem Ends.bases_prefix {options : Options K} {cap : Int} {program : Program K m p}
    {view : Vec K p → Vec K q} {fuel : Nat} {visits : List (Visit K m p)} {last : Basis p}
    {phase : Phase K p q} (ends : Ends options cap program view fuel [] visits last phase) :
    phase.vertices.map Vertex.basis <+: visits.map Prod.fst ++ [last] := by
  cases ends with
  | stalled _ | unsolved _ =>
      refine ⟨[last], ?_⟩
      simp [Visit.vertex]
  | unbounded _ _ | optimal _ _ =>
      refine ⟨[], ?_⟩
      simp [Visit.vertex]

/-- The phase from a basis with one member for each row. -/
theorem Phase.run_path (options : Options K) (cap : Int) (program : Program K m p)
    (view : Vec K p → Vec K q) {basis : Basis p} (size : basis.members.length = m) :
    ∃ visits last, Path options program basis visits last ∧
      Ends options cap program view cap.toNat [] visits last
        (Phase.run options cap program view basis) := by
  unfold Phase.run Basis.check
  rw [if_pos size]
  exact Phase.loop_path options cap program view cap.toNat basis #[]

end PolyTrace.Simplex
