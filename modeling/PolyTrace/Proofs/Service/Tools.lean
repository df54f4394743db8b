import Mathlib
import PolyTrace.Proofs.Schema.Options
import PolyTrace.Service.Tools

/-!
# The tools agree

The tool of an engine reads its options, writes them out and puts them into a request, where they are
read once more.  The tool for any engine puts the options into the request as they were given.  Since
options within their bounds come back unchanged, both requests call the engine with the same
settings, and the tools give the same answer or refuse for the same reason.
-/

namespace PolyTrace

/-! ## Requests that differ in their options -/

namespace SolveRequest

/-- Settings that are read alike lead to the same answer. -/
theorem solve_options {request : SolveRequest} {fields fields' : List (String × Datum)}
    (same : EngineOptions.resolve request.solver (.object fields) =
      EngineOptions.resolve request.solver (.object fields')) (cap : Int) (elapsed : Float) :
    { request with options := fields }.solve cap elapsed =
      { request with options := fields' }.solve cap elapsed := by
  unfold solve Engine.call
  dsimp only
  rw [same]

/-- The options of a request are taken as they are, and the rest is read without them. -/
theorem readFields_requestFields (solver : Datum) (fields arguments : List (String × Datum)) :
    readFields (Tool.requestFields solver (.object fields) arguments) =
      (fun request => { request with options := fields }) <$>
        readFields (Tool.requestFields solver (.object []) arguments) := by
  have names : ∀ options, Rule.required "solver"
      (fun data => .ofExcept (Rule.choice Report.engines data))
        (Tool.requestFields solver options arguments) =
      (Validated.ofExcept (Rule.choice Report.engines solver)).within (.field "solver") :=
    fun _ => rfl
  have lines : ∀ options, Rule.required "lines" Rule.rows
      (Tool.requestFields solver options arguments) =
      (Rule.rows (Tool.argument "lines" arguments)).within (.field "lines") := fun _ => rfl
  have objective : ∀ options, Rule.required "objective" Rule.numbers
      (Tool.requestFields solver options arguments) =
      (Rule.numbers (Tool.argument "objective" arguments)).within (.field "objective") :=
    fun _ => rfl
  have settings : ∀ fields, Rule.field ["options"] [] anyObject
      (Tool.requestFields solver (.object fields) arguments) = .valid fields := fun _ => rfl
  have vertices : ∀ options, Rule.field ["vertices"] none (Rule.optional Rule.rows)
      (Tool.requestFields solver options arguments) =
      (Rule.optional Rule.rows (Tool.argument "vertices" arguments)).within (.field "vertices") :=
    fun _ => rfl
  unfold readFields
  rw [names, names, lines, lines, objective, objective, settings, settings, vertices, vertices]
  -- a part that is refused leaves the same issues whatever the options are
  cases (Validated.ofExcept (Rule.choice Report.engines solver)).within (.field "solver") <;>
    cases (Rule.rows (Tool.argument "lines" arguments)).within (.field "lines") <;>
    cases (Rule.numbers (Tool.argument "objective" arguments)).within (.field "objective") <;>
    cases (Rule.optional Rule.rows (Tool.argument "vertices" arguments)).within
      (.field "vertices") <;>
    rfl

theorem solver_of_readFields {engine : Engine} {options : Datum}
    {arguments : List (String × Datum)} {request : SolveRequest}
    (valid : readFields (Tool.requestFields (.text engine.name) options arguments) =
      .valid request) : request.solver = engine := by
  obtain ⟨_, vertices, upToOptions, -, rfl⟩ := Validated.seq_eq_valid valid
  obtain ⟨_, fields, upToObjective, -, rfl⟩ := Validated.seq_eq_valid upToOptions
  obtain ⟨_, objective, upToLines, -, rfl⟩ := Validated.seq_eq_valid upToObjective
  obtain ⟨_, lines, upToSolver, -, rfl⟩ := Validated.seq_eq_valid upToLines
  obtain ⟨solver, named, rfl⟩ := Validated.map_eq_valid upToSolver
  cases engine <;>
    · cases named
      rfl

end SolveRequest

namespace Tool

/-- Requests of one engine whose options are read alike have the same answer, or are refused for the
same reason. -/
theorem answer_requestFields {engine : Engine} {fields fields' : List (String × Datum)}
    (same : EngineOptions.resolve engine (.object fields) =
      EngineOptions.resolve engine (.object fields'))
    (arguments : List (String × Datum)) (cap : Int) (elapsed : Float) :
    answer (.object (requestFields (.text engine.name) (.object fields) arguments)) cap elapsed =
      answer (.object (requestFields (.text engine.name) (.object fields') arguments)) cap
        elapsed := by
  unfold answer SolveRequest.read Rule.object
  dsimp only
  rw [SolveRequest.readFields_requestFields, SolveRequest.readFields_requestFields _ fields']
  cases valid : SolveRequest.readFields
    (requestFields (.text engine.name) (.object []) arguments) with
  | invalid issues => rfl
  | valid request =>
      rw [← SolveRequest.solver_of_readFields valid] at same
      have answers := SolveRequest.solve_options same cap elapsed
      dsimp only [Functor.map, Validated.map]
      rw [answers]

/-- Options that a tool accepts are read alike when they are empty or missing. -/
theorem exists_fields_of_engineOptions {engine : Engine} {data : Datum} {options : EngineOptions}
    (accepted : engineOptions engine data = .valid options) :
    ∃ fields, (if data.truth then data else .object []) = .object fields ∧
      EngineOptions.readFields engine fields = .valid options := by
  unfold engineOptions at accepted
  split at accepted
  · cases accepted
    refine ⟨[], rfl, ?_⟩
    cases engine <;> rfl
  · obtain ⟨fields, rfl, valid⟩ := EngineOptions.read_eq_valid accepted
    cases fields with
    | nil => exact ⟨[], rfl, valid⟩
    | cons first rest => exact ⟨first :: rest, rfl, valid⟩

/-- The tool for any engine takes the arguments of the tool of one engine, and the name of the
engine. -/
theorem takes_any {engine : Engine} {arguments : List (String × Datum)}
    (taken : (Tool.engine engine).takes arguments = true) (name : Datum) :
    Tool.any.takes (("solver", name) :: arguments) = true := by
  unfold takes at taken ⊢
  rw [Bool.and_eq_true, List.all_eq_true, List.all_eq_true] at taken ⊢
  obtain ⟨given, known⟩ := taken
  constructor
  · intro field member
    rcases List.mem_cons.mp member with rfl | member
    · rfl
    · have different : "solver" ≠ field := by
        rintro rfl
        exact absurd member (by decide)
      rw [Datum.field?, List.find?_cons_of_neg (by simpa using different)]
      exact given field member
  · rw [List.forall_mem_cons]
    refine ⟨by simp [needed], fun entry member => ?_⟩
    have among := of_decide_eq_true (known entry member)
    cases engine <;>
      · simp only [needed, extra, List.cons_append, List.nil_append, List.mem_cons,
          List.not_mem_nil, or_false] at among ⊢
        rw [decide_eq_true_iff]
        tauto

/-- The tool of an engine and the tool for any engine give the same answer, or refuse for the same
reason, whenever the options are accepted for the engine.  Options within their bounds come back
unchanged when they are written as data. -/
theorem call_engine_eq_call_any {engine : Engine} {arguments : List (String × Datum)}
    {options : EngineOptions} (taken : (Tool.engine engine).takes arguments = true)
    (accepted : engineOptions engine (argument "options" arguments) = .valid options)
    (elapsed : Float) :
    (Tool.engine engine).call arguments elapsed =
        Tool.any.call (("solver", .text engine.name) :: arguments) elapsed ∧
      options.engine = engine ∧ options.WithinBounds ∧
      ∀ settings : EngineOptions, settings.WithinBounds →
        EngineOptions.read settings.engine (.object settings.dump) = .valid settings := by
  obtain ⟨fields, given, valid⟩ := exists_fields_of_engineOptions accepted
  have named := EngineOptions.engine_of_readFields valid
  have bounds := EngineOptions.withinBounds_of_readFields valid
  refine ⟨?_, named, bounds, fun settings => EngineOptions.read_dump⟩
  have same : EngineOptions.resolve engine (.object options.dump) =
      EngineOptions.resolve engine (.object fields) := by
    have again := EngineOptions.read_dump bounds
    rw [named] at again
    have first : EngineOptions.read engine (.object fields) = .valid options := valid
    unfold EngineOptions.resolve
    dsimp only
    rw [again, first]
  unfold call
  dsimp only
  rw [accepted]
  dsimp only
  rw [if_pos taken, if_pos (takes_any taken _)]
  unfold callEngine callAny
  dsimp only
  change _ = answer (.object (requestFields (.text engine.name)
    (if (argument "options" arguments).truth then argument "options" arguments else .object [])
      arguments)) _ _
  rw [given]
  exact answer_requestFields same arguments _ elapsed

/-- A setting given under both of its names, a number of iterations given as text, and digits for
flags and machine numbers. -/
def looseOptions : List (String × Datum) :=
  [("show_basis", .flag false), ("showBasis", .whole 1), ("ineq", .whole 1), ("maxit", .text "12"),
    ("tol", .whole 1)]

/-- The primal-dual method on the interval up to two, with these options. -/
theorem looseOptions_call_eq :
    (Tool.engine .pdhg).call
        [("lines", .list [.list [.whole 1, .whole 2]]), ("objective", .list [.whole 1]),
          ("options", .object looseOptions)] 0 =
      Tool.any.call
        [("solver", .text "pdhg"), ("lines", .list [.list [.whole 1, .whole 2]]),
          ("objective", .list [.whole 1]), ("options", .object looseOptions)] 0 := by
  have taken : (Tool.engine .pdhg).takes
      [("lines", .list [.list [.whole 1, .whole 2]]), ("objective", .list [.whole 1]),
        ("options", .object looseOptions)] = true := rfl
  have accepted : engineOptions .pdhg (.object looseOptions) =
      .valid (.pdhg { PrimalDual.Options.standard with
        showBasis := true, ineq := true, maxit := 12, tol := 1 }) := rfl
  exact (call_engine_eq_call_any taken accepted 0).1

end Tool

end PolyTrace
