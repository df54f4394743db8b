import Mathlib
import PolyTrace.Proofs.InteriorPoint.Trail
import PolyTrace.Proofs.PrimalDual.Trail
import PolyTrace.Proofs.Service.Answers
import PolyTrace.Proofs.Simplex.Bookkeeping

/-!
# Traces line up

An answer holds several lists that belong together: the points, what was noted of each of them, and
the lines of the log.  Whatever the numbers are, they have the lengths that a reader counts on.  A
point is recorded at once with everything that is noted of it, and leaves one line in the log; the
titles of a table stand before these lines and one line stands behind them.

A call that fails before its engine has started leaves nothing but its message.  The message of any
failure ends the log.
-/

namespace PolyTrace

/-! ## Lines among notes -/

namespace Note

theorem lines_append (notes others : List Note) :
    lines (notes ++ others) = lines notes ++ lines others :=
  List.filterMap_append

theorem lines_map_line (texts : List String) : lines (texts.map line) = texts := by
  induction texts with
  | nil => rfl
  | cons first rest inductionHypothesis => exact congrArg (first :: ·) inductionHypothesis

theorem lines_map_warning {α : Type} (text : α → String) (items : List α) :
    lines (items.map fun item => warning (text item)) = [] := by
  induction items with
  | nil => rfl
  | cons first rest inductionHypothesis => exact inductionHypothesis

end Note

/-! ## What a report should look like -/

namespace Report

/-- The engine failed. -/
def Failed (report : Report) : Prop :=
  report.status ≠ .converged ∧ report.status ≠ .maxIterations

/-- Nothing was recorded before the failure. -/
structure Bare (report : Report) : Prop where
  failed : report.Failed
  iterates : report.iterates = []
  detail : report.detail = some (Detail.empty report.solver)
  logs : report.logs = [report.message]

/-- The traces of a simplex run. -/
structure SimplexTraces (report : Report) (phaseLogs : List (List String)) (bases : List String) :
    Prop where
  bases_length : bases.length = report.iterates.length ∨
    bases.length = report.iterates.length + 1
  logs_eq : report.logs = phaseLogs.flatten
  logs_length : report.logs.length = bases.length + 2 * phaseLogs.length

/-- The traces of an interior point run. -/
structure InteriorPointTraces (maxit : Nat) (report : Report) (slacks duals : List (List Float))
    (mu : List Float) : Prop where
  slacks_length : slacks.length = report.iterates.length
  duals_length : duals.length = report.iterates.length
  mu_length : mu.length = report.iterates.length
  iterates_length_le : report.iterates.length ≤ maxit + 1
  logs_length : ¬ report.Failed → report.logs.length = report.iterates.length + 2
  logs_length_of_failed : report.Failed → report.logs.length = report.iterates.length + 3

/-- The traces of a primal-dual run. -/
structure PrimalDualTraces (options : PrimalDual.Options Float) (report : Report)
    (errors : List Float) (phases : List Int) : Prop where
  errors_length : errors.length = report.iterates.length
  phases_length : phases.length =
    if options.ineq = true ∧ options.showBasis = true then report.iterates.length else 0
  iterates_length_le : report.iterates.length ≤ options.maxit + 1
  logs_length : report.logs.length = report.iterates.length + 2

/-- The traces of a central path. -/
structure CentralPathTraces (report : Report) (mu objectives : List Float) : Prop where
  mu_length : mu.length = report.iterates.length
  objectives_length : objectives.length = report.iterates.length
  logs_length : report.logs.length = report.iterates.length + 2

/-- The traces of the engine line up. -/
def Aligned (options : EngineOptions) (report : Report) : Prop :=
  match options with
  | .simplex _ => ∃ phaseLogs bases boundary,
      report.detail = some (.simplex phaseLogs bases boundary) ∧
        report.SimplexTraces phaseLogs bases
  | .ipm options => ∃ slacks duals mu, report.detail = some (.ipm slacks duals mu) ∧
      report.InteriorPointTraces options.maxit slacks duals mu
  | .pdhg options => ∃ errors phases, report.detail = some (.pdhg errors phases) ∧
      report.PrimalDualTraces options errors phases
  | .central _ => ∃ mu objectives skipped, report.detail = some (.central mu objectives skipped) ∧
      report.CentralPathTraces mu objectives

/-- The report of an engine that was started: its traces line up, and a failure comes after at least
one point and ends the log with its message. -/
structure Started (options : EngineOptions) (report : Report) : Prop where
  aligned : report.Aligned options
  recorded : report.Failed → report.iterates ≠ []
  ends : report.Failed → report.logs.getLast? = some report.message

/-- The report of a run that went through only has to have traces that line up. -/
theorem Started.of_passed {options : EngineOptions} {report : Report}
    (aligned : report.Aligned options) (passed : ¬ report.Failed) : report.Started options :=
  ⟨aligned, fun failed => absurd failed passed, fun failed => absurd failed passed⟩

theorem failed_failed (report : Report) (cause : Failure Float) : (report.failed cause).Failed := by
  constructor
  · exact Failure.Kind.status_ne_converged cause.kind
  · change cause.kind.status ≠ .maxIterations
    cases cause.kind <;> decide

theorem getLast?_logs_failed (report : Report) (cause : Failure Float) :
    (report.failed cause).logs.getLast? = some (report.failed cause).message := by
  unfold failed
  dsimp only
  split
  · assumption
  · exact List.getLast?_concat

theorem bare_failed (engine : Engine) (cause : Failure Float) :
    ((empty engine).failed cause).Bare :=
  ⟨failed_failed _ cause, rfl, rfl, rfl⟩

end Report

/-! ## The simplex method -/

namespace Simplex

variable {m n : Nat}

/-- A run has as many points as bases, or one less when the second phase repeats a point. -/
theorem Run.length_bases (run : Run Float m n) :
    run.bases.length = run.points.length ∨ run.bases.length = run.points.length + 1 := by
  unfold bases points firstPoints
  dsimp only
  split
  · rename_i second_eq
    have lengths := congrArg List.length second_eq
    rw [List.length_map, List.length_cons] at lengths
    split
    · right
      simp only [List.length_append, List.length_map, lengths]
      omega
    · left
      simp only [List.length_append, List.length_map, lengths]
  · left
    simp only [List.length_append, List.length_map]

theorem Run.lines_firstNotes_of_failed {run : Run Float m n} {cause : Failure Float}
    (failed : run.first.outcome = .error cause) :
    Note.lines run.firstNotes = run.first.lines ++ [cause.message] := by
  unfold firstNotes
  rw [failed, Note.lines_append, Note.lines_map_line]
  rfl

/-- The warnings of the hand-over are not lines. -/
theorem Run.lines_firstNotes_of_handed (run : Run Float m n)
    {final : Final Float (n + n + m + m)} (ended : run.first.outcome = .ok final)
    {between : Handover Float (n + n + m)} (handed : run.between = some between) :
    ∃ closing, Note.lines run.firstNotes = run.first.lines ++ [closing] ∧
      ∀ cause, between.outcome = .error cause → closing = cause.message := by
  unfold firstNotes
  rw [ended, handed]
  dsimp only
  rw [Note.lines_append, Note.lines_append, Note.lines_map_line, Note.lines_map_warning]
  cases between.outcome with
  | error cause => exact ⟨cause.message, rfl, fun _ same => by cases same; rfl⟩
  | ok basis => exact ⟨finishedLine 1 basis.text, rfl, nofun⟩

theorem Run.lines_secondNotes (run : Run Float m n) {phase : Phase Float (n + n + m) n}
    (began : run.second = some phase) :
    ∃ closing, Note.lines run.secondNotes = phase.lines ++ [closing] ∧
      ∀ cause, phase.outcome = .error cause → closing = cause.message := by
  unfold secondNotes
  rw [began]
  dsimp only
  rw [Note.lines_append, Note.lines_map_line]
  cases phase.outcome with
  | error cause => exact ⟨cause.message, rfl, fun _ same => by cases same; rfl⟩
  | ok final => exact ⟨finishedLine 2 final.basis.text, rfl, nofun⟩

theorem Run.lines_secondNotes_of_none {run : Run Float m n} (ended : run.second = none) :
    Note.lines run.secondNotes = [] := by
  rw [secondNotes, ended]
  rfl

/-- The lines of a run: those of each phase that was begun with one more line behind them, which for
a run that fails is the message of the failure. -/
inductive Run.Logged (run : Run Float m n) : Prop
  | once {cause : Failure Float} (failed : run.outcome = .error cause) (ended : run.second = none)
      (first : Note.lines run.firstNotes = run.first.lines ++ [cause.message])
  | twice {phase : Phase Float (n + n + m) n} {closing closing' : String}
      (began : run.second = some phase)
      (first : Note.lines run.firstNotes = run.first.lines ++ [closing])
      (second : Note.lines run.secondNotes = phase.lines ++ [closing'])
      (message : ∀ cause, run.outcome = .error cause → closing' = cause.message)

theorem logged_solve (options : Options Float) (cap : Int) (problem : Problem Float m n) :
    (solve options cap problem).Logged := by
  obtain ⟨first, first_eq, ⟨cause, failed, run_eq⟩ | ⟨final, ended,
    ⟨changes, cause, handed, run_eq⟩ | ⟨changes, start, second, handed, second_eq, run_eq⟩⟩⟩ :=
      solve_cases options cap problem
  all_goals rw [run_eq]
  · exact .once rfl rfl (Run.lines_firstNotes_of_failed failed)
  · obtain ⟨closing, lines, message⟩ := Run.lines_firstNotes_of_handed
      ⟨first, some ⟨changes, .error cause⟩, none, .error cause⟩ ended rfl
    rw [message cause rfl] at lines
    exact .once rfl rfl lines
  · obtain ⟨closing, lines, -⟩ := Run.lines_firstNotes_of_handed
      ⟨first, some ⟨changes, .ok start⟩, some second, second.outcome⟩ ended rfl
    obtain ⟨closing', lines', message⟩ := Run.lines_secondNotes
      ⟨first, some ⟨changes, .ok start⟩, some second, second.outcome⟩ rfl
    exact .twice rfl lines lines' message

theorem Phase.length_lines {p q : Nat} (phase : Phase Float p q) :
    phase.lines.length = phase.vertices.length + 1 := by
  rw [lines, List.length_cons, List.length_mapIdx]

/-- The logs of the phases that were begun, and the lines in them. -/
theorem Run.Logged.length_flatten {run : Run Float m n} (logged : run.Logged) :
    [Note.lines run.firstNotes, Note.lines run.secondNotes].flatten.length =
      run.bases.length + 2 *
        ([Note.lines run.firstNotes, Note.lines run.secondNotes].filter
          fun lines => !lines.isEmpty).length := by
  cases logged with
  | once failed ended first =>
      simp [first, Run.lines_secondNotes_of_none ended, Run.bases, Run.secondVertices, ended,
        Phase.length_lines]
  | twice began first second message =>
      simp [first, second, Run.bases, Run.secondVertices, began, Phase.length_lines]
      omega

/-- The traces of a run in a report with its points and its lines. -/
theorem Run.Logged.traces {run : Run Float m n} (logged : run.Logged) {report : Report}
    (iterates : report.iterates = run.points.map Vector.toList)
    (logs : report.logs = [Note.lines run.firstNotes, Note.lines run.secondNotes].flatten) :
    report.SimplexTraces
      ([Note.lines run.firstNotes, Note.lines run.secondNotes].filter fun lines => !lines.isEmpty)
      run.bases where
  bases_length := by
    rw [iterates, List.length_map]
    exact run.length_bases
  logs_eq := by
    rw [logs, List.flatten_filter_not_isEmpty]
  logs_length := by
    rw [logs]
    exact logged.length_flatten

/-- The last line of a run that fails is the message of the failure. -/
theorem Run.Logged.getLast?_flatten {run : Run Float m n} (logged : run.Logged)
    {cause : Failure Float} (failed : run.outcome = .error cause) :
    [Note.lines run.firstNotes, Note.lines run.secondNotes].flatten.getLast? =
      some cause.message := by
  cases logged with
  | once failed' ended first =>
      rw [failed] at failed'
      cases failed'
      simp [first, Run.lines_secondNotes_of_none ended]
  | twice began first second message =>
      rw [first, second, message cause failed, List.flatten_cons, List.flatten_cons,
        List.flatten_nil, List.append_nil, ← List.append_assoc, List.getLast?_concat]

/-- A run that has visited a basis has a point. -/
theorem Run.points_ne_nil (run : Run Float m n) {basis : Basis (n + n + m + m)}
    (head : (run.first.vertices.map Vertex.basis).head? = some basis) : run.points ≠ [] := by
  cases visited : run.first.vertices with
  | nil =>
      rw [visited] at head
      cases head
  | cons vertex rest =>
      unfold points firstPoints
      rw [visited]
      dsimp only
      split
      · split <;> nofun
      · nofun

/-- The report of a call on a problem with a row. -/
theorem started_session (rows : 0 < m) {cap : Int} (positive : 0 < cap) (options : Options Float)
    (elapsed : Float) (problem : Problem Float m n) :
    ((session options cap elapsed problem).answer .simplex).report.Started
      (.simplex options) := by
  have logged := logged_solve options cap problem
  have head := head?_first_bases rows positive options problem
  unfold session
  dsimp only
  generalize solve options cap problem = run at logged head ⊢
  unfold Run.result Session.answer
  cases outcome_eq : run.outcome with
  | ok final =>
      apply Report.Started.of_passed
      · exact ⟨_, _, _, rfl, logged.traces rfl rfl⟩
      · exact fun failed => failed.1 rfl
  | error cause =>
      have last := logged.getLast?_flatten outcome_eq
      constructor
      · exact ⟨_, _, _, rfl, logged.traces rfl (if_pos last)⟩
      · intro _ none
        exact run.points_ne_nil head (List.map_eq_nil_iff.mp none)
      · exact fun _ => Report.getLast?_logs_failed _ cause

end Simplex

/-! ## The interior point method -/

namespace InteriorPoint

variable {m n : Nat}

theorem Run.length_notes (run : Run Float m n) (elapsed : Readout) :
    (Note.lines (run.notes elapsed)).length = run.iterates.length + 2 := by
  unfold notes
  rw [Note.lines_append, Note.lines_map_line, List.length_append, List.length_cons,
    List.length_mapIdx]
  split <;> rfl

/-- The last line of an aborted run says where it was aborted, and is not the message. -/
theorem Run.getLast?_notes_ne {run : Run Float m n} {iteration : Nat} {cause : Failure Float}
    (aborted : run.ending = .aborted iteration cause) (elapsed : Readout) :
    (Note.lines (run.notes elapsed)).getLast? ≠ some cause.message := by
  unfold notes
  rw [aborted]
  dsimp only
  rw [Note.lines_append, Note.lines_map_line]
  change (_ ++ [_]).getLast? ≠ _
  rw [List.getLast?_concat, Ne, Option.some_inj]
  intro equal
  have lengths := congrArg String.length equal
  have positive : 0 < "Aborted at iteration ".length := by decide
  simp only [String.length_append] at lengths
  omega

/-- The traces of a run in a report with its points, whose log has been closed by one line more if
the run has failed. -/
theorem Run.traces {run : Run Float m n} {maxit : Nat} (bound : run.iterates.length ≤ maxit + 1)
    {report : Report}
    (iterates : report.iterates = run.iterates.map fun iterate => iterate.x.toList)
    (logs : ¬ report.Failed → report.logs.length = run.iterates.length + 2)
    (logs_of_failed : report.Failed → report.logs.length = run.iterates.length + 3) :
    report.InteriorPointTraces maxit (run.iterates.map fun iterate => iterate.s.toList)
      (run.iterates.map fun iterate => iterate.y.toList)
      (run.iterates.map fun iterate => iterate.mu) := by
  have length_eq : report.iterates.length = run.iterates.length := by
    rw [iterates, List.length_map]
  constructor
  · rw [List.length_map, length_eq]
  · rw [List.length_map, length_eq]
  · rw [List.length_map, length_eq]
  · rw [length_eq]
    exact bound
  · rw [length_eq]
    exact logs
  · rw [length_eq]
    exact logs_of_failed

theorem Run.started_report {run : Run Float m n} {options : Options Float}
    (bound : run.iterates.length ≤ options.maxit + 1) (elapsed : Float)
    (passed : ¬ (run.report elapsed).Failed) :
    (run.report elapsed).Started (.ipm options) := by
  refine .of_passed ⟨_, _, _, rfl, traces bound rfl (fun _ => run.length_notes _) ?_⟩ passed
  exact fun failed => absurd failed passed

theorem Run.started_aborted {run : Run Float m n} {options : Options Float}
    (bound : run.iterates.length ≤ options.maxit + 1) (nonempty : 0 < run.iterates.length)
    {iteration : Nat} {cause : Failure Float} (aborted : run.ending = .aborted iteration cause)
    (elapsed : Float) : ((run.report elapsed).failed cause).Started (.ipm options) where
  aligned := by
    have logs : ((run.report elapsed).failed cause).logs.length = run.iterates.length + 3 := by
      have last : (run.report elapsed).logs.getLast? ≠ some cause.message :=
        getLast?_notes_ne aborted _
      unfold Report.failed
      dsimp only
      rw [if_neg last, List.length_append]
      exact congrArg Nat.succ (run.length_notes _)
    refine ⟨_, _, _, rfl, traces bound rfl ?_ fun _ => logs⟩
    exact fun passed => absurd (Report.failed_failed _ cause) passed
  recorded := by
    intro _ none
    rw [List.map_eq_nil_iff.mp none] at nonempty
    exact absurd nonempty (Nat.lt_irrefl 0)
  ends := fun _ => Report.getLast?_logs_failed _ cause

/-- The report of a call that returns. -/
theorem started_session {elapsed : Float} {options : Options Float} {problem : Problem Float m n}
    {called : Session} (returned : session options elapsed problem = .ok called) :
    (called.answer .ipm).report.Started (.ipm options) := by
  unfold session at returned
  obtain ⟨run, solved, rfl⟩ := eq_ok_of_map returned
  obtain ⟨nonempty, bound⟩ := length_iterates_of_loop solved
  rw [Array.size_empty, Nat.zero_add] at bound
  unfold Session.answer
  cases ending : run.ending with
  | aborted iteration cause => exact Run.started_aborted bound nonempty ending elapsed
  | converged =>
      apply Run.started_report bound
      rintro ⟨unsolved, -⟩
      apply unsolved
      change run.status = _
      rw [Run.status, ending]
  | exhausted =>
      apply Run.started_report bound
      rintro ⟨-, unfinished⟩
      apply unfinished
      change run.status = _
      rw [Run.status, ending]

end InteriorPoint

/-! ## The primal-dual method -/

namespace PrimalDual

variable {m n p q : Nat}

theorem Run.length_notes (run : Run Float m p q) (basis : Bool) (elapsed : Readout) :
    (Note.lines (run.notes basis elapsed)).length = run.iterates.length + 2 := by
  unfold notes
  rw [Note.lines_map_line, List.length_append, List.length_cons, List.length_mapIdx]
  rfl

/-- A run is reported as converged or as out of steps, and never as a failure. -/
theorem Run.not_failed_report (run : Run Float m p q) (basis : Bool) (elapsed : Float) :
    ¬ (run.report basis elapsed).Failed := by
  rintro ⟨unsolved, unfinished⟩
  change run.status ≠ _ at unsolved
  change run.status ≠ _ at unfinished
  unfold status at unsolved unfinished
  cases ending : run.ending with
  | converged =>
      rw [ending] at unsolved
      exact unsolved rfl
  | diverged | exhausted =>
      rw [ending] at unfinished
      exact unfinished rfl

theorem showsBasis_eq (options : Options Float) :
    showsBasis options.form options = true ↔ options.ineq = true ∧ options.showBasis = true := by
  unfold showsBasis Options.form
  cases options.ineq <;> simp

theorem Run.traces {run : Run Float m p q} {options : Options Float}
    (bound : run.iterates.length ≤ options.maxit + 1) (elapsed : Float) :
    (run.report (showsBasis options.form options) elapsed).PrimalDualTraces options
      (run.iterates.map fun iterate => iterate.error)
      (if showsBasis options.form options then
        run.iterates.map fun iterate => (phaseColour (activeRows iterate.y) : Int) else []) := by
  have length_eq : (run.report (showsBasis options.form options) elapsed).iterates.length =
      run.iterates.length := List.length_map _
  constructor
  · rw [List.length_map, length_eq]
  · rw [length_eq]
    by_cases shown : showsBasis options.form options = true
    · rw [if_pos shown, if_pos ((showsBasis_eq options).mp shown), List.length_map]
    · rw [if_neg shown, if_neg (mt (showsBasis_eq options).mpr shown)]
      rfl
  · rw [length_eq]
    exact bound
  · rw [length_eq]
    exact run.length_notes _ _

/-- The report of a call that returns. -/
theorem started_session {elapsed : Float} {options : Options Float} {problem : Problem Float m n}
    {called : Session} (returned : session options elapsed problem = .ok called) :
    (called.answer .pdhg).report.Started (.pdhg options) := by
  unfold session at returned
  obtain ⟨run, solved, rfl⟩ := eq_ok_of_map returned
  have bound := length_iterates_of_loop solved
  rw [List.size_toArray, List.length_nil, Nat.zero_add] at bound
  exact .of_passed ⟨_, _, rfl, Run.traces bound elapsed⟩ (run.not_failed_report _ elapsed)

end PrimalDual

/-! ## The central path -/

namespace CentralPath

variable {m n : Nat}

/-- A level that is kept leaves a point, a value of the barrier and a line, and a level that is
skipped leaves none of them. -/
theorem length_levels (count : Nat) (levels : List (Level Float n)) :
    (levels.filterMap Level.keptMu?).length = (levels.filterMap Level.point?).length ∧
      (levels.filterMap Level.barrier?).length = (levels.filterMap Level.point?).length ∧
      (Note.lines (levelNotes count levels)).length =
        (levels.filterMap Level.point?).length := by
  induction levels generalizing count with
  | nil => exact ⟨rfl, rfl, rfl⟩
  | cons level rest inductionHypothesis =>
      cases level with
      | kept mu x value objective =>
          obtain ⟨mus, values, lines⟩ := inductionHypothesis (count + 1)
          exact ⟨congrArg Nat.succ mus, congrArg Nat.succ values, congrArg Nat.succ lines⟩
      | skipped mu reason => exact inductionHypothesis count

theorem Path.length_notes (path : Path Float n) (elapsed : Readout) :
    (Note.lines (path.notes elapsed)).length = path.points.length + 2 := by
  obtain ⟨-, -, lines⟩ := length_levels 0 path.levels
  unfold notes
  rw [Note.lines_append, List.length_append]
  change (Note.lines (levelNotes 0 path.levels)).length + 1 + 1 = _
  rw [lines]
  rfl

theorem Path.started_report (path : Path Float n) (options : Options Float) (elapsed : Float) :
    (path.report elapsed).Started (.central options) := by
  obtain ⟨mus, values, -⟩ := length_levels 0 path.levels
  have length_eq : (path.report elapsed).iterates.length = path.points.length :=
    List.length_map _
  apply Report.Started.of_passed
  · refine ⟨_, _, _, rfl, ?_⟩
    constructor
    · rw [length_eq]
      exact mus
    · rw [length_eq, List.length_map]
      exact values
    · rw [length_eq]
      exact path.length_notes _
  · rintro ⟨unsolved, unfinished⟩
    unfold report at unsolved unfinished
    dsimp only at unsolved unfinished
    split at unsolved
    · exact unsolved rfl
    · exact unfinished (if_neg ‹_›)

theorem started_idle (options : Options Float) (elapsed : Float) {lines : List String}
    (two : lines.length = 2) :
    ((idleSession options elapsed lines).answer .central).report.Started (.central options) := by
  apply Report.Started.of_passed
  · exact ⟨[], [], [], rfl, rfl, rfl, two⟩
  · exact fun failed => failed.1 rfl

/-- The weights fit the rows and, unless nothing is left to do, there is a point to start from. -/
def Starts (options : Options Float) (problem : Problem Float m n)
    (vertices : Option (Except Fault (Tensor Float))) : Prop :=
  ∃ w, weightVector m options.weights = .ok w ∧
    ((keptRows w).length = 0 ∨ options.niter = 0 ∨
      ∃ start, startPoint (Weighted.reduced ⟨problem, w⟩).toProblem vertices = .ok start)

theorem weightedSession_cases {options : Options Float} {elapsed : Float}
    {problem : Weighted Float m n} {vertices : Option (Except Fault (Tensor Float))}
    {called : Session} (returned : weightedSession options elapsed problem vertices = .ok called) :
    ((m = 0 ∨ options.niter = 0 ∨ ∃ start, startPoint problem.toProblem vertices = .ok start) ∧
        (called.answer .central).report.Started (.central options)) ∨
      ¬ (m = 0 ∨ options.niter = 0 ∨ ∃ start, startPoint problem.toProblem vertices = .ok start) ∧
        (called.answer .central).report.Bare := by
  unfold weightedSession at returned
  split at returned
  · rename_i noRows
    cases returned
    exact .inl ⟨.inl noRows, started_idle options elapsed rfl⟩
  · rename_i rows
    split at returned
    · rename_i noLevels
      cases returned
      exact .inl ⟨.inr (.inl noLevels), started_idle options elapsed rfl⟩
    · rename_i levels
      rcases Session.proceed_eq_ok returned with ⟨start, found, returned⟩ | ⟨cause, missing, rfl⟩
      · obtain ⟨path, -, rfl⟩ := eq_ok_of_map returned
        exact .inl ⟨.inr (.inr ⟨start, found⟩), path.started_report options elapsed⟩
      · refine .inr ⟨?_, Report.bare_failed .central cause⟩
        rintro (noRows | noLevels | ⟨start, found⟩)
        · exact rows noRows
        · exact levels noLevels
        · rw [missing] at found
          cases found

/-- A call that returns has been started or leaves nothing but its message. -/
theorem session_cases {options : Options Float} {elapsed : Float} {problem : Problem Float m n}
    {vertices : Option (Except Fault (Tensor Float))} {called : Session}
    (returned : session options elapsed problem vertices = .ok called) :
    (Starts options problem vertices ∧
        (called.answer .central).report.Started (.central options)) ∨
      ¬ Starts options problem vertices ∧ (called.answer .central).report.Bare := by
  unfold session at returned
  split at returned
  · rename_i cause unfit
    cases returned
    refine .inr ⟨?_, Report.bare_failed .central _⟩
    rintro ⟨w, fit, -⟩
    rw [unfit] at fit
    cases fit
  · rename_i w fit
    rcases weightedSession_cases returned with ⟨starts, started⟩ | ⟨stays, bare⟩
    · exact .inl ⟨⟨w, fit, starts⟩, started⟩
    · refine .inr ⟨?_, bare⟩
      rintro ⟨w', fit', starts⟩
      rw [fit] at fit'
      cases fit'
      exact stays starts

end CentralPath

/-! ## Requests -/

/-- An engine is started with its settings and a problem; the central path needs something to start
from. -/
def EngineOptions.Starts (options : EngineOptions) {m n : Nat} (problem : Problem Float m n)
    (vertices : Option (Except Fault (Tensor Float))) : Prop :=
  match options with
  | .central options => CentralPath.Starts options problem vertices
  | _ => True

theorem EngineOptions.session_cases {options : EngineOptions} {around : Surroundings} {m n : Nat}
    (rows : 0 < m) (positive : 0 < around.cap) {problem : Problem Float m n} {called : Session}
    (returned : options.session around problem = .ok called) :
    (options.Starts problem around.vertices ∧
        (called.answer options.engine).report.Started options) ∨
      ¬ options.Starts problem around.vertices ∧ (called.answer options.engine).report.Bare := by
  cases options with
  | simplex options =>
      cases returned
      exact .inl ⟨trivial, Simplex.started_session rows positive options around.elapsed problem⟩
  | ipm options => exact .inl ⟨trivial, InteriorPoint.started_session returned⟩
  | pdhg options => exact .inl ⟨trivial, PrimalDual.started_session returned⟩
  | central options => exact CentralPath.session_cases returned

namespace SolveRequest

/-- The vertices that the engine is given. -/
def givenVertices (request : SolveRequest) : Option (Except Fault (Tensor Float)) :=
  if request.solver = .central then request.vertices.map Tensor.ofRows else none

/-- The request starts its engine: its settings and its problem can be read, and there is something
to start from. -/
def Starts (request : SolveRequest) : Prop :=
  ∃ options sized, EngineOptions.resolve request.solver (.object request.options) = .ok options ∧
    SizedProblem.ofRows request.lines request.objective = .ok sized ∧
      options.Starts sized.problem request.givenVertices

/-- An answer is the report of an engine that was started, or has nothing but a message. -/
theorem solve_cases {request : SolveRequest} {cap : Int} (positive : 0 < cap) {elapsed : Float}
    {answer : Answer} (solved : request.solve cap elapsed = .ok answer) :
    (request.Starts ∧ ∃ options,
        EngineOptions.resolve request.solver (.object request.options) = .ok options ∧
          answer.report.Started options) ∨
      ¬ request.Starts ∧ answer.report.Bare := by
  obtain ⟨called, returned, rfl⟩ := eq_ok_of_map solved
  unfold Engine.call at returned
  split at returned
  · rename_i cause refused
    cases returned
    refine .inr ⟨?_, Report.bare_failed _ cause⟩
    rintro ⟨options, _, resolved, -⟩
    rw [refused] at resolved
    cases resolved
  · rename_i options resolved
    rcases Session.proceed_eq_ok returned with ⟨loaded, read, returned⟩ | ⟨cause, unread, rfl⟩
    · obtain ⟨sized, rfl, found⟩ := LoadedProblem.ofRows_eq_ok read
      obtain ⟨rows, -, -⟩ := SizedProblem.ofRows_eq_ok found
      have named := EngineOptions.engine_of_resolve resolved
      have cases := EngineOptions.session_cases rows positive returned
      rw [named] at cases
      rcases cases with ⟨starts, started⟩ | ⟨stays, bare⟩
      · exact .inl ⟨⟨options, sized, resolved, found, starts⟩, options, resolved, started⟩
      · refine .inr ⟨?_, bare⟩
        rintro ⟨options', sized', resolved', found', starts⟩
        rw [resolved] at resolved'
        rw [found] at found'
        cases resolved'
        cases found'
        exact stays starts
    · refine .inr ⟨?_, Report.bare_failed _ cause⟩
      rintro ⟨_, sized, -, found, -⟩
      unfold LoadedProblem.ofRows at unread
      rw [found] at unread
      cases unread

/-- Whatever the numbers are, the traces of an answer line up.  If the engine was not started there
is nothing but the message of the failure, which also ends the log of a failure after the start. -/
theorem solve_traces {request : SolveRequest} {cap : Int} (positive : 0 < cap) {elapsed : Float}
    {answer : Answer} (solved : request.solve cap elapsed = .ok answer) :
    (request.Starts → ∃ options,
        EngineOptions.resolve request.solver (.object request.options) = .ok options ∧
          answer.report.Aligned options) ∧
      (¬ request.Starts → answer.report.Bare) ∧
      (answer.report.Failed → answer.report.logs.getLast? = some answer.report.message) ∧
      (answer.report.Failed → answer.report.iterates = [] → answer.report.Bare) := by
  rcases solve_cases positive solved with ⟨starts, options, resolved, started⟩ | ⟨stays, bare⟩
  · refine ⟨fun _ => ⟨options, resolved, started.aligned⟩, fun stays => absurd starts stays,
      started.ends, ?_⟩
    exact fun failed none => absurd none (started.recorded failed)
  · refine ⟨fun starts => absurd starts stays, fun _ => bare, fun _ => ?_, fun _ _ => bare⟩
    rw [bare.logs, List.getLast?_singleton]

/-- The half line up to two, with two of its points to start a central path from. -/
def halfLine (engine : Engine) : SolveRequest where
  solver := engine
  lines := [[1, 2]]
  objective := [1]
  vertices := some [[0], [1]]

theorem halfLine_answers (engine : Engine) :
    ∃ answer, (halfLine engine).solve Simplex.vertexLimit 0 = .ok answer := by
  have finite : ∀ line ∈ (halfLine engine).lines, ∀ a ∈ line, a.isFinite = true := by
    change ∀ line ∈ ([[1, 2]] : List (List Float)), ∀ a ∈ line, a.isFinite = true
    decide
  cases answered : (halfLine engine).solve Simplex.vertexLimit 0 with
  | ok answer => exact ⟨answer, rfl⟩
  | error cause =>
      rcases solve_eq_error finite answered with
        ⟨rfl, -⟩ | ⟨rfl, ⟨rows, given, unfilled⟩ | ⟨absent, -⟩⟩
      · have passed : ((halfLine .ipm).solve Simplex.vertexLimit 0).isOk = true := by
          decide +kernel
        rw [answered] at passed
        cases passed
      · cases given
        cases unfilled
      · cases absent

theorem halfLine_starts (engine : Engine) : (halfLine engine).Starts := by
  cases engine with
  | simplex | ipm | pdhg => exact ⟨_, _, rfl, rfl, trivial⟩
  | central => exact ⟨_, _, rfl, rfl, _, rfl, .inr (.inr ⟨_, rfl⟩)⟩

/-- The half line without its objective. -/
def aimless (engine : Engine) : SolveRequest :=
  { halfLine engine with objective := [] }

/-- The half line without its variable, where the interior point method cannot take a step. -/
def wholeLine : SolveRequest :=
  { halfLine .ipm with lines := [[0, 2]] }

theorem wholeLine_answers : ∃ answer,
    wholeLine.solve Simplex.vertexLimit 0 = .ok answer ∧
      answer.report.status = .singular ∧ answer.report.iterates.length = 1 := by
  have answered : (wholeLine.solve Simplex.vertexLimit 0).map (fun answer =>
      (answer.report.status, answer.report.iterates.length)) = .ok (.singular, 1) := by
    decide +kernel
  obtain ⟨answer, solved, reached⟩ := eq_ok_of_map answered
  exact ⟨answer, solved, Prod.mk.inj reached⟩

/-- The half line starts every engine, whose traces line up.  Without the objective none is started,
and without the variable the interior point method fails at the first point. -/
theorem halfLine_traces :
    (∀ engine, ∃ answer options,
      (halfLine engine).solve Simplex.vertexLimit 0 = .ok answer ∧
        EngineOptions.resolve engine (.object []) = .ok options ∧ options.engine = engine ∧
        answer.report.Aligned options) ∧
      (∀ engine, ∃ answer,
        (aimless engine).solve Simplex.vertexLimit 0 = .ok answer ∧ answer.report.Bare) ∧
      ∃ answer, wholeLine.solve Simplex.vertexLimit 0 = .ok answer ∧
        answer.report.iterates.length = 1 ∧
        answer.report.logs.getLast? = some answer.report.message := by
  have positive : 0 < Simplex.vertexLimit := by decide
  refine ⟨fun engine => ?_, fun engine => ?_, ?_⟩
  · obtain ⟨answer, solved⟩ := halfLine_answers engine
    obtain ⟨options, resolved, aligned⟩ :=
      (solve_traces positive solved).1 (halfLine_starts engine)
    exact ⟨answer, options, solved, resolved, EngineOptions.engine_of_resolve resolved, aligned⟩
  · have unread : ¬ (aimless engine).Starts := by
      rintro ⟨_, _, -, read, -⟩
      cases read
    obtain ⟨answer, solved⟩ :
        ∃ answer, (aimless engine).solve Simplex.vertexLimit 0 = .ok answer := by
      cases engine <;> exact ⟨_, rfl⟩
    exact ⟨answer, solved, (solve_traces positive solved).2.1 unread⟩
  · obtain ⟨answer, solved, singular, one⟩ := wholeLine_answers
    have failed : answer.report.Failed := by
      unfold Report.Failed
      rw [singular]
      decide
    exact ⟨answer, solved, one, (solve_traces positive solved).2.2.1 failed⟩

end SolveRequest

end PolyTrace
