import Mathlib
import PolyTrace.Proofs.Service.Runs
import PolyTrace.Proofs.Service.Traces
import PolyTrace.Service.Steps.PrimalDual

/-!
# The two forms of the primal-dual method on arrays from outside

A call of either form reads its settings and three arrays of shapes that fit.  Whatever the numbers
are and become, the steps, the errors and the lines of the log have values, and the call ends with
the report of a run that has converged or used up its steps.

The arrays may have no rows.  The largest violation of a row is zero then in the standard form; the
inequality form has no value for it, and the call fails as soon as a state is recorded.
-/

namespace PolyTrace

/-! ## Rows that fit their table -/

namespace Column

/-- The column can show the cell. -/
def Shows (column : Column) (cell : Cell) : Prop :=
  ∃ text, column.show? cell = .ok text

theorem shows_whole (title : String) (width : Nat) (value : Int) :
    Shows ⟨title, width, .whole⟩ (.whole value) :=
  ⟨_, rfl⟩

/-- A numeral shows every number; one without a finite value is shown as a word. -/
theorem shows_number (title : String) (width : Nat) (form : Numeral) (value : Readout) :
    Shows ⟨title, width, .numeral form⟩ (.number value) := by
  unfold Shows show? content
  dsimp only
  split <;> exact ⟨_, rfl⟩

theorem shows_text (column : Column) (text : String) : column.Shows (.text text) :=
  ⟨_, rfl⟩

end Column

namespace Table

theorem exists_texts {table : Table} {cells : List Cell}
    (fits : List.Forall₂ Column.Shows table cells) :
    ∃ texts, ((table.zip cells).mapM fun entry => Column.show? entry.1 entry.2) = .ok texts := by
  induction fits with
  | nil => exact ⟨[], rfl⟩
  | cons first _ inductionHypothesis =>
      obtain ⟨text, shown⟩ := first
      obtain ⟨texts, rest⟩ := inductionHypothesis
      rw [List.zip_cons_cons, List.mapM_cons, shown, rest]
      exact ⟨text :: texts, rfl⟩

/-- A row with as many cells as there are columns, each of which is shown by its column. -/
theorem row?_eq_ok {table : Table} {cells : List Cell}
    (fits : List.Forall₂ Column.Shows table cells) : table.row? cells = .ok (table.row cells) := by
  obtain ⟨texts, shown⟩ := exists_texts fits
  unfold row row?
  rw [if_pos fits.length_eq.symm, shown]
  rfl

end Table

namespace PrimalDual

variable {m p q : Nat}

theorem exists_row?_eq_iterateLine (basis : Bool) (index : Nat) (iterate : Iterate Float m p q) :
    ∃ cells, (table m basis).row? cells = .ok (iterateLine basis index iterate) := by
  refine ⟨_, Table.row?_eq_ok ?_⟩
  have numbers : List.Forall₂ Column.Shows (table m false)
      [.whole (index + 1), .ofNumber iterate.point.leading.1, .ofNumber iterate.point.leading.2,
        .ofNumber (-iterate.objective), .ofNumber iterate.violation, .ofNumber iterate.error] := by
    refine .cons (Column.shows_whole _ _ _) ?_
    exact .cons (Column.shows_number _ _ _ _) <| .cons (Column.shows_number _ _ _ _) <|
      .cons (Column.shows_number _ _ _ _) <| .cons (Column.shows_number _ _ _ _) <|
      .cons (Column.shows_number _ _ _ _) .nil
  cases basis with
  | false => exact numbers
  | true => exact List.rel_append numbers (.cons (Column.shows_text _ _) .nil)

/-- The report of a run of a form on a program of `rows` rows that came to its end: it has converged
or used up its steps, and its log holds the titles of the table, a row of it for every point, and the
message. -/
structure Settled (form : Form) (options : Options Float) (rows : Nat) (report : Report) : Prop where
  status : report.status = .converged ∨ report.status = .maxIterations
  logs : ∃ lines : List String,
    report.logs =
        (table rows (showsBasis form options)).header :: lines ++ [report.message] ∧
      lines.length = report.iterates.length ∧
      ∀ line ∈ lines, ∃ cells, (table rows (showsBasis form options)).row? cells = .ok line

/-- The call returns such a report. -/
def Ends (form : Form) (options : Options Float) (rows : Nat) (call : Except Fault Session) : Prop :=
  ∃ called report, call = .ok called ∧ called.outcome = .finished report ∧
    Settled form options rows report

theorem Run.settled_report (run : Run Float m p q) (form : Form) (options : Options Float)
    (elapsed : Float) : Settled form options m (run.report (showsBasis form options) elapsed) := by
  constructor
  · change run.status = _ ∨ run.status = _
    unfold status
    cases run.ending with
    | converged => exact .inl rfl
    | diverged | exhausted => exact .inr rfl
  · refine ⟨run.iterates.mapIdx (iterateLine (showsBasis form options)), ?_, ?_, ?_⟩
    · exact Note.lines_map_line _
    · exact (List.length_mapIdx).trans (List.length_map _).symm
    · intro line listed
      obtain ⟨index, _, rfl⟩ := List.mem_mapIdx.mp listed
      exact exists_row?_eq_iterateLine _ _ _

theorem programSession_ends (form : Form) (options : Options Float) (elapsed : Float)
    (program : Program Float m p) (view : Vec Float p → Vec Float q) :
    Ends form options m (programSession form options elapsed program view) ∨
      form = .inequality ∧ m = 0 ∧
        programSession form options elapsed program view = .error .emptyExtremum := by
  unfold programSession
  cases ran : run form options program view with
  | ok run => exact .inl ⟨_, _, rfl, rfl, run.settled_report form options elapsed⟩
  | error cause =>
      obtain ⟨isInequality, noRows, rfl⟩ := loop_eq_error ran
      exact .inr ⟨isInequality, noRows, rfl⟩

/-- The standard form has a result for any number of rows. -/
theorem programSession_standard_ends (options : Options Float) (elapsed : Float)
    (program : Program Float m p) (view : Vec Float p → Vec Float q) :
    Ends .standard options m (programSession .standard options elapsed program view) := by
  rcases programSession_ends .standard options elapsed program view with ends | ⟨impossible, -⟩
  · exact ends
  · cases impossible

theorem unshownSession_ends (options : Options Float) (elapsed : Float)
    (program : Program Float m p) (reason : Fault) :
    Ends .standard options m (unshownSession options elapsed program reason) ∨
      unshownSession options elapsed program reason = .error reason := by
  unfold unshownSession
  cases ran : run .standard options program (id : Vec Float p → Vec Float p) with
  | error cause =>
      obtain ⟨impossible, -⟩ := loop_eq_error ran
      cases impossible
  | ok run =>
      dsimp only
      split
      · exact .inl (programSession_standard_ends options elapsed program id)
      · exact .inr rfl

/-- The halves of a vector that is long enough for them are equally long. -/
theorem splitLength?_eq_some {n : Int} (nonneg : 0 ≤ n) (halves : 2 * n ≤ p) :
    splitLength? p n = some n.toNat := by
  have first : sliceIndex p n = n.toNat := by
    rw [sliceIndex, if_neg (by omega)]
    omega
  have second : sliceIndex p (2 * n) = 2 * n.toNat := by
    rw [sliceIndex, if_neg (by omega)]
    omega
  unfold splitLength?
  dsimp only
  rw [first, second, if_pos (by omega)]

theorem standardSession_ends (options : Options Float) (elapsed : Float)
    (program : Program Float m p) {n : Int} (halves : 2 * n ≤ p) :
    Ends .standard options m (standardSession options elapsed program (.ok (some n))) ∨
      n < 0 ∧ standardSession options elapsed program (.ok (some n)) = .error .shapes := by
  unfold standardSession
  dsimp only
  split
  · exact .inl (programSession_standard_ends options elapsed program _)
  · rename_i unequal
    rcases unshownSession_ends options elapsed program .shapes with ends | failed
    · exact .inl ends
    · refine .inr ⟨lt_of_not_ge fun nonneg => ?_, failed⟩
      rw [splitLength?_eq_some nonneg halves] at unequal
      cases unequal

/-- On arrays of shapes that fit, with valid settings and at most half of the variables to be shown,
both forms of the method end with a result, whatever the numbers are and become, with two exceptions.
The inequality form has no largest violation to record when there are no rows, and a negative number
of variables to be shown may name slices of different lengths. -/
theorem formSession_ends (form : Form) (settings A b c shown : Datum) (elapsed : Float)
    {options : Options Float} {matrix bounds costs : Tensor Float} {sized : SizedProgram Float}
    (valid : EngineOptions.resolve .pdhg settings = .ok (.pdhg options))
    (matrix_eq : A.tensor = .ok matrix) (bounds_eq : b.tensor = .ok bounds)
    (costs_eq : c.tensor = .ok costs) (fits : checkDimensions matrix bounds costs = .ok sized)
    (halves : form = .standard → shownAt shown = .ok none ∨
      ∃ n : Int, shownAt shown = .ok (some n) ∧ 2 * n ≤ sized.columns) :
    Ends form options sized.rows (formSession form settings A b c shown elapsed) ∨
      (form = .inequality ∧ sized.rows = 0 ∧
        formSession form settings A b c shown elapsed = .error .emptyExtremum) ∨
      form = .standard ∧ (∃ n < 0, shownAt shown = .ok (some n)) ∧
        formSession form settings A b c shown elapsed = .error .shapes := by
  unfold formSession
  rw [valid, matrix_eq, bounds_eq, costs_eq]
  dsimp only [bind, Except.bind]
  rw [fits]
  dsimp only
  cases form with
  | standard =>
      dsimp only
      rcases halves rfl with all | ⟨n, some_eq, halves⟩
      · rw [all]
        exact .inl (programSession_standard_ends options elapsed sized.program id)
      · rw [some_eq]
        rcases standardSession_ends options elapsed sized.program halves with
          ends | ⟨negative, failed⟩
        · exact .inl ends
        · exact .inr (.inr ⟨rfl, ⟨n, negative, rfl⟩, failed⟩)
  | inequality =>
      rcases programSession_ends .inequality options elapsed sized.program id with ends | failed
      · exact .inl ends
      · exact .inr (.inl failed)

/-- Without any rows, the standard form still ends with a result: here on two variables, shown as
their difference. -/
theorem noRows_standard_ends :
    Ends .standard Options.standard 0
      (formSession .standard .null (.zeros [0, 2]) (.list []) (.list [.number 1, .number 1])
        (.whole 1) 0) := by
  rcases formSession_ends .standard .null (.zeros [0, 2]) (.list [])
      (.list [.number 1, .number 1]) (.whole 1) 0 rfl rfl rfl rfl rfl
      (fun _ => .inr ⟨1, rfl, by decide⟩) with
    ends | ⟨impossible, -⟩ | ⟨-, ⟨n, negative, shown⟩, -⟩
  · exact ends
  · cases impossible
  · cases shown
    exact absurd negative (by decide)

/-- Without any rows, the inequality form fails on a single variable. -/
theorem noRows_inequality_fault :
    formSession .inequality .null (.zeros [0, 1]) (.list []) (.list [.number 1]) .null 0 =
      .error .emptyExtremum := by
  apply eq_error_of_map (f := fun _ => ())
  decide +kernel

end PrimalDual

end PolyTrace
