import Mathlib
import PolyTrace.Problem.Load
import PolyTrace.Proofs.Failure

/-!
# Reading rows

A problem that is read from rows of numbers has a row and a variable: there is no problem without
rows, and a row has a coefficient and a bound.  Each of its rows is one of those given.

Rows of numbers fill an array when they are equally long.
-/

namespace PolyTrace

/-! ## Problems from rows -/

section Rows

variable {K : Type} [Scalar K]

theorem Rows.length_eq_of_checkLengths {α : Type} {expected start : Nat} {rows : List (List α)}
    (checked : Rows.checkLengths expected start rows = .ok ()) :
    ∀ row ∈ rows, row.length = expected := by
  induction rows generalizing start with
  | nil => exact fun row member => absurd member List.not_mem_nil
  | cons first rest inductionHypothesis =>
      unfold Rows.checkLengths at checked
      split at checked
      · rename_i length_eq
        rw [List.forall_mem_cons]
        exact ⟨length_eq, inductionHypothesis checked⟩
      · cases checked

theorem Rows.width_eq_some {α : Type} {rows : List (List α)} {width : Nat}
    (found : Rows.width rows = .ok (some width)) :
    rows ≠ [] ∧ 2 ≤ width ∧ ∀ row ∈ rows, row.length = width := by
  unfold Rows.width at found
  cases rows with
  | nil => cases found
  | cons first rest =>
      dsimp only at found
      obtain ⟨_, checked, found⟩ := bind_eq_ok found
      split at found
      · cases found
      · rename_i enough
        cases found
        exact ⟨nofun, not_lt.mp enough, Rows.length_eq_of_checkLengths checked⟩

/-- The coefficients of a row that ends in a bound. -/
def Rows.coefficients (n : Nat) (line : List K) : Vec K n :=
  Vector.ofFn fun j => line.getD j.val 0

/-- A problem that is read from rows has a row and a variable, and its rows are among them. -/
theorem SizedProblem.ofRows_eq_ok {lines : List (List K)} {objective : List K}
    {sized : SizedProblem K} (loaded : SizedProblem.ofRows lines objective = .ok sized) :
    0 < sized.rows ∧ 0 < sized.unknowns ∧ ∀ i, ∃ line ∈ lines,
      line.length = sized.unknowns + 1 ∧
        sized.problem.A.get i = Rows.coefficients sized.unknowns line ∧
        sized.problem.b.get i = line.getD sized.unknowns 0 := by
  unfold SizedProblem.ofRows at loaded
  obtain ⟨found, measured, loaded⟩ := bind_eq_ok loaded
  cases found with
  | none => cases loaded
  | some width =>
      obtain ⟨nonempty, wide, lengths⟩ := Rows.width_eq_some measured
      have unknowns_eq : width - 1 + 1 = width := Nat.sub_add_cancel (by omega)
      dsimp only at loaded
      split at loaded
      · cases loaded
        refine ⟨List.length_pos_iff.mpr nonempty, Nat.sub_pos_of_lt wide, fun i => ?_⟩
        have member : lines[i.val] ∈ lines := List.getElem_mem i.isLt
        refine ⟨_, member, (lengths _ member).trans unknowns_eq.symm, ?_, ?_⟩
        · rw [Vec.get_ofFn, List.getD_eq_getElem _ _ i.isLt]
          rfl
        · rw [Vec.get_ofFn, List.getD_eq_getElem _ _ i.isLt]
      · cases loaded

end Rows

/-! ## Arrays from rows -/

/-- All rows are equally long. -/
def Rectangular (rows : List (List Float)) : Prop :=
  ∃ width, ∀ row ∈ rows, row.length = width

namespace Datum

theorem commonShape?_numbers (values : List Float) :
    commonShape? (values.map .number) = some (if values = [] then none else some []) := by
  induction values with
  | nil => rfl
  | cons first rest inductionHypothesis =>
      have single : (number first).shape? = some [] := rfl
      rw [List.map_cons, commonShape?, single, inductionHypothesis]
      by_cases last : rest = [] <;> simp [last]

/-- Numbers form an array of one dimension. -/
theorem shape?_ofNumbers (values : List Float) :
    (ofNumbers values).shape? = some [values.length] := by
  rw [ofNumbers, shape?, commonShape?_numbers]
  by_cases empty : values = [] <;> simp [empty]

/-- Rows of equal lengths share their shape. -/
theorem commonShape?_rows {rows : List (List Float)} {width : Nat}
    (lengths : ∀ row ∈ rows, row.length = width) :
    commonShape? (rows.map ofNumbers) = some (if rows = [] then none else some [width]) := by
  induction rows with
  | nil => rfl
  | cons first rest inductionHypothesis =>
      rw [List.forall_mem_cons] at lengths
      rw [List.map_cons, commonShape?, shape?_ofNumbers, inductionHypothesis lengths.2, lengths.1]
      by_cases last : rest = [] <;> simp [last]

theorem allLeaves_numbers (values : List Float) :
    allLeaves (values.map .number) = values.map .number := by
  induction values with
  | nil => rfl
  | cons first rest inductionHypothesis =>
      have single : (number first).leaves = [number first] := rfl
      rw [List.map_cons, allLeaves, single, inductionHypothesis, List.singleton_append]

theorem allLeaves_rows (rows : List (List Float)) :
    allLeaves (rows.map ofNumbers) = rows.flatten.map .number := by
  induction rows with
  | nil => rfl
  | cons first rest inductionHypothesis =>
      rw [List.map_cons, allLeaves, ofNumbers, leaves, allLeaves_numbers, inductionHypothesis,
        List.flatten_cons, List.map_append]

theorem mapM_entry_numbers (values : List Float) :
    (values.map .number).mapM entry = .ok values := by
  rw [List.mapM_map]
  change values.mapM (fun a => (pure a : Except Fault Float)) = pure values
  rw [List.mapM_pure, List.map_id']

/-- Rows of equal lengths fill an array. -/
theorem exists_tensor_rows {rows : List (List Float)} (rectangular : Rectangular rows) :
    ∃ points, (list (rows.map ofNumbers)).tensor = .ok points := by
  obtain ⟨width, lengths⟩ := rectangular
  have shaped : ∃ shape, (list (rows.map ofNumbers)).shape = .ok shape := by
    unfold shape
    rw [shape?, commonShape?_rows lengths]
    by_cases empty : rows = [] <;> simp [empty, Tensor.rankLimit]
  obtain ⟨shape, shaped⟩ := shaped
  unfold tensor arrayOf
  rw [shaped, leaves, allLeaves_rows]
  dsimp only [bind, Except.bind]
  rw [mapM_entry_numbers]
  exact ⟨_, rfl⟩

end Datum

/-! ## Problems from arrays -/

namespace Tensor

variable {K : Type}

/-- The two parts of an array that is split along its second dimension have the same rows. -/
theorem shape_splitLast {t : Tensor K} {m n : Nat} (shaped : t.splitLast.1.shape = [m, n]) :
    t.splitLast.2.shape = [m] := by
  unfold splitLast at shaped ⊢
  split at shaped
  · rename_i shape_eq
    cases shaped
    rfl
  · rename_i narrow
    exact absurd shaped (narrow m n [])

end Tensor

theorem Lines.shape_ofMembers {members : List Datum} {A b : Tensor Float} {m n : Nat}
    (read : ofMembers members = .ok (A, b)) (shaped : A.shape = [m, n]) : b.shape = [m] := by
  unfold ofMembers at read
  obtain ⟨_, _, read⟩ := bind_eq_ok read
  split at read
  · cases read
  · cases read
    cases shaped
    rfl
  · obtain ⟨all, _, read⟩ := bind_eq_ok read
    have parts : all.splitLast = (A, b) := Except.ok.inj read
    have split := Tensor.shape_splitLast (t := all) (m := m) (n := n)
    rw [parts] at split
    exact split shaped

theorem Lines.shape_ofPair {matrix bounds : Datum} {A b : Tensor Float} {m n : Nat}
    (read : ofPair matrix bounds = .ok (A, b)) (shaped : A.shape = [m, n]) : b.shape = [m] := by
  unfold ofPair at read
  obtain ⟨_, _, read⟩ := bind_eq_ok read
  obtain ⟨_, _, read⟩ := bind_eq_ok read
  split at read
  · rename_i rows _ shape_eq
    split at read
    · rename_i count
      cases read
      rw [shaped] at shape_eq
      cases shape_eq
      rw [count]
    · cases read
  · cases read

/-- Coefficients of two dimensions come with a bound for each row. -/
theorem Lines.shape_arrays {lines : Lines} {A b : Tensor Float} {m n : Nat}
    (read : lines.arrays = .ok (A, b)) (shaped : A.shape = [m, n]) : b.shape = [m] := by
  cases lines with
  | rows data =>
      obtain ⟨_, _, read⟩ := bind_eq_ok read
      exact shape_ofMembers read shaped
  | pair matrix bounds =>
      obtain ⟨isPair, _, read⟩ := bind_eq_ok read
      split at read
      · exact shape_ofPair read shaped
      · exact shape_ofMembers read shaped

theorem shape_objectiveArray {data : Datum} {n : Nat} {c : Tensor Float}
    (read : objectiveArray data (.whole n) = .ok c) : c.shape = [n] := by
  unfold objectiveArray at read
  obtain ⟨values, _, read⟩ := bind_eq_ok read
  split at read
  · rename_i count
    cases read
    simpa [Amount.isCount, Amount.value?, eq_comm] using count
  · cases read

/-- Arrays with two dimensions are a problem with a row. -/
theorem ProblemArrays.exists_problem {lines : Lines} {objective : Datum} {arrays : ProblemArrays}
    (loaded : load lines objective = .ok arrays) {m n : Nat} (shaped : arrays.A.shape = [m, n]) :
    0 < m ∧ ∃ problem, arrays.problem? = some ⟨m, n, problem⟩ := by
  unfold load at loaded
  obtain ⟨⟨A, b⟩, read, loaded⟩ := bind_eq_ok loaded
  dsimp only at loaded
  split at loaded
  · cases loaded
  · rename_i nonempty shape_eq
    obtain ⟨c, costs, loaded⟩ := bind_eq_ok loaded
    cases loaded
    dsimp only at shaped
    rw [shaped] at shape_eq
    cases shape_eq
    constructor
    · exact Nat.pos_of_ne_zero nonempty
    · have coefficients : A.toMat? m n = some _ := if_pos shaped
      have bounds : b.toVec? m = some _ := if_pos (Lines.shape_arrays read shaped)
      have entries : c.toVec? n = some _ := if_pos (shape_objectiveArray costs)
      unfold problem?
      dsimp only
      rw [shaped]
      dsimp only
      rw [coefficients, bounds, entries]
      exact ⟨_, rfl⟩
  · cases loaded

end PolyTrace
