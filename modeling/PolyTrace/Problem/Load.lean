import PolyTrace.Data.Tensor
import PolyTrace.Engine.CentralPath.Barrier
import PolyTrace.Problem.Basic

/-!
# Reading a problem

The rows of a problem are given as lists `a₁, …, aₙ, b`, each meaning `a · x ≤ b`, or as a matrix
together with the bounds.  Rows have to be equally long and hold at least one coefficient and a
bound; the objective needs one entry for each variable.

Data from outside may be nested more deeply than a problem needs.  It is read into arrays first,
with the same rules on the first two dimensions, and is a problem when nothing is left beyond them.
-/

namespace PolyTrace

/-- The common length of some rows, which are numbered from `start` on. -/
def Rows.checkLengths {α : Type} (expected : Nat) : (start : Nat) → List (List α) → Except Mismatch Unit
  | _, [] => .ok ()
  | start, row :: rest =>
    if row.length = expected then Rows.checkLengths expected (start + 1) rest
    else .error (.rowLength start row.length expected)

/-- The length of all rows; there is none when there are no rows. -/
def Rows.width {α : Type} (rows : List (List α)) : Except Mismatch (Option Nat) :=
  match rows with
  | [] => .ok none
  | first :: _ => do
    Rows.checkLengths first.length 0 rows
    if first.length < 2 then throw .rowTooShort
    return some first.length

/-! ## Problems from rows of numbers -/

/-- A problem together with the numbers of its rows and variables. -/
structure SizedProblem (K : Type) where
  rows : Nat
  unknowns : Nat
  problem : Problem K rows unknowns

namespace SizedProblem

variable {K : Type} [Scalar K]

/-- The problem with the given rows and objective. -/
def ofRows (lines : List (List K)) (objective : List K) : Except Mismatch (SizedProblem K) := do
  match ← Rows.width lines with
  | none => throw .noRows
  | some width =>
    let n := width - 1
    if objective.length = n then
      return {
        rows := lines.length
        unknowns := n
        problem := {
          A := Vector.ofFn fun i => Vector.ofFn fun j => (lines.getD i.val []).getD j.val 0
          b := Vector.ofFn fun i => (lines.getD i.val []).getD n 0
          c := Vector.ofFn fun j => objective.getD j.val 0 } }
    else throw (.objectiveLength objective.length (.whole n))

end SizedProblem

/-! ## Problems from data -/

/-- The rows of a problem as they come from outside: a sequence of rows, or a pair of two things
that may be a matrix and its bounds. -/
inductive Lines where
  | rows (data : Datum)
  | pair (matrix bounds : Datum)

/-- The members of something that can be gone through, one after the other. -/
def Datum.members : Datum → Except Fault (List Datum)
  | .list items => .ok items
  | .text value => .ok (value.toList.map fun c => .text (String.singleton c))
  | .object fields => .ok (fields.map fun entry => .text entry.1)
  | .zeros (n :: rest) => .ok (List.replicate n (if rest = [] then .number 0 else .zeros rest))
  | _ => .error .notAList

/-- The number of dimensions of data. -/
def Datum.rank (data : Datum) : Except Fault Nat :=
  data.shape.map List.length

namespace Lines

/-- The coefficients and the bounds given by a sequence of rows. -/
def ofMembers (members : List Datum) : Except (Trouble Float) (Tensor Float × Tensor Float) := do
  let rows ← Trouble.ofFault (members.mapM Datum.members)
  match Rows.width rows with
  | .error cause => throw (.ofMismatch cause)
  | .ok none => return (⟨[0, 0], #[]⟩, ⟨[0], #[]⟩)
  | .ok (some _) =>
    let all ← Trouble.ofFault (Datum.tensor (.list (rows.map .list)))
    return all.splitLast

/-- The coefficients and the bounds given by a matrix and a vector. -/
def ofPair (matrix bounds : Datum) : Except (Trouble Float) (Tensor Float × Tensor Float) := do
  let A ← Trouble.ofFault matrix.tensor
  let b ← Trouble.ofFault bounds.tensor
  match A.shape with
  | [m, _] =>
    if m = b.size then return (A, ⟨[b.size], b.entries⟩)
    else throw (.ofMismatch (.boundCount m b.size))
  | shape => throw (.ofMismatch (.matrixShape shape))

/-- A pair is a matrix and its bounds if it has two and one dimensions; the second is looked at only
if the first has two. -/
def isMatrixPair (matrix bounds : Datum) : Except Fault Bool := do
  if (← matrix.rank) = 2 then return (← bounds.rank) = 1 else return false

/-- The coefficients and the bounds. -/
def arrays : Lines → Except (Trouble Float) (Tensor Float × Tensor Float)
  | rows data => do ofMembers (← Trouble.ofFault data.members)
  | pair matrix bounds => do
    if ← Trouble.ofFault (isMatrixPair matrix bounds) then ofPair matrix bounds
    else ofMembers [matrix, bounds]

end Lines

/-- The objective of a problem of `n` variables. -/
def objectiveArray (data : Datum) (n : Amount) : Except (Trouble Float) (Tensor Float) := do
  let c ← Trouble.ofFault data.tensor
  if n.isCount c.size then return ⟨[c.size], c.entries⟩
  else throw (.ofMismatch (.objectiveLength c.size n))

/-- The arrays of a problem. -/
structure ProblemArrays where
  A : Tensor Float
  b : Tensor Float
  c : Tensor Float

namespace ProblemArrays

/-- The arrays of the problem that data stands for. -/
def load (lines : Lines) (objective : Datum) : Except (Trouble Float) ProblemArrays := do
  let (A, b) ← lines.arrays
  match A.shape with
  | 0 :: _ => throw (.ofMismatch .noRows)
  | _ :: n :: _ => return ⟨A, b, ← objectiveArray objective (.whole n)⟩
  | _ => throw (.fault .index)

/-- The problem, if the arrays have no further dimensions. -/
def problem? (arrays : ProblemArrays) : Option (SizedProblem Float) :=
  match arrays.A.shape with
  | [m, n] =>
    match arrays.A.toMat? m n, arrays.b.toVec? m, arrays.c.toVec? n with
    | some A, some b, some c => some ⟨m, n, ⟨A, b, c⟩⟩
    | _, _, _ => none
  | _ => none

/-- The arrays of a problem. -/
def ofProblem {m n : Nat} (problem : Problem Float m n) : ProblemArrays :=
  ⟨.ofMat problem.A, .ofVec problem.b, .ofVec problem.c⟩

end ProblemArrays

/-! ## Weights, vertices and programs -/

/-- The weights of the rows: one each when none are given. -/
def weightVector {K : Type} [Scalar K] (m : Nat) (weights : Option (List K)) :
    Except Mismatch (Vec K m) :=
  match weights with
  | none => .ok (Vec.ones m)
  | some w =>
    if w.length = m then .ok (Vector.ofFn fun i => w.getD i.val 0)
    else .error (.weightCount w.length m)

/-- Rows of coefficients and bounds without the rows of weight zero, and the weights left. -/
def filterWeighted (A b : Tensor Float) (weights : Option (List Float)) :
    Except (Trouble Float) (Tensor Float × Tensor Float × Tensor Float) :=
  let m := A.shape.headD 0
  match weightVector m weights with
  | .error cause => .error (.ofMismatch cause)
  | .ok w =>
    let kept := (CentralPath.keptRows w).map fun i => i.val
    .ok (A.pick kept, b.pick kept, (Tensor.ofVec w).pick kept)

/-- The mean of some points. -/
def mean {K : Type} [Scalar K] {k n : Nat} (points : Mat K k n) : Vec K n :=
  Vector.ofFn fun j => (Vec.sum k fun i => points i j) / Scalar.ofRat (k : Int)

/-- The centroid of an array of vertices, which have to have `n` coordinates if `n` is given. -/
def centroid {K : Type} [Scalar K] (vertices : Tensor K) (n : Option Amount) :
    Except Mismatch (Tensor K) :=
  if vertices.size = 0 then .error .noVertices
  else
    match vertices.shape with
    | [k, d] =>
      let centre : Except Mismatch (Tensor K) :=
        match vertices.toMat? k d with
        | some points => .ok (.ofVec (mean points))
        | none => .error (.vertexShape [k, d])
      match n with
      | some n => if n.isCount d then centre else .error (.vertexDimension d n)
      | none => centre
    | shape => .error (.vertexShape shape)

/-- A program together with the numbers of its rows and columns. -/
structure SizedProgram (K : Type) where
  rows : Nat
  columns : Nat
  program : Program K rows columns

/-- The program with the given arrays, whose shapes have to fit. -/
def checkDimensions {K : Type} [Scalar K] (A b c : Tensor K) :
    Except Mismatch (SizedProgram K) :=
  match A.shape with
  | [m, n] =>
    match A.toMat? m n, b.toVec? m, c.toVec? n with
    | none, _, _ => .error (.matrixShape [m, n])
    | some _, none, _ => .error (.boundShape m b.shape)
    | some _, some _, none => .error (.costShape n c.shape)
    | some A, some b, some c => .ok ⟨m, n, ⟨A, b, c⟩⟩
  | shape => .error (.matrixShape shape)

/-- The bounds of the slice that ends before `index`, or starts at it, in a list of `length`
members.  A negative index counts from the end. -/
def sliceIndex (length : Nat) (index : Int) : Nat :=
  if index < 0 then (index + length).toNat else min index.toNat length

/-- The difference of the first `n` entries and those from `n` to `2 n`. -/
def unsplitArray (chi : Tensor Float) (n : Int) : Except Fault (Tensor Float) :=
  match chi.shape with
  | [] => .error .index
  | length :: _ =>
    let first := chi.rows 0 (sliceIndex length n)
    let second := chi.rows (sliceIndex length n) (sliceIndex length (2 * n))
    match first.zipWith? (fun a b => a - b) second with
    | some x => .ok x
    | none => .error .shapes

end PolyTrace
