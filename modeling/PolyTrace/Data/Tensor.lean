import PolyTrace.Data.Datum
import PolyTrace.Decimal.Reader
import PolyTrace.Failure
import PolyTrace.Linear.Vec

/-!
# Arrays of any number of dimensions

Data from outside is read into a `Tensor`: a shape and the entries in row-major order.  Nested lists
have a shape when all lists of one depth are equally long.  Vectors and matrices are the tensors
with one and with two dimensions; the operations on more dimensions are those that the reading of a
problem needs.
-/

namespace PolyTrace

/-- An array: its shape and its entries, the last index running fastest. -/
structure Tensor (K : Type) where
  shape : List Nat
  entries : Array K
deriving DecidableEq

namespace Tensor

variable {K : Type}

/-- The most dimensions that an array may have. -/
def rankLimit : Nat := 64

/-- The number of entries of a shape. -/
def count (shape : List Nat) : Nat :=
  shape.foldl (fun total n => total * n) 1

/-- The number of dimensions. -/
def rank (t : Tensor K) : Nat :=
  t.shape.length

/-- The number of entries. -/
def size (t : Tensor K) : Nat :=
  t.entries.size

/-- A vector as an array. -/
def ofVec {n : Nat} (u : Vec K n) : Tensor K :=
  ⟨[n], u.toArray⟩

/-- A matrix as an array. -/
def ofMat {m n : Nat} (A : Mat K m n) : Tensor K :=
  ⟨[m, n], A.toArray.flatMap Vector.toArray⟩

/-- The entries from `start` on as a vector, missing ones read as zero. -/
def segment [Zero K] (entries : Array K) (start n : Nat) : Vec K n :=
  Vector.ofFn fun i => entries.getD (start + i.val) 0

/-- All entries as one vector. -/
def flat (t : Tensor K) : Vec K t.entries.size :=
  ⟨t.entries, rfl⟩

/-- An array of one dimension as a vector of a given length. -/
def toVec? [Zero K] (n : Nat) (t : Tensor K) : Option (Vec K n) :=
  if t.shape = [n] then some (segment t.entries 0 n) else none

/-- An array of two dimensions as a matrix of a given shape. -/
def toMat? [Zero K] (m n : Nat) (t : Tensor K) : Option (Mat K m n) :=
  if t.shape = [m, n] then some (Vector.ofFn fun i => segment t.entries (i.val * n) n) else none

/-- The entrywise image. -/
def map {L : Type} (f : K → L) (t : Tensor K) : Tensor L :=
  ⟨t.shape, t.entries.map f⟩

/-- The part with first index from `start` to before `stop`. -/
def rows (start stop : Nat) (t : Tensor K) : Tensor K :=
  match t.shape with
  | [] => t
  | n :: rest =>
    let stop := min stop n
    let start := min start stop
    let block := count rest
    ⟨(stop - start) :: rest, t.entries.extract (start * block) (stop * block)⟩

/-- The parts with first index in the given list, in that order. -/
def pick (indices : List Nat) (t : Tensor K) : Tensor K :=
  match t.shape with
  | [] => t
  | _ :: rest =>
    let block := count rest
    ⟨indices.length :: rest,
      (indices.map fun i => t.entries.extract (i * block) ((i + 1) * block)).toArray.flatten⟩

/-- All but the last, and the last, along the second dimension. -/
def splitLast (t : Tensor K) : Tensor K × Tensor K :=
  match t.shape with
  | m :: n :: rest =>
    let block := count rest
    let front := (List.range m).map fun i =>
      t.entries.extract (i * n * block) ((i * n + (n - 1)) * block)
    let last := (List.range m).map fun i =>
      t.entries.extract ((i * n + (n - 1)) * block) ((i * n + n) * block)
    (⟨m :: (n - 1) :: rest, front.toArray.flatten⟩, ⟨m :: rest, last.toArray.flatten⟩)
  | _ => (t, t)

/-! ## Operands of different shapes -/

/-- The common shape of two shapes given from the last dimension to the first.  A dimension of
length one is repeated. -/
def commonReversed? : List Nat → List Nat → Option (List Nat)
  | [], other => some other
  | shape, [] => some shape
  | a :: s, b :: t =>
    (commonReversed? s t).bind fun rest =>
      if a = b then some (a :: rest)
      else if a = 1 then some (b :: rest)
      else if b = 1 then some (a :: rest)
      else none

/-- The common shape of two operands. -/
def common? (s t : List Nat) : Option (List Nat) :=
  (commonReversed? s.reverse t.reverse).map List.reverse

/-- The place in an operand, given from the last dimension, of an index into the common shape, also
given from the last dimension. -/
def place : (shape index : List Nat) → Nat
  | [], _ => 0
  | _ :: _, [] => 0
  | n :: shape, i :: index => (if n = 1 then 0 else i) + n * place shape index

/-- The index, from the last dimension on, of the `k`-th entry of a shape given in the same order. -/
def indexReversed : (shape : List Nat) → Nat → List Nat
  | [], _ => []
  | n :: shape, k => k % n :: indexReversed shape (k / n)

/-- An operand repeated to fill the common shape; `fill` stands for entries that do not exist. -/
def spreadTo (fill : K) (shape : List Nat) (t : Tensor K) : Tensor K :=
  ⟨shape, Array.ofFn fun (k : Fin (count shape)) =>
    t.entries.getD (place t.shape.reverse (indexReversed shape.reverse k.val)) fill⟩

/-- The entrywise combination of two operands, if their shapes fit. -/
def zipWith? [Zero K] (f : K → K → K) (s t : Tensor K) : Option (Tensor K) :=
  (common? s.shape t.shape).map fun shape =>
    ⟨shape, (s.spreadTo 0 shape).entries.zipWith f (t.spreadTo 0 shape).entries⟩

end Tensor

/-! ## Reading data -/

namespace Datum

mutual

/-- The shape of nested lists, if all lists of one depth are equally long. -/
def shape? : Datum → Option (List Nat)
  | list items => (commonShape? items).map fun inner => items.length :: inner.getD []
  | zeros shape => some shape
  | _ => some []

/-- The shape that all members of a list share; an empty list leaves it open. -/
def commonShape? : List Datum → Option (Option (List Nat))
  | [] => some none
  | item :: rest =>
    match item.shape?, commonShape? rest with
    | some shape, some none => some (some shape)
    | some shape, some (some other) => if shape = other then some (some shape) else none
    | _, _ => none

end

mutual

/-- The single values in nested lists, from the first to the last. -/
def leaves : Datum → List Datum
  | list items => allLeaves items
  | zeros shape => List.replicate (Tensor.count shape) (number 0)
  | other => [other]

/-- The single values in the members of a list. -/
def allLeaves : List Datum → List Datum
  | [] => []
  | item :: rest => item.leaves ++ allLeaves rest

end

/-- The machine number of a single value in an array; nothing is an undefined number. -/
def entry : Datum → Except Fault Float
  | null => .ok Binary64.undefined
  | flag value => .ok (if value then 1 else 0)
  | whole value =>
    match Binary64.ofInt? value with
    | some found => .ok found
    | none => .error .overflow
  | number value => .ok value
  | text value =>
    match Reader.float? value with
    | some found => .ok found
    | none => .error .notANumber
  | list _ => .error .ragged
  | object _ => .error .noNumericValue
  | zeros _ => .error .ragged

/-- The machine number of a value that stands by itself; nothing is no number. -/
def scalar : Datum → Except Fault Float
  | null => .error .noNumericValue
  | list _ => .error .noNumericValue
  | zeros [] => .ok 0
  | zeros _ => .error .noNumericValue
  | other => entry other

/-- The first two of some values as machine numbers, a missing one read as zero. -/
def leadingOf (values : List Datum) : Except Fault (Float × Float) :=
  match values with
  | [] => .ok (0, 0)
  | [first] => first.scalar.map fun a => (a, 0)
  | first :: second :: _ => do return (← first.scalar, ← second.scalar)

/-- The first two coordinates of a point, a missing one read as zero. -/
def leading : Datum → Except Fault (Float × Float)
  | list items => leadingOf items
  | zeros (n :: rest) => leadingOf (List.replicate (min n 2) (zeros rest))
  | object [] => .ok (0, 0)
  | object _ => .error .noEntry
  | _ => .error .notAList

/-- The shape of the array that data stands for. -/
def shape (data : Datum) : Except Fault (List Nat) :=
  match data.shape? with
  | none => .error .ragged
  | some shape => if shape.length ≤ Tensor.rankLimit then .ok shape else .error .ragged

/-- The array that data stands for, each single value being read by `rule`. -/
def arrayOf {K : Type} (rule : Datum → Except Fault K) (data : Datum) :
    Except Fault (Tensor K) := do
  let shape ← data.shape
  let values ← data.leaves.mapM rule
  return ⟨shape, values.toArray⟩

/-- The array of machine numbers that data stands for. -/
def tensor (data : Datum) : Except Fault (Tensor Float) :=
  data.arrayOf entry

/-- The array of flags that data stands for. -/
def mask (data : Datum) : Except Fault (Tensor Bool) :=
  data.arrayOf fun item => .ok item.truth

end Datum

end PolyTrace
