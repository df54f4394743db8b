import PolyTrace.Data.Tensor

/-!
# Arithmetic on arrays

Operands of an entrywise operation are repeated to a common shape.  In a product the last two
dimensions of an array are those of a matrix and the ones before them count matrices of a stack,
which are repeated like entries; an array of one dimension is a row on the left and a column on the
right, and its dimension is then missing from the product.

An operation without a result is a `Fault`: operands that do not fit, an index beyond the end, the
extremum of no entries, or a single number read off an array that has dimensions.
-/

namespace PolyTrace.Tensor

section Parts

variable {K : Type}

/-- The part with the given first index. -/
def part (i : Nat) (t : Tensor K) : Except Fault (Tensor K) :=
  match t.shape with
  | [] => .error .index
  | n :: rest =>
    if i < n then .ok ⟨rest, t.entries.extract (i * count rest) ((i + 1) * count rest)⟩
    else .error .index

/-- The parts with the given first indices, in that order. -/
def parts (indices : List Nat) (t : Tensor K) : Except Fault (Tensor K) :=
  match t.shape with
  | [] => .error .index
  | n :: _ => if indices.all fun i => decide (i < n) then .ok (t.pick indices) else .error .index

/-- The only entry. -/
def single (t : Tensor K) : Except Fault K :=
  match t.entries.toList with
  | [a] => .ok a
  | _ => .error .shapes

/-- The number that an array without dimensions holds. -/
def number (t : Tensor K) : Except Fault K :=
  match t.shape with
  | [] => t.single
  | _ :: _ => .error .noNumericValue

/-- Two arrays one after the other along the first dimension. -/
def append (s t : Tensor K) : Except Fault (Tensor K) :=
  match s.shape, t.shape with
  | m :: rest, n :: other =>
    if rest = other then .ok ⟨(m + n) :: rest, s.entries ++ t.entries⟩ else .error .shapes
  | _, _ => .error .shapes

/-- The array with a second dimension of length one put in. -/
def secondAxis (t : Tensor K) : Except Fault (Tensor K) :=
  match t.shape with
  | [] => .error .index
  | n :: rest => if t.rank < rankLimit then .ok ⟨n :: 1 :: rest, t.entries⟩ else .error .index

end Parts

variable {K : Type} [Scalar K]

/-- The dimensions in reverse order. -/
def transposed (t : Tensor K) : Tensor K :=
  ⟨t.shape.reverse, Array.ofFn fun (k : Fin (count t.shape.reverse)) =>
    t.entries.getD (place t.shape.reverse (indexReversed t.shape k.val).reverse) 0⟩

/-- The entrywise combination of two operands. -/
def combine (f : K → K → K) (s t : Tensor K) : Except Fault (Tensor K) :=
  match s.zipWith? f t with
  | some found => .ok found
  | none => .error .shapes

/-- The entrywise sum. -/
def add (s t : Tensor K) : Except Fault (Tensor K) :=
  s.combine (fun a b => a + b) t

/-- The entrywise difference. -/
def sub (s t : Tensor K) : Except Fault (Tensor K) :=
  s.combine (fun a b => a - b) t

/-- The entrywise product. -/
def mul (s t : Tensor K) : Except Fault (Tensor K) :=
  s.combine (fun a b => a * b) t

/-- The entrywise quotient. -/
def div (s t : Tensor K) : Except Fault (Tensor K) :=
  s.combine (fun a b => a / b) t

/-- Every entry multiplied by `a`. -/
def scale (a : K) (t : Tensor K) : Tensor K :=
  t.map fun b => a * b

/-- Every entry negated. -/
def neg (t : Tensor K) : Tensor K :=
  t.map fun a => -a

/-- Negative entries are replaced by zero. -/
def project (t : Tensor K) : Tensor K :=
  t.map fun a => Scalar.larger a 0

/-- The smallest entry. -/
def smallest (t : Tensor K) : Except Fault K :=
  match t.flat.smallest? with
  | some a => .ok a
  | none => .error .emptyExtremum

/-- The largest absolute value of an entry. -/
def largestAbs (t : Tensor K) : Except Fault K :=
  match t.flat.largestAbs? with
  | some a => .ok a
  | none => .error .emptyExtremum

/-- A shape seen as a stack of matrices: the dimensions of the stack, the rows and the columns. -/
structure Stack where
  outer : List Nat
  rows : Nat
  columns : Nat

/-- The shape of a left operand as a stack of matrices. -/
def leftStack? (shape : List Nat) : Option Stack :=
  match shape.reverse with
  | [] => none
  | [k] => some ⟨[], 1, k⟩
  | k :: m :: outer => some ⟨outer.reverse, m, k⟩

/-- The shape of a right operand as a stack of matrices. -/
def rightStack? (shape : List Nat) : Option Stack :=
  match shape.reverse with
  | [] => none
  | [k] => some ⟨[], k, 1⟩
  | p :: k :: outer => some ⟨outer.reverse, k, p⟩

/-- One entry of the product of a row that starts at `i` and a column that starts at `j`, in which
one step goes over `columns` entries. -/
def innerProduct (s t : Tensor K) (i j length columns : Nat) : K :=
  (List.range length).foldl
    (fun total q => total + s.entries.getD (i + q) 0 * t.entries.getD (j + q * columns) 0) 0

/-- The entries of the product of one matrix of a left stack and one of a right stack. -/
def matrixEntries (s t : Tensor K) (left right : Stack) (i j : Nat) : List K :=
  (List.range left.rows).flatMap fun row =>
    (List.range right.columns).map fun column =>
      innerProduct s t ((i * left.rows + row) * left.columns)
        (j * right.rows * right.columns + column) left.columns right.columns

/-- The dimensions of a matrix in a product, less those that an operand of one dimension lacks. -/
def productShape (s t : Tensor K) (outer : List Nat) (rows columns : Nat) : List Nat :=
  outer ++ (if s.rank = 1 then [] else [rows]) ++ (if t.rank = 1 then [] else [columns])

/-- The product of two arrays. -/
def product (s t : Tensor K) : Except Fault (Tensor K) :=
  match leftStack? s.shape, rightStack? t.shape with
  | some left, some right =>
    if left.columns = right.rows then
      match common? left.outer right.outer with
      | some outer =>
        let entries := (List.range (count outer)).flatMap fun d =>
          let index := indexReversed outer.reverse d
          matrixEntries s t left right (place left.outer.reverse index)
            (place right.outer.reverse index)
        .ok ⟨productShape s t outer left.rows right.columns, entries.toArray⟩
      | none => .error .shapes
    else .error .shapes
  | _, _ => .error .shapes

/-- The Euclidean length of all entries. -/
def norm {K : Type} [Analytic K] (t : Tensor K) : K :=
  t.flat.norm

end PolyTrace.Tensor

namespace PolyTrace

/-- A matrix of any size. -/
structure SizedMatrix (K : Type) where
  rows : Nat
  columns : Nat
  matrix : Mat K rows columns

/-- The matrix that an array of two dimensions holds. -/
def Tensor.matrix {K : Type} [Scalar K] (t : Tensor K) : Except Fault (SizedMatrix K) :=
  match t.shape with
  | [m, n] =>
    match t.toMat? m n with
    | some A => .ok ⟨m, n, A⟩
    | none => .error .shapes
  | _ => .error .shapes

end PolyTrace
