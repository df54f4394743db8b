import PolyTrace.Arith.Scalar

/-!
# Vectors and matrices

A vector carries its length in its type and a matrix is a vector of rows, so that the shapes of the
operands of a product agree by construction.  Sums run from the first entry to the last.
-/

namespace PolyTrace

/-- A vector of `n` numbers. -/
abbrev Vec (K : Type) (n : Nat) :=
  Vector K n

/-- A matrix of `m` rows and `n` columns, row by row. -/
abbrev Mat (K : Type) (m n : Nat) :=
  Vector (Vec K n) m

/-- A vector is applied to an index like the function of its entries. -/
instance Vec.instCoeFun {α : Type} {n : Nat} : CoeFun (Vector α n) fun _ => Fin n → α :=
  ⟨Vector.get⟩

namespace Vec

section Entries

variable {α β γ : Type} {n : Nat}

/-- The vector with the entry at one index replaced. -/
def put (u : Vector α n) (i : Fin n) (a : α) : Vector α n :=
  Vector.ofFn fun j => if j = i then a else u j

/-- The vector with the entries at two indices exchanged. -/
def swap (u : Vector α n) (i j : Fin n) : Vector α n :=
  put (put u i (u j)) j (u i)

@[simp]
theorem get_ofFn (f : Fin n → α) (i : Fin n) : (Vector.ofFn f).get i = f i := by
  simp only [Vector.get, Vector.getElem_toArray, Vector.getElem_ofFn]
  rfl

@[simp]
theorem get_map (f : α → β) (u : Vector α n) (i : Fin n) : (u.map f).get i = f (u.get i) := by
  simp [Vector.get]

@[simp]
theorem get_zipWith (f : α → β → γ) (u : Vector α n) (v : Vector β n) (i : Fin n) :
    (u.zipWith f v).get i = f (u.get i) (v.get i) := by
  simp only [Vector.get, Vector.getElem_toArray, Vector.getElem_zipWith]
  rfl

@[simp]
theorem get_replicate (a : α) (i : Fin n) : (Vector.replicate n a).get i = a := by
  simp [Vector.get]

@[simp]
theorem get_put (u : Vector α n) (i j : Fin n) (a : α) :
    (put u i a).get j = if j = i then a else u.get j := by
  simp [put]

/-- The first block of two vectors put one after the other. -/
@[simp]
theorem get_append_castAdd {m : Nat} (u : Vector α n) (v : Vector α m) (i : Fin n) :
    (u ++ v).get (i.castAdd m) = u.get i :=
  Vector.getElem_append_left i.isLt

/-- The second block of two vectors put one after the other. -/
@[simp]
theorem get_append_natAdd {m : Nat} (u : Vector α n) (v : Vector α m) (i : Fin m) :
    (u ++ v).get (i.natAdd n) = v.get i := by
  have bound : n + i.val < n + m := Nat.add_lt_add_left i.isLt n
  have entry : (u ++ v)[n + i.val] = v[n + i.val - n] :=
    Vector.getElem_append_right bound (Nat.le_add_right n i.val)
  simp only [Nat.add_sub_cancel_left] at entry
  exact entry

/-- Two vectors with the same entries are equal. -/
theorem ext_get {u v : Vector α n} (h : ∀ i, u.get i = v.get i) : u = v := by
  ext i hi
  simpa [Vector.get] using h ⟨i, hi⟩

end Entries

variable {K : Type} [Scalar K] {m n : Nat}

/-- The sum of the values of `f`, from the first index to the last. -/
def sum (n : Nat) (f : Fin n → K) : K :=
  Fin.foldl n (fun total i => total + f i) 0

/-- The inner product. -/
def dot (u v : Vec K n) : K :=
  sum n fun i => u i * v i

/-- The vector with every entry zero. -/
def zero (n : Nat) : Vec K n :=
  Vector.replicate n 0

/-- The vector with every entry one. -/
def ones (n : Nat) : Vec K n :=
  Vector.replicate n 1

/-- The entrywise sum. -/
def add (u v : Vec K n) : Vec K n :=
  u.zipWith (fun a b => a + b) v

/-- The entrywise difference. -/
def sub (u v : Vec K n) : Vec K n :=
  u.zipWith (fun a b => a - b) v

/-- The entrywise product. -/
def mul (u v : Vec K n) : Vec K n :=
  u.zipWith (fun a b => a * b) v

/-- The entrywise quotient. -/
def div (u v : Vec K n) : Vec K n :=
  u.zipWith (fun a b => a / b) v

/-- Every entry negated. -/
def neg (u : Vec K n) : Vec K n :=
  u.map fun a => -a

/-- Every entry multiplied by `t`. -/
def scale (t : K) (u : Vec K n) : Vec K n :=
  u.map fun a => t * a

/-- The point reached from `u` by the share `t` of the step `d`. -/
def along (u : Vec K n) (t : K) (d : Vec K n) : Vec K n :=
  u.add (d.scale t)

/-- Negative entries are replaced by zero. -/
def project (u : Vec K n) : Vec K n :=
  u.map fun a => Scalar.larger a 0

/-- The largest entry, or nothing for the empty vector. -/
def largest? (u : Vec K n) : Option K :=
  match u.toList with
  | [] => none
  | a :: rest => some (rest.foldl Scalar.larger a)

/-- The smallest entry, or nothing for the empty vector. -/
def smallest? (u : Vec K n) : Option K :=
  match u.toList with
  | [] => none
  | a :: rest => some (rest.foldl Scalar.smaller a)

/-- The largest absolute value among the entries, or nothing for the empty vector. -/
def largestAbs? (u : Vec K n) : Option K :=
  largest? (u.map Scalar.abs)

/-- All entries are finite. -/
def allFinite (u : Vec K n) : Bool :=
  u.all fun a => decide (Scalar.Finite a)

/-- The first two coordinates, a missing one read as zero. -/
def leading (u : Vec K n) : K × K :=
  (u.toArray.getD 0 0, u.toArray.getD 1 0)

end Vec

/-- The Euclidean length. -/
def Vec.norm {K : Type} [Analytic K] {n : Nat} (u : Vec K n) : K :=
  Analytic.sqrt (u.dot u)

namespace Mat

variable {K : Type} [Scalar K] {m n p : Nat}

/-- The matrix with the entries `f i j`. -/
def ofFn (f : Fin m → Fin n → K) : Mat K m n :=
  Vector.ofFn fun i => Vector.ofFn fun j => f i j

/-- The matrix with ones on the diagonal and zeros elsewhere. -/
def identity (n : Nat) : Mat K n n :=
  ofFn fun i j => if i = j then 1 else 0

/-- The matrix with the entries of `d` on the diagonal and zeros elsewhere. -/
def diagonal (d : Vec K n) : Mat K n n :=
  ofFn fun i j => if i = j then d i else 0

/-- The matrix with every entry zero. -/
def zero (m n : Nat) : Mat K m n :=
  Vector.replicate m (Vec.zero n)

/-- Every entry negated. -/
def neg (A : Mat K m n) : Mat K m n :=
  A.map Vec.neg

/-- Row `i` multiplied by the `i`-th entry of `d`. -/
def scaleRows (d : Vec K m) (A : Mat K m n) : Mat K m n :=
  d.zipWith Vec.scale A

/-- Two matrices of equally many rows, side by side. -/
def beside (A : Mat K m n) (B : Mat K m p) : Mat K m (n + p) :=
  A.zipWith (fun u v => u ++ v) B

/-- Rows become columns. -/
def transpose (A : Mat K m n) : Mat K n m :=
  ofFn fun j i => A i j

/-- Column `j`. -/
def column (A : Mat K m n) (j : Fin n) : Vec K m :=
  A.map fun row => row j

/-- The columns named by `js`, in that order. -/
def columns (A : Mat K m n) (js : Vector (Fin n) p) : Mat K m p :=
  A.map fun row => js.map fun j => row j

/-- The product with a column vector. -/
def mulVec (A : Mat K m n) (x : Vec K n) : Vec K m :=
  A.map fun row => row.dot x

/-- The product of the transposed matrix with a column vector. -/
def transposeMulVec (A : Mat K m n) (y : Vec K m) : Vec K n :=
  Vector.ofFn fun j => Vec.sum m fun i => A i j * y i

/-- The product of the transposed matrix with another matrix. -/
def transposeMul (A : Mat K m n) (B : Mat K m p) : Mat K n p :=
  ofFn fun j k => Vec.sum m fun i => A i j * B i k

/-- All entries are finite. -/
def allFinite (A : Mat K m n) : Bool :=
  A.all Vec.allFinite

end Mat

end PolyTrace
