import PolyTrace.Linear.Vec

/-!
# Elimination with row exchanges

`Elimination K n` records what it takes to solve a square system of `n` equations: at each column
the row that was exchanged to the top, the pivot, the rest of the pivot row, the multipliers of the
rows below it, and the record of the system that is left.  The same record solves the system and
the transposed system.

The pivot row of a column is the first one whose entry has the largest absolute value.  A column
of zeros has pivot zero; the elimination then goes on, so that the pivots can always be listed.
-/

namespace PolyTrace

/-- The record of an elimination of `n` columns. -/
inductive Elimination (K : Type) : Nat → Type where
  | done : Elimination K 0
  | column {n : Nat} (exchanged : Fin (n + 1)) (pivot : K) (upper lower : Vec K n)
      (rest : Elimination K n) : Elimination K (n + 1)

/-- The first entry of a vector that has one. -/
def Vec.first {K : Type} {n : Nat} (u : Vec K (n + 1)) : K :=
  u 0

/-- The entries after the first. -/
def Vec.others {K : Type} {n : Nat} (u : Vec K (n + 1)) : Vec K n :=
  Vector.ofFn fun i => u i.succ

/-- A vector with a new first entry. -/
def Vec.prepend {K : Type} {n : Nat} (a : K) (u : Vec K n) : Vec K (n + 1) :=
  Vector.ofFn (Fin.cases a fun i => u i)

namespace Elimination

variable {K : Type} [Scalar K]

/-- The index of the first entry of largest absolute value. -/
def pivotIndex {n : Nat} (u : Vec K (n + 1)) : Fin (n + 1) :=
  Fin.foldl (n + 1)
    (fun best i => if Scalar.abs (u best) < Scalar.abs (u i) then i else best) 0

/-- The multiplier that removes an entry of the pivot's column. -/
def multiplier (pivot a : K) : K :=
  if Scalar.Same pivot 0 then a else a / pivot

/-- Eliminate the columns of a square matrix from the first to the last. -/
def ofMat : {n : Nat} → Mat K n n → Elimination K n
  | 0, _ => done
  | _ + 1, A =>
    let exchanged := pivotIndex (A.map Vec.first)
    let B := Vec.swap A 0 exchanged
    let top : Vec K _ := B 0
    let pivot := top.first
    let upper := top.others
    let below := Vec.others B
    let lower := below.map fun row => multiplier pivot row.first
    let remaining := below.zipWith (fun row l => row.others.sub (upper.scale l)) lower
    column exchanged pivot upper lower (ofMat remaining)

/-- The pivots in the order of their columns. -/
def pivots : {n : Nat} → Elimination K n → List K
  | 0, done => []
  | _ + 1, column _ pivot _ _ rest => pivot :: rest.pivots

/-- The solution of the recorded system for one right-hand side. -/
def solve : {n : Nat} → Elimination K n → Vec K n → Vec K n
  | 0, done, r => r
  | _ + 1, column exchanged pivot upper lower rest, r =>
    let q : Vec K _ := Vec.swap r 0 exchanged
    let tail := rest.solve (q.others.sub (lower.scale q.first))
    Vec.prepend ((q.first - upper.dot tail) / pivot) tail

/-- The solution of the transposed system for one right-hand side. -/
def solveTranspose : {n : Nat} → Elimination K n → Vec K n → Vec K n
  | 0, done, r => r
  | _ + 1, column exchanged pivot upper lower rest, r =>
    let head := r.first / pivot
    let tail := rest.solveTranspose (r.others.sub (upper.scale head))
    Vec.swap (Vec.prepend (head - lower.dot tail) tail) 0 exchanged

end Elimination

end PolyTrace
