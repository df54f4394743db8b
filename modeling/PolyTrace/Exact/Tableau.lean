import PolyTrace.Arith.Power
import PolyTrace.Arith.Rational
import PolyTrace.Problem.Basic

/-!
# Linear programs in exact arithmetic

`maximise` solves a problem over the fractions.  The tableau has one row for each row of the
problem, with a slack for it.  The free variables are first brought into the basis; from then on
only slacks are exchanged.  A basic slack below zero or a nonbasic slack with a positive cost is an
offence.  The offending slack of least index is exchanged against the slack of least index that can
take its place; when there is none, the row shows that no point satisfies all rows, or the column
that no multipliers bound the objective.

No basis occurs twice, so that there are at most as many exchanges as sets of columns.
-/

namespace PolyTrace.Exact

/-- A tableau: rows of coefficients with their values, the reduced costs, and the basic column of
each row. -/
structure Tableau (m p : Nat) where
  rows : Mat Rat m p
  values : Vec Rat m
  cost : Vec Rat p
  basis : Vector (Fin p) m

/-- How a program ends: with an optimal point, without any point, or without a bound. -/
inductive Outcome (n : Nat) where
  | optimal (x : Vec Rat n)
  | infeasible
  | unbounded
deriving DecidableEq

namespace Tableau

variable {m n p : Nat}

/-- The tableau of a problem, with the slacks as basis. -/
def ofProblem (problem : Problem Rat m n) : Tableau m (n + m) where
  rows := problem.A.beside (Mat.identity m : Mat Rat m m)
  values := problem.b
  cost := problem.c ++ (Vec.zero m : Vec Rat m)
  basis := Vector.ofFn fun i => Fin.natAdd n i

/-- Column `j` takes the place of the basic column of row `i`. -/
def exchange (tableau : Tableau m p) (i : Fin m) (j : Fin p) : Tableau m p :=
  let pivot := tableau.rows i j
  let row : Vec Rat p := (tableau.rows i).map fun a => a / pivot
  let value := tableau.values i / pivot
  { rows := Vector.ofFn fun (k : Fin m) =>
      if k = i then row else (tableau.rows k).sub (row.scale (tableau.rows k j))
    values := Vector.ofFn fun (k : Fin m) =>
      if k = i then value else tableau.values k - tableau.rows k j * value
    cost := tableau.cost.sub (row.scale (tableau.cost j))
    basis := Vec.put tableau.basis i j }

/-- The row in which a column is basic. -/
def rowOf? (tableau : Tableau m p) (j : Fin p) : Option (Fin m) :=
  (List.finRange m).find? fun (i : Fin m) => decide (tableau.basis i = j)

/-- The value of a column. -/
def value (tableau : Tableau m p) (j : Fin p) : Rat :=
  match tableau.rowOf? j with
  | some i => tableau.values i
  | none => 0

/-- Bring a free variable into the basis in the place of a slack, if any row allows it. -/
def bringIn (tableau : Tableau m (n + m)) (j : Fin n) : Tableau m (n + m) :=
  let column := Fin.castAdd m j
  let row? := (List.finRange m).find? fun (i : Fin m) =>
    decide (n ≤ (tableau.basis i).val ∧ tableau.rows i column ≠ 0)
  match row? with
  | some i => tableau.exchange i column
  | none => tableau

/-- A slack that is negative, in the row where it is basic, or one that would still pay. -/
inductive Offence (m : Nat) where
  | row (i : Fin m)
  | column (slack : Fin m)

/-- The offence of one slack. -/
def offenceOf? (tableau : Tableau m (n + m)) (slack : Fin m) : Option (Offence m) :=
  match tableau.rowOf? (Fin.natAdd n slack) with
  | some i => if tableau.values i < 0 then some (.row i) else none
  | none => if 0 < tableau.cost (Fin.natAdd n slack) then some (.column slack) else none

/-- The offence of least index. -/
def offence? (tableau : Tableau m (n + m)) : Option (Offence m) :=
  (List.finRange m).findSome? tableau.offenceOf?

/-- The nonbasic slack of least index that can take over row `i`. -/
def partnerOfRow? (tableau : Tableau m (n + m)) (i : Fin m) : Option (Fin m) :=
  (List.finRange m).find? fun slack =>
    (tableau.rowOf? (Fin.natAdd n slack)).isNone &&
      decide (tableau.rows i (Fin.natAdd n slack) < 0)

/-- The row of the basic slack of least index that can make room for a column. -/
def partnerOfColumn? (tableau : Tableau m (n + m)) (slack : Fin m) : Option (Fin m) :=
  (List.finRange m).findSome? fun (other : Fin m) =>
    match tableau.rowOf? (Fin.natAdd n other) with
    | some i => if 0 < tableau.rows i (Fin.natAdd n slack) then some i else none
    | none => none

/-- A free variable that no row restrains pays. -/
def hasFreeRay (tableau : Tableau m (n + m)) : Bool :=
  (List.finRange n).any fun (j : Fin n) =>
    (tableau.rowOf? (Fin.castAdd m j)).isNone && decide (tableau.cost (Fin.castAdd m j) ≠ 0)

/-- The values of the variables. -/
def point (tableau : Tableau m (n + m)) : Vec Rat n :=
  Vector.ofFn fun j => tableau.value (Fin.castAdd m j)

/-- Exchange slacks until nothing offends. -/
def settle : (fuel : Nat) → Tableau m (n + m) → Outcome n
  | 0, _ => .infeasible
  | fuel + 1, tableau =>
    match tableau.offence? with
    | none => if tableau.hasFreeRay then .unbounded else .optimal tableau.point
    | some (.row i) =>
      match tableau.partnerOfRow? i with
      | some slack => settle fuel (tableau.exchange i (Fin.natAdd n slack))
      | none => .infeasible
    | some (.column slack) =>
      match tableau.partnerOfColumn? slack with
      | some i => settle fuel (tableau.exchange i (Fin.natAdd n slack))
      | none => .unbounded

end Tableau

/-- The largest value of the objective of a problem over the fractions, by a point that takes it. -/
def maximise {m n : Nat} (problem : Problem Rat m n) : Outcome n :=
  let tableau := (List.finRange n).foldl Tableau.bringIn (Tableau.ofProblem problem)
  tableau.settle (twoPow (n + m))

end PolyTrace.Exact
