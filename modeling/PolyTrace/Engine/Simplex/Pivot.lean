import PolyTrace.Linear.Factorize
import PolyTrace.Problem.Basic
import PolyTrace.Table

/-!
# Pivot rules

A basis marks as many columns as there are rows.  The entering column is chosen among the unmarked
columns whose reduced cost exceeds the tolerance: the first of them, or the one of largest reduced
cost.  The leaving row is found by a scan over the rows whose direction exceeds the tolerance.  The
scan keeps the row of smallest ratio seen so far; a ratio within the tolerance of it takes over
only when its column comes first.
-/

namespace PolyTrace.Simplex

/-- How the entering column is chosen. -/
inductive PivotRule where
  | dantzig
  | bland
deriving DecidableEq

/-- The word for a pivot rule. -/
def PivotRule.word : PivotRule → String
  | dantzig => "dantzig"
  | bland => "bland"

/-- The settings of the simplex method. -/
structure Options (K : Type) where
  verbose : Bool := false
  tol : K
  rule : PivotRule := .dantzig
deriving DecidableEq

/-- A choice of columns. -/
abbrev Basis (p : Nat) :=
  Vector Bool p

namespace Basis

variable {p : Nat}

/-- The chosen columns in ascending order. -/
def members (basis : Basis p) : List (Fin p) :=
  (List.finRange p).filter fun j => basis j

/-- The chosen columns as ones in a string of zeros. -/
def text (basis : Basis p) : String :=
  flagText basis.toList

/-- The column `entering` takes the place of the column `leaving`. -/
def exchange (basis : Basis p) (entering leaving : Fin p) : Basis p :=
  Vec.put (Vec.put basis entering true) leaving false

/-- The failure of a basis that does not have `m` members. -/
def check {K : Type} (basis : Basis p) (m : Nat) : Except (Failure K) Unit :=
  if basis.members.length = m then .ok ()
  else .error (.wrongBasis basis.members.length (.whole m) basis.text)

end Basis

variable {K : Type} [Scalar K] {m p : Nat}

/-- The columns that may enter: unmarked, and of reduced cost above the tolerance. -/
def candidates (tol : K) (reduced : Vec K p) (basis : Basis p) : List (Fin p) :=
  (List.finRange p).filter fun j => !basis j && decide (tol < reduced j)

/-- The column that enters the basis, if any may. -/
def entering (rule : PivotRule) (tol : K) (reduced : Vec K p) (basis : Basis p) :
    Option (Fin p) :=
  match candidates tol reduced basis with
  | [] => none
  | first :: rest =>
    match rule with
    | .bland => some first
    | .dantzig =>
      some (rest.foldl (fun best j => if reduced best < reduced j then j else best) first)

/-- A number is neither undefined nor above every finite number. -/
abbrev Attained (ratio : K) : Prop :=
  Scalar.Finite ratio ∨ ratio < 0

/-- One step of the ratio test: row `i` against the best row so far. -/
def betterRow (tol : K) (values direction : Vec K m) (index : Fin m → Nat)
    (best : Option (Fin m × K)) (i : Fin m) : Option (Fin m × K) :=
  if tol < direction i then
    let ratio := values i / direction i
    match best with
    | none => if Attained ratio then some (i, ratio) else none
    | some (row, least) =>
      if ratio < least - tol then some (i, ratio)
      else if Scalar.abs (ratio - least) ≤ tol ∧ index i < index row then some (i, ratio)
      else some (row, least)
  else best

/-- The row that leaves the basis, if any limits the step.  `index` gives the column of each row. -/
def leaving (tol : K) (values direction : Vec K m) (index : Fin m → Nat) : Option (Fin m) :=
  (Fin.foldl m (betterRow tol values direction index) none).map Prod.fst

end PolyTrace.Simplex
