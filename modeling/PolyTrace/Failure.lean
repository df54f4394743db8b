import PolyTrace.Decimal.Numeral
import PolyTrace.Status

/-!
# What stops a run

A `Failure` is a reason an engine gives for not answering: the problem has no answer of the kind
asked for, the method cannot go on, or the input does not describe a problem.  Each failure has a
`Failure.Kind`, which decides the status of the report, and one message.

A `Fault` is something the program makes no promise about: an operation on numbers or lists that
has no result.  Faults carry a message only where the program itself words it.
-/

namespace PolyTrace

/-- The kinds of failure. -/
inductive Failure.Kind where
  | general
  | singular
  | unbounded
  | infeasible
  | stalled
  | lineSearchStuck
  | input
  | dimensions
  | options
  | invariant
deriving DecidableEq, Inhabited

namespace Failure.Kind

/-- The status of a run that ended in a failure of this kind. -/
def status : Kind → Status
  | general => .error
  | singular => .singular
  | unbounded => .unbounded
  | infeasible => .infeasible
  | stalled => .stalled
  | lineSearchStuck => .lineSearchStuck
  | input => .invalidInput
  | dimensions => .invalidInput
  | options => .invalidInput
  | invariant => .stalled

/-- The failure is the fault of the input. -/
def isInput : Kind → Bool
  | input => true
  | dimensions => true
  | options => true
  | _ => false

/-- No failure has the status of a run that went through. -/
theorem status_ne_converged (kind : Kind) : kind.status ≠ .converged := by
  cases kind <;> decide

end Failure.Kind

/-- The text of a list of dimensions. -/
def shapeText : List Nat → String
  | [] => "()"
  | [n] => "(" ++ Numeral.digits n ++ ",)"
  | shape => "(" ++ ", ".intercalate (shape.map Numeral.digits) ++ ")"

/-- The text of a whole number. -/
def intText (value : Int) : String :=
  if value < 0 then "-" ++ Numeral.digits value.natAbs else Numeral.digits value.natAbs

/-- What a count is compared with: a whole number, or something else that is shown by its text and
may still be equal to a whole number. -/
inductive Amount where
  | whole (value : Int)
  | other (value : Option Int) (text : String)
deriving DecidableEq

namespace Amount

/-- The text of an amount. -/
def text : Amount → String
  | whole value => intText value
  | other _ text => text

/-- The whole number that an amount is equal to. -/
def value? : Amount → Option Int
  | whole value => some value
  | other value _ => value

/-- The amount is equal to a count. -/
def isCount (amount : Amount) (count : Nat) : Bool :=
  amount.value? = some (count : Int)

end Amount

/-- Ways in which the parts of an input do not fit together. -/
inductive Mismatch where
  | matrixShape (shape : List Nat)
  | boundCount (rows bounds : Nat)
  | rowLength (row entries expected : Nat)
  | rowTooShort
  | noRows
  | objectiveLength (entries : Nat) (unknowns : Amount)
  | noVertices
  | vertexShape (shape : List Nat)
  | vertexDimension (dimension : Nat) (unknowns : Amount)
  | weightCount (weights rows : Nat)
  | boundShape (rows : Nat) (shape : List Nat)
  | costShape (columns : Nat) (shape : List Nat)
  | rightHandSide (rows size : Nat)
  | notSquare (shape : List Nat)
  | emptyMatrix
deriving DecidableEq

/-- The message of a mismatch. -/
def Mismatch.message : Mismatch → String
  | matrixShape shape => "Constraint matrix must be 2-D, got shape " ++ shapeText shape ++ "."
  | boundCount rows bounds =>
    "Constraint matrix has " ++ Numeral.digits rows ++ " rows but b has " ++
      Numeral.digits bounds ++ " entries."
  | rowLength row entries expected =>
    "Inequality " ++ Numeral.digits row ++ " has " ++ Numeral.digits entries ++
      " entries, expected " ++ Numeral.digits expected ++ "."
  | rowTooShort => "Each inequality needs at least one coefficient and a bound."
  | noRows => "At least one inequality is required."
  | objectiveLength entries unknowns =>
    "Objective has " ++ Numeral.digits entries ++ " entries but the constraints have " ++
      unknowns.text ++ " variables."
  | noVertices => "Cannot compute the centroid of an empty vertex list."
  | vertexShape shape => "Vertices must form a 2-D array, got shape " ++ shapeText shape ++ "."
  | vertexDimension dimension unknowns =>
    "Vertices have dimension " ++ Numeral.digits dimension ++ " but the problem has " ++
      unknowns.text ++ " variables."
  | weightCount weights rows =>
    "Got " ++ Numeral.digits weights ++ " weights for " ++ Numeral.digits rows ++ " inequalities."
  | boundShape rows shape =>
    "Expected b of shape (" ++ Numeral.digits rows ++ ",), got " ++ shapeText shape ++ "."
  | costShape columns shape =>
    "Expected c of shape (" ++ Numeral.digits columns ++ ",), got " ++ shapeText shape ++ "."
  | rightHandSide rows size =>
    "Right-hand side has " ++ Numeral.digits rows ++ " rows, system has " ++
      Numeral.digits size ++ "."
  | notSquare shape => "Expected a square matrix, got shape " ++ shapeText shape ++ "."
  | emptyMatrix => "Cannot factor an empty matrix."

/-- A reason for not answering. -/
inductive Failure (K : Type) where
  /-- The parts of the input do not fit together. -/
  | mismatch (cause : Mismatch)
  /-- The options were refused; the text lists why. -/
  | badOptions (text : String)
  /-- A matrix to be factored has an infinite or undefined entry. -/
  | notFinite
  /-- A matrix to be factored is singular up to rounding. -/
  | singular (smallest largest : K)
  /-- The objective grows without bound. -/
  | unbounded
  /-- The best sum of the artificial variables is positive. -/
  | infeasible (excess : K)
  /-- No point satisfies all rows. -/
  | noInteriorPoint
  /-- The region holds no ball of positive radius. -/
  | emptyInterior
  /-- The pivot count reached its cap. -/
  | stalled (cap : Int)
  /-- No share of a Newton step stays inside the region. -/
  | leftInterior (halvings : Nat)
  /-- A basis has the wrong number of members. -/
  | wrongBasis (members : Nat) (expected : Amount) (text : String)
deriving DecidableEq

namespace Failure

variable {K : Type}

/-- The kind of a failure. -/
def kind : Failure K → Kind
  | mismatch _ => .dimensions
  | badOptions _ => .options
  | notFinite => .singular
  | singular _ _ => .singular
  | unbounded => .unbounded
  | infeasible _ => .infeasible
  | noInteriorPoint => .infeasible
  | emptyInterior => .infeasible
  | stalled _ => .stalled
  | leftInterior _ => .lineSearchStuck
  | wrongBasis _ _ _ => .invariant

/-- The status of a run that ended in this failure. -/
def status (failure : Failure K) : Status :=
  failure.kind.status

/-- The message of a failure. -/
def message [ReadsOut K] : Failure K → String
  | mismatch cause => cause.message
  | badOptions text => text
  | notFinite => "Matrix contains non-finite entries."
  | singular smallest largest =>
    "Matrix is numerically singular (smallest pivot " ++
      (Numeral.scientific 3).render (ReadsOut.readout smallest) ++ ", largest " ++
      (Numeral.scientific 3).render (ReadsOut.readout largest) ++ ")."
  | unbounded => "LP is unbounded: no leaving variable found."
  | infeasible excess =>
    "Problem infeasible: Phase I optimum is " ++
      (Numeral.scientific 3).render (ReadsOut.readout excess) ++
      " > 0 with artificial variables basic."
  | noInteriorPoint => "Could not find an interior point: The problem is infeasible."
  | emptyInterior => "Feasible region has an empty interior."
  | stalled cap => "Simplex stalled after " ++ intText cap ++ " iterations."
  | leftInterior halvings =>
    "Newton step left the interior after " ++ Numeral.digits halvings ++ " halvings."
  | wrongBasis members expected text =>
    "Basis has " ++ Numeral.digits members ++ " members, expected " ++ expected.text ++ ": " ++ text

end Failure

/-- Something without a result that the program makes no promise about. -/
inductive Fault where
  /-- Nested lists of unequal lengths where an array is needed. -/
  | ragged
  /-- A text that is no number where a number is needed. -/
  | notANumber
  /-- A value of a kind that has no number. -/
  | noNumericValue
  /-- A value that is no list where one is needed. -/
  | notAList
  /-- Operands whose shapes do not fit. -/
  | shapes
  /-- An index beyond the end. -/
  | index
  /-- An object without the entry asked for. -/
  | noEntry
  /-- The largest or smallest of no numbers at all. -/
  | emptyExtremum
  /-- An infinite or undefined coefficient in a program to be solved exactly. -/
  | programNotFinite
  /-- A result too large for a number. -/
  | overflow
  /-- A division of whole numbers by zero. -/
  | divisionByZero
  /-- A cell that its column cannot show, or a column of negative width. -/
  | cell
  /-- A row with the wrong number of cells. -/
  | cellCount (columns cells : Nat)
  /-- A request for an engine that does not exist. -/
  | unknownEngine (text : String)
  /-- A call with a missing or an unexpected argument, or with an argument of the wrong kind. -/
  | argument
  /-- A record without a field it needs. -/
  | missingField
  /-- A record format without any field in it. -/
  | recordFormat
  /-- A folder where a file is to be written. -/
  | folder
deriving DecidableEq

/-- The message of a fault, where the program words it. -/
def Fault.message? : Fault → Option String
  | cellCount columns cells =>
    some ("Expected " ++ Numeral.digits columns ++ " values, got " ++ Numeral.digits cells ++ ".")
  | unknownEngine text =>
    some ("Unknown solver " ++ text ++
      "; expected one of ['central', 'ipm', 'pdhg', 'simplex'].")
  | _ => none

/-- What keeps a function from answering. -/
inductive Trouble (K : Type) where
  | failure (cause : Failure K)
  | fault (cause : Fault)
deriving DecidableEq

namespace Trouble

variable {K : Type}

/-- The trouble of parts that do not fit together. -/
def ofMismatch (cause : Mismatch) : Trouble K :=
  .failure (.mismatch cause)

/-- A result that may fail only with a failure, seen as one that may fail in any way. -/
def ofFailure {α : Type} : Except (Failure K) α → Except (Trouble K) α
  | .ok value => .ok value
  | .error cause => .error (.failure cause)

/-- A result that may fail only with a fault, seen as one that may fail in any way. -/
def ofFault {α : Type} : Except Fault α → Except (Trouble K) α
  | .ok value => .ok value
  | .error cause => .error (.fault cause)

end Trouble

end PolyTrace
