import PolyTrace.Arith.Binary64

/-!
# Plain data

Requests, options and arrays arrive as plain data: nothing, a flag, a whole number, a machine number,
text, a list, or an object with named fields in the order in which they were given.  An array of
zeros of a given shape stands for itself, since a shape with a zero in it cannot be read off nested
lists.
-/

namespace PolyTrace

/-- A piece of plain data. -/
inductive Datum where
  | null
  | flag (value : Bool)
  | whole (value : Int)
  | number (value : Float)
  | text (value : String)
  | list (items : List Datum)
  | object (fields : List (String × Datum))
  | zeros (shape : List Nat)
deriving Inhabited

namespace Datum

/-- The field of the given name. -/
def field? (name : String) (fields : List (String × Datum)) : Option Datum :=
  (fields.find? fun entry => entry.1 = name).map Prod.snd

/-- A missing field and an empty one mean the same. -/
def present? : Option Datum → Option Datum
  | some null => none
  | other => other

/-- A list of machine numbers as data. -/
def ofNumbers (values : List Float) : Datum :=
  .list (values.map .number)

/-- Something counts as true unless it is nothing, zero or empty. -/
def truth : Datum → Bool
  | null => false
  | flag value => value
  | whole value => value ≠ 0
  | number value => !(value == 0)
  | text value => !value.isEmpty
  | list items => !items.isEmpty
  | object fields => !fields.isEmpty
  | zeros _ => false

end Datum

end PolyTrace
