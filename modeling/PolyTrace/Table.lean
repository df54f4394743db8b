import PolyTrace.Decimal.Reader
import PolyTrace.Decimal.Shortest
import PolyTrace.Failure

/-!
# Tables of fixed width

An engine writes one line per iteration.  A column has a title, a width and a layout; numbers stand
at the right of their column and text at the left, a cell that is too long is not cut, and a number
without a finite value is written as a word.  Columns are separated by one blank.
-/

namespace PolyTrace

/-- How a column shows its cells. -/
inductive Layout where
  /-- The plain text of the value. -/
  | plain
  /-- Whole numbers. -/
  | whole
  /-- Text. -/
  | text
  /-- Numerals of one form. -/
  | numeral (form : Numeral)
deriving DecidableEq

/-- A value to be shown. -/
inductive Cell where
  | whole (value : Int)
  | number (value : Readout)
  | text (value : String)
  | flag (value : Bool)
deriving DecidableEq

/-- A column of a table. -/
structure Column where
  title : String
  width : Nat
  layout : Layout := .plain
deriving DecidableEq

namespace Layout

/-- The layout named by a short code: an optional plus sign, an optional point with a number of
places, and a letter. -/
def ofCode? (code : String) : Option Layout :=
  match code.toList with
  | [] => some .plain
  | ['d'] => some .whole
  | ['s'] => some .text
  | chars =>
    let (plus, rest) :=
      match chars with
      | '+' :: rest => (true, rest)
      | rest => (false, rest)
    match rest with
    | '.' :: rest =>
      match Reader.digitRun rest 0 0 with
      | (_, 0, _) => none
      | (places, _, ['f']) => some (.numeral ⟨.fixed places, plus⟩)
      | (places, _, ['e']) => some (.numeral ⟨.scientific places, plus⟩)
      | (places, _, ['g']) => some (.numeral ⟨.general (max places 1), plus⟩)
      | _ => none
    | ['f'] => some (.numeral ⟨.fixed 6, plus⟩)
    | ['e'] => some (.numeral ⟨.scientific 6, plus⟩)
    | ['g'] => some (.numeral ⟨.general 6, plus⟩)
    | _ => none

end Layout

/-- Text filled up with blanks on the right. -/
def padRight (width : Nat) (text : String) : String :=
  text ++ String.ofList (List.replicate (width - text.length) ' ')

namespace Column

/-- A whole number shown by a numeral is first brought to the nearest machine number. -/
def wholeNumeral (form : Numeral) (value : Int) : Except Fault String :=
  match Binary64.ofInt? value with
  | some number => .ok (form.render (Binary64.readout number))
  | none => .error .overflow

/-- The text of a cell, before it is put into its column. -/
def content (layout : Layout) : Cell → Except Fault String
  | .text value => .ok value
  | .whole value =>
    match layout with
    | .plain => .ok (intText value)
    | .whole => .ok (intText value)
    | .text => .error .cell
    | .numeral form => wholeNumeral form value
  | .flag value =>
    match layout with
    | .plain => .ok (if value then "True" else "False")
    | .whole => .ok (if value then "1" else "0")
    | .text => .error .cell
    | .numeral form => wholeNumeral form (if value then 1 else 0)
  | .number value =>
    if value.isFinite then
      match layout with
      | .plain => .ok (Shortest.render value)
      | .whole => .error .cell
      | .text => .error .cell
      | .numeral form => .ok (form.render value)
    else .ok (Shortest.render value)

/-- The title in its column. -/
def header (column : Column) : String :=
  match column.layout with
  | .text => padRight column.width column.title
  | _ => Numeral.padLeft ' ' column.width column.title

/-- A cell in its column. -/
def show? (column : Column) (cell : Cell) : Except Fault String :=
  (content column.layout cell).map fun text =>
    match cell with
    | .text _ => padRight column.width text
    | _ => Numeral.padLeft ' ' column.width text

end Column

/-- The columns of a table. -/
abbrev Table :=
  List Column

namespace Table

/-- The line of titles. -/
def header (table : Table) : String :=
  " ".intercalate (table.map Column.header)

/-- The line of a row. -/
def row? (table : Table) (cells : List Cell) : Except Fault String :=
  if cells.length = table.length then
    ((table.zip cells).mapM fun entry => Column.show? entry.1 entry.2).map fun texts =>
      " ".intercalate texts
  else .error (.cellCount table.length cells.length)

/-- The line of a row whose cells fit; one that does not fit is left blank. -/
def row (table : Table) (cells : List Cell) : String :=
  match table.row? cells with
  | .ok line => line
  | .error _ => ""

end Table

/-! ## The columns of the engines -/

namespace Column

/-- The iteration count. -/
def iteration : Column := ⟨"Iter", 5, .whole⟩

/-- The first coordinate. -/
def firstCoordinate : Column := ⟨"x", 8, .numeral ⟨.fixed 2, true⟩⟩

/-- The second coordinate. -/
def secondCoordinate : Column := ⟨"y", 8, .numeral ⟨.fixed 2, true⟩⟩

/-- The value of the objective. -/
def objective : Column := ⟨"Obj", 10, .numeral ⟨.scientific 1, true⟩⟩

/-- The largest violation of a row. -/
def infeasibility : Column := ⟨"Infeas", 10, .numeral ⟨.scientific 1, true⟩⟩

/-- The mean complementarity, or the barrier level. -/
def barrier : Column := ⟨"mu", 10, .numeral ⟨.scientific 1, false⟩⟩

/-- The relative error. -/
def relativeError : Column := ⟨"eps", 10, .numeral ⟨.scientific 1, false⟩⟩

/-- A set of columns or rows as a string of zeros and ones. -/
def basis (width : Nat) : Column := ⟨"basis", width, .text⟩

end Column

/-- The cell of a number. -/
def Cell.ofNumber {K : Type} [ReadsOut K] (value : K) : Cell :=
  .number (ReadsOut.readout value)

/-- A list of yes and no as a string of ones and zeros. -/
def flagText (flags : List Bool) : String :=
  String.ofList (flags.map fun flag => if flag then '1' else '0')

end PolyTrace
