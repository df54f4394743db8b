import PolyTrace.Data.Quoted
import PolyTrace.Log.Diary
import PolyTrace.Table

/-!
# The layout of a log line

A layout is text with fields in it, such as `%(levelname)s`.  A field has a key, and may have flags, a
width and a number of places; it ends in a letter, which tells how its value is shown.  Two percent
signs stand for one.

A layout is accepted if it has a field somewhere.  Whether all of it can be used shows only when a
line is written: a record whose line has no text is not written at all.
-/

namespace PolyTrace

/-- A field of a layout. -/
structure RecordField where
  key : String
  flags : List Char := []
  width : Nat := 0
  places : Option Nat := none
  letter : Char := 's'
deriving DecidableEq

/-- A piece of a layout: text, a field, or something that cannot be used. -/
inductive RecordPiece where
  | text (value : String)
  | field (spec : RecordField)
  | broken
deriving DecidableEq

/-- The layout of a log line. -/
abbrev RecordLayout :=
  List RecordPiece

namespace RecordField

/-! ## Reading a field -/

/-- The key of a field, up to the bracket that closes it, and the text after that; `depth` brackets
are open inside the key. -/
def key? : (depth : Nat) → List Char → Option (List Char × List Char)
  | _, [] => none
  | depth, c :: rest =>
    let more (depth : Nat) := (key? depth rest).map fun found => (c :: found.1, found.2)
    match c, depth with
    | ')', 0 => some ([], rest)
    | ')', depth + 1 => more depth
    | '(', depth => more (depth + 1)
    | _, depth => more depth

/-- The digits at the front, as a number, and the text after them. -/
def number (chars : List Char) : Nat × List Char :=
  let digits := chars.takeWhile Char.isDigit
  (digits.foldl (fun n c => 10 * n + (c.toNat - 48)) 0, chars.drop digits.length)

/-- A flag of a field. -/
def isFlag (c : Char) : Bool :=
  "#0+ -".toList.contains c

/-- A letter that may stand before the last one without a meaning. -/
def isLength (c : Char) : Bool :=
  "hlL".toList.contains c

/-- The flags, width, places and letter of a field, and the text after it. -/
def ofTail? (key : List Char) (chars : List Char) : Option (RecordField × List Char) :=
  let flags := chars.takeWhile isFlag
  let (width, afterWidth) := number (chars.drop flags.length)
  let (places, afterPlaces) : Option Nat × List Char :=
    match afterWidth with
    | '.' :: more => (some (number more).1, (number more).2)
    | other => (none, other)
  let last :=
    match afterPlaces with
    | c :: rest => if isLength c then rest else c :: rest
    | [] => []
  match last with
  | letter :: rest => some (⟨String.ofList key, flags, width, places, letter⟩, rest)
  | [] => none

/-- The piece that starts after a percent sign, and the text after it.  Without a key there can only
be another percent sign. -/
def piece? : List Char → Option (RecordPiece × List Char)
  | '%' :: rest => some (.text "%", rest)
  | '(' :: chars =>
    ((key? 0 chars).bind fun found => ofTail? found.1 found.2).map fun found =>
      (.field found.1, found.2)
  | _ => none

/-! ## Accepting a layout -/

/-- The letters that may end a field, in any case. -/
def isEnd (c : Char) : Bool :=
  "diouxefgcrsa%".toList.contains c.toLower

/-- A number or a star at the front is passed over; nothing if there is none. -/
def afterAmount? : List Char → Option (List Char)
  | '*' :: rest => some rest
  | chars =>
    let rest := chars.dropWhile Char.isDigit
    if rest.length < chars.length then some rest else none

/-- A field starts after a percent sign: a key of letters, digits and underscores in brackets, flags,
a width, a point with a number of places, and a letter. -/
def startsAfterPercent : List Char → Bool
  | '(' :: chars =>
    let afterKey := chars.dropWhile fun c => c.isAlphanum || c = '_'
    match afterKey with
    | ')' :: rest =>
      let afterFlags := rest.dropWhile isFlag
      let afterWidth := (afterAmount? afterFlags).getD afterFlags
      let last? :=
        match afterWidth with
        | '.' :: more => afterAmount? more
        | other => some other
      match last? with
      | some (letter :: _) => afterKey.length < chars.length && isEnd letter
      | _ => false
    | _ => false
  | _ => false

/-- Text has a field somewhere. -/
def occursIn : List Char → Bool
  | [] => false
  | c :: rest => (c = '%' && startsAfterPercent rest) || occursIn rest

/-! ## Writing a field -/

/-- A text in its field; `front` is kept at the left of the zeros that fill up a number. -/
def place (spec : RecordField) (front body : String) (isNumber : Bool) : String :=
  if spec.flags.contains '-' then padRight spec.width (front ++ body)
  else if isNumber && spec.flags.contains '0' then
    front ++ Numeral.padLeft '0' (spec.width - front.length) body
  else Numeral.padLeft ' ' spec.width (front ++ body)

/-- A text in its field, cut to the number of places. -/
def placeText (spec : RecordField) (text : String) : String :=
  let cut :=
    match spec.places with
    | some places => String.ofList (text.toList.take places)
    | none => text
  spec.place "" cut false

/-- The sign in front of a number. -/
def sign (spec : RecordField) (negative : Bool) : String :=
  if negative then "-"
  else if spec.flags.contains '+' then "+"
  else if spec.flags.contains ' ' then " "
  else ""

/-- A whole number in its field, with at least as many digits as places. -/
def placeWhole (spec : RecordField) (base : Nat) (mark : String) (value : Int) : String :=
  let digits := String.ofList (Nat.toDigits base value.natAbs)
  let front := spec.sign (value < 0) ++ if spec.flags.contains '#' then mark else ""
  spec.place front (Numeral.padLeft '0' (spec.places.getD 1) digits) true

/-- A number in its field, as a numeral of a style that depends on the number of places. -/
def placeNumeral (spec : RecordField) (style : Nat → Numeral.Style) (value : Int) : String :=
  let body := Numeral.magnitude (style (spec.places.getD 6)) value.natAbs 1
  spec.place (spec.sign (value < 0)) body true

/-- Text in capital letters. -/
def capital (text : String) : String :=
  text.map Char.toUpper

/-- A number in its field; nothing if the letter shows no number. -/
def placeNumber? (spec : RecordField) (value : Int) : Option String :=
  match spec.letter with
  | 'd' => some (spec.placeWhole 10 "" value)
  | 'i' => some (spec.placeWhole 10 "" value)
  | 'u' => some (spec.placeWhole 10 "" value)
  | 'o' => some (spec.placeWhole 8 "0o" value)
  | 'x' => some (spec.placeWhole 16 "0x" value)
  | 'X' => some (capital (spec.placeWhole 16 "0x" value))
  | 'e' => some (spec.placeNumeral .scientific value)
  | 'f' => some (spec.placeNumeral .fixed value)
  | 'g' => some (spec.placeNumeral (fun digits => .general (max digits 1)) value)
  | 'E' => some (capital (spec.placeNumeral .scientific value))
  | 'F' => some (capital (spec.placeNumeral .fixed value))
  | 'G' => some (capital (spec.placeNumeral (fun digits => .general (max digits 1)) value))
  | 'c' =>
    if value.toNat.isValidChar then
      some (spec.place "" (String.singleton (Char.ofNat value.toNat)) false)
    else none
  | _ => none

/-- Text in its field; nothing if the letter shows no text. -/
def placeText? (spec : RecordField) (text : String) : Option String :=
  match spec.letter with
  | 's' => some (spec.placeText text)
  | 'r' => some (spec.placeText (Quoted.text text))
  | 'a' => some (spec.placeText (Quoted.plainText text))
  | 'c' => if text.length = 1 then some (spec.place "" text false) else none
  | _ => none

/-- A level in its field. -/
def placeLevel? (spec : RecordField) (level : Level) : Option String :=
  match spec.letter with
  | 's' => some (spec.placeText level.text)
  | 'r' => some (spec.placeText level.text)
  | 'a' => some (spec.placeText level.text)
  | _ => spec.placeNumber? level.value

/-- The last part of a logger's name. -/
def lastPart (name : String) : String :=
  String.ofList (name.toList.reverse.takeWhile fun c => c ≠ '.').reverse

/-- The text that a record has under a key. -/
def textOf? (record : LogRecord) : (key : String) → Option String
  | "levelname" => some record.level.word
  | "name" => some record.logger
  | "message" => some record.text
  | "msg" => some record.text
  | "module" => some (lastPart record.logger)
  | "threadName" => some "MainThread"
  | "processName" => some "MainProcess"
  | _ => none

/-- The text of a field for a record: nothing if the key is unknown or the letter does not fit. -/
def render? (spec : RecordField) (record : LogRecord) : Option String :=
  if spec.key = "levelno" then spec.placeLevel? record.level
  else (textOf? record spec.key).bind spec.placeText?

end RecordField

namespace RecordLayout

/-- The pieces of a layout, read with at most `fuel` characters; `seen` holds the text before, last
character first. -/
def pieces : (fuel : Nat) → (seen : List Char) → List Char → RecordLayout
  | 0, seen, _ => [.text (String.ofList seen.reverse)]
  | _ + 1, seen, [] => [.text (String.ofList seen.reverse)]
  | fuel + 1, seen, c :: rest =>
    if c = '%' then
      match RecordField.piece? rest with
      | some (piece, after) => .text (String.ofList seen.reverse) :: piece :: pieces fuel [] after
      | none => [.broken]
    else pieces fuel (c :: seen) rest

/-- The pieces of a text. -/
def ofText (text : String) : RecordLayout :=
  pieces (text.length + 1) [] text.toList

/-- Read a layout, which has to have a field. -/
def parse (text : String) : Except Fault RecordLayout :=
  if RecordField.occursIn text.toList then .ok (ofText text) else .error .recordFormat

/-- The layout of a line when none is asked for. -/
def standardText : String := "[%(levelname)s] %(name)s: %(message)s"

/-- The layout of a line when none is asked for. -/
def standard : RecordLayout :=
  ofText standardText

/-- The layout that shows the message alone. -/
def messageOnly : RecordLayout :=
  [.field { key := "message" }]

/-- The text of one piece for a record. -/
def pieceText? (record : LogRecord) : RecordPiece → Option String
  | .text value => some value
  | .field spec => spec.render? record
  | .broken => none

/-- The line of a record, if every piece of the layout has a text for it. -/
def render? (layout : RecordLayout) (record : LogRecord) : Option String :=
  (layout.mapM (pieceText? record)).map String.join

end RecordLayout

end PolyTrace
