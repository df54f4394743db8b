import PolyTrace.Decimal.Reader
import PolyTrace.Decimal.Shortest
import PolyTrace.Instances.Polygon

/-!
# The instance generator as a command

The command writes random polygons as text, to the output or to a file.  Its options are long words
that may be shortened as long as they stay clear, with their value after them or behind an equals
sign; a word that looks like a negative number counts as a value.  The last of several values of an
option counts.  Two dashes end the options; behind an equals sign they stand for no value at all,
which does no harm to a seed or a file.  Whatever cannot be used makes the command fail.
-/

namespace PolyTrace.CommandLine

/-- The options of the command. -/
inductive Flag where
  | help
  | lines
  | seed
  | count
  | out
deriving DecidableEq

/-- The spellings of the options. -/
def spellings : List (String × Flag) :=
  [("-h", .help), ("--help", .help), ("--lines", .lines), ("--seed", .seed), ("--count", .count),
    ("--out", .out)]

/-- What the command is asked for.  Each of these may be left without a value. -/
structure Settings where
  lines : Option Int := some 6
  seed : Option Int := none
  count : Option Int := some 1
  out : Option String := none
deriving DecidableEq

/-- What an argument is: a value, the end of the options, an option that may bring its value with
it and is spelled with one letter or with a word, or an unknown option. -/
inductive Word where
  | value
  | divider
  | option (flag : Flag) (attached : Option (List Char)) (short : Bool)
  | unknown
deriving DecidableEq

/-- A spelling of one letter after one dash. -/
def isShort (spelling : String) : Bool :=
  spelling.length = 2

/-- The text before the first equals sign, and the text after it if there is one. -/
def splitEquals : List Char → List Char × Option (List Char)
  | [] => ([], none)
  | c :: rest =>
    if c = '=' then ([], some rest)
    else
      let (front, back) := splitEquals rest
      (c :: front, back)

/-- The options that begin with the given text. -/
def matching (text : List Char) : List (String × Flag) :=
  spellings.filter fun entry => text.isPrefixOf entry.1.toList

/-- A digit of any script. -/
def isDigit (c : Char) : Bool :=
  (Digit.value? c).isSome

/-- Some digits, at least one, and at most the end of a line after them. -/
def isDigits (chars : List Char) : Bool :=
  let rest := chars.dropWhile isDigit
  rest.length < chars.length && (rest = [] || rest = ['\n'])

/-- The text looks like a negative number: a dash and digits, or digits after a point. -/
def looksNegative (chars : List Char) : Bool :=
  match chars with
  | '-' :: rest =>
    isDigits rest ||
      match rest.dropWhile isDigit with
      | '.' :: fraction => isDigits fraction
      | _ => false
  | _ => false

/-- What a word that is no exact option can still be: a short option with text attached, the
beginning of one long option, or nothing.  Two candidates are unclear. -/
def candidates (chars : List Char) : List Word :=
  match chars with
  | '-' :: '-' :: _ =>
    let (front, attached) := splitEquals chars
    (matching front).map fun entry => .option entry.2 attached (isShort entry.1)
  | '-' :: c :: rest =>
    spellings.filterMap fun entry =>
      if entry.1.toList = ['-', c] then some (.option entry.2 (some rest) (isShort entry.1)) else none
  | _ => []

/-- The option that a word spells out, alone or before an equals sign. -/
def spelledOut? (word : String) : Option Word :=
  match spellings.find? fun entry => entry.1 = word with
  | some entry => some (.option entry.2 none (isShort entry.1))
  | none =>
    match splitEquals word.toList with
    | (front, some attached) =>
      (spellings.find? fun entry => entry.1.toList = front).map fun entry =>
        .option entry.2 (some attached) (isShort entry.1)
    | (_, none) => none

/-- What a word before the end of the options is; nothing if it is unclear. -/
def classify (word : String) : Option Word :=
  match word.toList with
  | '-' :: rest =>
    match spelledOut? word with
    | some found => some found
    | none =>
      if rest.isEmpty then some .value
      else
        match candidates word.toList with
        | [one] => some one
        | _ :: _ :: _ => none
        | [] =>
          if looksNegative word.toList || word.toList.contains ' ' then some .value
          else some .unknown
  | _ => some .value

/-- What all arguments are; nothing if one of them is unclear. -/
def classifyAll : List String → Option (List (Word × String))
  | [] => some []
  | word :: rest =>
    if word = "--" then some ((.divider, word) :: rest.map fun value => (.value, value))
    else
      match classify word, classifyAll rest with
      | some kind, some others => some ((kind, word) :: others)
      | _, _ => none

/-- How reading the arguments ends. -/
inductive Request where
  | generate (settings : Settings)
  | help
  | misuse
deriving DecidableEq

/-- The whole number that a value stands for, if there is a value. -/
def wholeNumber? : Option String → Option (Option Int)
  | none => some none
  | some text => (Reader.int? text).map some

/-- Use the value of an option, or leave the option without one. -/
def apply (settings : Settings) (flag : Flag) (value : Option String) : Option Settings :=
  match flag with
  | .help => none
  | .lines => (wholeNumber? value).map fun n => { settings with lines := n }
  | .seed => (wholeNumber? value).map fun n => { settings with seed := n }
  | .count => (wholeNumber? value).map fun n => { settings with count := n }
  | .out => some { settings with out := value }

/-- The value attached to an option.  Two dashes stand for none. -/
def attachedValue (text : List Char) : Option String :=
  if text = ['-', '-'] then none else some (String.ofList text)

/-- The value that follows an option, and the words after it. -/
def following? : List (Word × String) → Option (String × List (Word × String))
  | (.value, value) :: rest => some (value, rest)
  | _ => none

/-- Ask for help with text attached.  Letters attached to the short spelling, at once or behind an
equals sign, are taken for more short options, all of which must ask for help. -/
def helpWith (attached : Option (List Char)) (short : Bool) : Request :=
  match attached with
  | none => .help
  | some [] => .misuse
  | some text => if short && text.all fun c => c = 'h' then .help else .misuse

/-- Read the words from the first to the last; `spare` tells of a word that could not be used. -/
def readWords : (fuel : Nat) → Settings → (spare : Bool) → List (Word × String) → Request
  | 0, _, _, _ => .misuse
  | _ + 1, settings, spare, [] => if spare then .misuse else .generate settings
  | fuel + 1, settings, spare, (word, _) :: rest =>
    match word with
    | .value => readWords fuel settings true rest
    | .divider => readWords fuel settings true rest
    | .unknown => readWords fuel settings true rest
    | .option .help attached short => helpWith attached short
    | .option flag (some attached) _ =>
      match apply settings flag (attachedValue attached) with
      | some settings => readWords fuel settings spare rest
      | none => .misuse
    | .option flag none _ =>
      match following? rest with
      | none => .misuse
      | some (value, rest) =>
        match apply settings flag (some value) with
        | some settings => readWords fuel settings spare rest
        | none => .misuse

/-- Read the arguments of the command. -/
def read (arguments : List String) : Request :=
  match classifyAll arguments with
  | none => .misuse
  | some words => readWords (words.length + 1) {} false words

/-! ## The text of instances -/

/-- Items on lines of their own between brackets, indented by two blanks for each level. -/
def block (opening closing : String) (depth : Nat) (items : List String) : String :=
  let indent (level : Nat) := String.ofList (List.replicate (2 * level) ' ')
  if items.isEmpty then opening ++ closing
  else
    opening ++ "\n" ++
      ",\n".intercalate (items.map fun item => indent (depth + 1) ++ item) ++
      "\n" ++ indent depth ++ closing

/-- A list of numbers. -/
def numbers (depth : Nat) (values : List Float) : String :=
  block "[" "]" depth (values.map fun value => Shortest.render (Binary64.readout value))

/-- An instance. -/
def instanceText (depth : Nat) (polygon : Polygon.Instance) : String :=
  block "\x7b" "\x7d" depth
    ["\"lines\": " ++ block "[" "]" (depth + 1) (polygon.lines.map (numbers (depth + 2))),
      "\"objective\": " ++ numbers (depth + 1) polygon.objective]

/-- A list of instances. -/
def payload (polygons : List Polygon.Instance) : String :=
  block "[" "]" 0 (polygons.map (instanceText 1))

/-- The instances that the settings ask for, with seeds that count up.  There is no number of
instances to go by if it was left without a value, and no instance without a number of rows. -/
def instances (settings : Settings) : Except Fault (List Polygon.Instance) :=
  match settings.count with
  | none => .error .argument
  | some count =>
    (List.range count.toNat).mapM fun (k : Nat) =>
      match settings.lines with
      | none => .error .argument
      | some lines => Polygon.random lines (settings.seed.getD 0 + (k : Int))

/-- The text that explains the command. -/
def helpText : String :=
  "\n".intercalate
    ["usage: generate_instances.py [-h] [--lines LINES] [--seed SEED]",
      "                             [--count COUNT] [--out OUT]",
      "",
      "Generate random 2-D LP instances.",
      "",
      "options:",
      "  -h, --help     show this help message and exit",
      "  --lines LINES  Number of inequalities",
      "  --seed SEED    Random seed",
      "  --count COUNT  Number of instances",
      "  --out OUT      Optional output file",
      ""]

/-- What the command does: the exit code, the text written out, and the text of a file. -/
structure Effect where
  exitCode : Nat
  output : String := ""
  file : Option (String × String) := none
deriving DecidableEq

/-- A path that only goes up or stays where it is leads to a folder. -/
def isFolder (path : String) : Bool :=
  (path.splitOn "/").all fun name => name = "" || name = "." || name = ".."

/-- Run the command. -/
def run (arguments : List String) : Except Fault Effect :=
  match read arguments with
  | .misuse => .ok { exitCode := 2 }
  | .help => .ok { exitCode := 0, output := helpText }
  | .generate settings => do
    let text := payload (← instances settings)
    match settings.out with
    | some path =>
      if isFolder path then throw .folder
      return { exitCode := 0, file := some (path, text) }
    | none => return { exitCode := 0, output := text ++ "\n" }

end PolyTrace.CommandLine
