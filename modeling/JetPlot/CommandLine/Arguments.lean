import JetPlot.Decimal.Reader
import JetPlot.Files.Path
import JetPlot.Log
import JetPlot.Settings.Codec

/-!
# Command-line arguments

Arguments are read from the left. A word with two dashes in front names an option,
whose value is the rest of the word behind an equals sign or else the next word,
or a switch, which takes no value. Any other word is the input. Behind a word of
two dashes only, everything is input; a single dash is an ordinary word.

The value in a word of its own is only examined when the next option, switch or
input turns up, or at the end (`Reading.settle`). So a word that means nothing is
reported before a bad value in front of it.
-/

namespace JetPlot

/-- Why arguments cannot be used. -/
inductive ArgumentFault
  /-- A word means nothing. -/
  | unknown
  /-- A value is missing, or is none of the possible ones. -/
  | invalidValue
  /-- A value is no number, or is out of range. -/
  | badNumber
  /-- An option or a switch is given twice, or the demonstration together with an
      input. -/
  | conflict
  /-- A switch is given a value. -/
  | unwantedValue
  /-- The user asks for help. -/
  | help
  /-- The user asks for the version. -/
  | version
  deriving DecidableEq

/-- The arguments of the program. -/
structure Arguments where
  /-- The program to render; a dash stands for the standard input. -/
  input : Option String
  /-- The file to write instead of the standard output. -/
  out : Option Files.Path
  /-- The width of the picture in pixels. -/
  width : Option UInt32
  /-- The height of the picture in pixels. -/
  height : Option UInt32
  /-- The thickness of printed lines, in program units. -/
  lineWidth : Option Float
  /-- The padding around what is drawn, in program units. -/
  padding : Option Float
  /-- The settings file. -/
  config : Option Files.Path
  /-- Whether a report is wanted. -/
  stats : Bool
  /-- Whether the demonstration program is rendered. -/
  demo : Bool
  /-- The format of log lines, if it is given. -/
  logFormat : Option Log.Format
  deriving DecidableEq

namespace Arguments

/-- No arguments. -/
def empty : Arguments := ⟨none, none, none, none, none, none, none, false, false, none⟩

/-- What has a value. -/
inductive Parameter
  /-- The program to render. -/
  | input
  /-- The file to write. -/
  | out
  /-- The width of the picture. -/
  | width
  /-- The height of the picture. -/
  | height
  /-- The thickness of printed lines. -/
  | lineWidth
  /-- The padding around what is drawn. -/
  | padding
  /-- The settings file. -/
  | config
  /-- The format of log lines. -/
  | logFormat
  deriving DecidableEq

/-- What has no value. -/
inductive Switch
  /-- A report is wanted. -/
  | stats
  /-- The demonstration program is rendered. -/
  | demo
  /-- Help is wanted. -/
  | help
  /-- The version is wanted. -/
  | version
  deriving DecidableEq

/-- The meaning of a name behind two dashes. -/
def names : List (String × (Parameter ⊕ Switch)) :=
  [("out", .inl .out), ("width", .inl .width), ("height", .inl .height),
   ("line-width", .inl .lineWidth), ("padding", .inl .padding), ("config", .inl .config),
   ("log-format", .inl .logFormat), ("stats", .inr .stats), ("demo", .inr .demo),
   ("help", .inr .help), ("version", .inr .version)]

/-! ## Values -/

/-- A number of pixels. -/
def readPixels (value : String) : Except ArgumentFault UInt32 :=
  let (negative, digits) := Decimal.readSign value.toList
  if digits ≠ [] ∧ digits.all Char.isDigit then
    let n : Int := Decimal.ofDigitChars digits
    match Settings.pixels? (if negative then -n else n) with
    | some pixels => .ok pixels
    | none => .error .badNumber
  else .error .badNumber

/-- A number. -/
def readNumber (value : String) : Except ArgumentFault Float :=
  match readFloat? value.toList with
  | some x => .ok x
  | none => .error .badNumber

/-- A path, which must not be empty. -/
def readPath (value : String) : Except ArgumentFault Files.Path :=
  if value = "" then .error .invalidValue else .ok ⟨value⟩

/-- A format of log lines. -/
def readLogFormat (value : String) : Except ArgumentFault Log.Format :=
  match value with
  | "text" => .ok .text
  | "json" => .ok .json
  | _ => .error .invalidValue

/-- The value of a parameter that must not have one yet. -/
def once {α : Type} (given : Option α) (value : Except ArgumentFault α) :
    Except ArgumentFault (Option α) :=
  if given.isSome then .error .conflict else value.map some

/-- Gives a parameter its value. -/
def assign (a : Arguments) (p : Parameter) (value : String) : Except ArgumentFault Arguments := do
  match p with
  | .input => return { a with input := ← once a.input (.ok value) }
  | .out => return { a with out := ← once a.out (readPath value) }
  | .width => return { a with width := ← once a.width (readPixels value) }
  | .height => return { a with height := ← once a.height (readPixels value) }
  | .lineWidth => return { a with lineWidth := ← once a.lineWidth (readNumber value) }
  | .padding => return { a with padding := ← once a.padding (readNumber value) }
  | .config => return { a with config := ← once a.config (readPath value) }
  | .logFormat => return { a with logFormat := ← once a.logFormat (readLogFormat value) }

/-- Turns a switch on, or stops for what it asks. -/
def turnOn (a : Arguments) : Switch → Except ArgumentFault Arguments
  | .stats => if a.stats then .error .conflict else .ok { a with stats := true }
  | .demo => if a.demo then .error .conflict else .ok { a with demo := true }
  | .help => .error .help
  | .version => .error .version

/-! ## Words -/

/-- The state of the reading between two words. -/
structure Reading where
  /-- The arguments so far. -/
  arguments : Arguments
  /-- The last parameter with its value, not examined yet; the value may still be
      missing. -/
  pending : Option (Parameter × Option String)
  /-- Whether there was an input. -/
  hasInput : Bool
  /-- Whether all words to come are inputs. -/
  onlyInput : Bool
  deriving DecidableEq

namespace Reading

/-- Before the first word. -/
def initial : Reading := ⟨.empty, none, false, false⟩

/-- Examines the pending value. -/
def settle (r : Reading) : Except ArgumentFault Reading :=
  match r.pending with
  | none => .ok r
  | some (_, none) => .error .invalidValue
  | some (p, some value) => do
    return { r with arguments := ← r.arguments.assign p value, pending := none }

/-- Reads an input. -/
def input (r : Reading) (word : String) : Except ArgumentFault Reading :=
  if r.hasInput then .error .unknown
  else do
    let r ← r.settle
    return { r with pending := some (.input, some word), hasInput := true }

/-- Reads an option or a switch, with the value behind its equals sign. -/
def named (r : Reading) (name : String) (value : Option String) : Except ArgumentFault Reading :=
  match names.lookup name, value with
  | none, _ => .error .unknown
  | some (.inl p), none => do return { ← r.settle with pending := some (p, none) }
  | some (.inl p), some value => do
    let r ← r.settle
    return { r with arguments := ← r.arguments.assign p value }
  | some (.inr _), some _ => .error .unwantedValue
  | some (.inr s), none => do
    let r ← r.settle
    return { r with arguments := ← r.arguments.turnOn s }

/-- The name and the value of a word behind its dashes. -/
def splitName (cs : List Char) : String × Option String :=
  match cs.span (· ≠ '=') with
  | (name, _ :: value) => (String.ofList name, some (String.ofList value))
  | (name, []) => (String.ofList name, none)

/-- Reads a word. -/
def word (r : Reading) (w : String) : Except ArgumentFault Reading :=
  if r.onlyInput then r.input w
  else
    match w.toList with
    | ['-', '-'] => .ok { r with onlyInput := true }
    | '-' :: '-' :: cs =>
      let (name, value) := splitName cs
      r.named name value
    | '-' :: 'h' :: _ => r.named "help" none
    | '-' :: 'V' :: _ => r.named "version" none
    | '-' :: _ :: _ => .error .unknown
    | _ =>
      match r.pending with
      | some (p, none) => .ok { r with pending := some (p, some w) }
      | _ => r.input w

end Reading

/-- Reads the words of a command line. -/
def read (words : List String) : Except ArgumentFault Arguments := do
  let r ← words.foldlM Reading.word .initial
  let a := (← r.settle).arguments
  if a.demo ∧ a.input.isSome then .error .conflict else .ok a

end Arguments

end JetPlot
