import JetPlot.Toml.Number
import JetPlot.Toml.Text

/-!
# Reading TOML

A document is a list of expressions, one to a line: headers of tables and of
arrays of tables, and keys with values (`splitDocument?`). The expressions below a
header fill its table. `Toml.ofText?` reads a document as the entries of its root
table; it fails if the text is no TOML or if its tables contradict each other.

Arrays and inline tables may be nested less than 80 deep, and a key has fewer than
80 parts. A byte order mark in front of the document is passed over.
-/

namespace JetPlot.Toml

/-- How many arrays and inline tables may be open at a time, and how many parts a
    key may have. -/
def depth : Nat := 79

/-! ## Keys -/

/-- Whether a character may stand in a key without quotes. -/
def isBare (c : Char) : Bool := c.isAlphanum || c = '-' || c = '_'

/-- Takes one part of a key off the front of a text. -/
def splitPart? (cs : List Char) : Option (String × List Char) :=
  match cs with
  | '"' :: rest => (splitBasic? rest).map fun split => (String.ofList split.1, split.2)
  | '\'' :: rest => (splitLiteral? rest).map fun split => (String.ofList split.1, split.2)
  | cs =>
    match cs.span isBare with
    | ([], _) => none
    | (part, rest) => some (String.ofList part, rest)

/-- Takes the parts of a key, with points between them, off the front of a text. -/
def splitParts? : (fuel : Nat) → List Char → Option (List String × List Char)
  | 0, _ => none
  | fuel + 1, cs => do
    let (part, rest) ← splitPart? (skipSpace cs)
    match skipSpace rest with
    | '.' :: rest =>
      let (parts, rest) ← splitParts? fuel rest
      return (part :: parts, rest)
    | rest => return ([part], rest)

/-- A key: the path to a table, and the name of an entry in it. -/
structure Key where
  /-- The path to the table. -/
  path : List String
  /-- The name of the entry. -/
  name : String
  deriving DecidableEq

/-- Takes a key and the white space around it off the front of a text. -/
def splitKey? (cs : List Char) : Option (Key × List Char) := do
  let (parts, rest) ← splitParts? depth cs
  return (⟨parts.dropLast, ← parts.getLast?⟩, rest)

/-! ## Values -/

/-- Takes the items of an array off the front of a text, up to the closing bracket.
    A comma may follow the last item. -/
def splitItems? (split? : List Char → Option (Toml × List Char)) :
    (fuel : Nat) → List Char → Option (List Toml × List Char)
  | 0, _ => none
  | fuel + 1, cs =>
    match skipBlank cs with
    | ']' :: rest => some ([], rest)
    | cs => do
      let (item, rest) ← split? cs
      match skipBlank rest with
      | ']' :: rest => return ([item], rest)
      | ',' :: rest =>
        let (items, rest) ← splitItems? split? fuel rest
        return (item :: items, rest)
      | _ => none

/-- Takes a key and its value off the front of a text. -/
def splitKeyValue? (split? : List Char → Option (Toml × List Char)) (cs : List Char) :
    Option ((Key × Toml) × List Char) := do
  let (key, rest) ← splitKey? cs
  let (value, rest) ← split? (skipSpace (← after? '=' rest))
  return ((key, value), rest)

/-- Takes the entries of an inline table off the front of a text, up to the closing
    brace. No comma may follow the last entry. -/
def splitEntries? (split? : List Char → Option (Toml × List Char)) :
    (fuel : Nat) → List Char → Option (List (Key × Toml) × List Char)
  | 0, _ => none
  | fuel + 1, cs => do
    let (entry, rest) ← splitKeyValue? split? cs
    match skipSpace rest with
    | '\x7d' :: rest => return ([entry], rest)
    | ',' :: rest =>
      let (entries, rest) ← splitEntries? split? fuel rest
      return (entry :: entries, rest)
    | _ => none

/-- Adds values with their keys to a table. -/
def fill (values : List (Key × Toml)) (entries : Entries) : Option Entries :=
  values.foldlM (fun entries value => entries.insert value.1.name value.2 value.1.path) entries

/-- Takes an inline table off the front of a text, behind its opening brace. -/
def splitInline? (split? : List Char → Option (Toml × List Char)) (cs : List Char) :
    Option (Toml × List Char) :=
  match skipSpace cs with
  | '\x7d' :: rest => some (table .inline [], rest)
  | cs => do
    let (values, rest) ← splitEntries? split? (cs.length + 1) cs
    return (table .inline (← fill values []), rest)

/-- Takes a value without items off the front of a text. -/
def splitScalar? (cs : List Char) : Option (Toml × List Char) :=
  match cs with
  | 't' :: 'r' :: 'u' :: 'e' :: rest => some (boolean true, rest)
  | 'f' :: 'a' :: 'l' :: 's' :: 'e' :: rest => some (boolean false, rest)
  | '"' :: _ | '\'' :: _ =>
    (splitString? cs).map fun split => (text (String.ofList split.1), split.2)
  | cs => splitNumeric? cs

/-- Takes a value off the front of a text; at most `depth` arrays and inline tables
    may be open at a time. -/
def splitValue? : (depth : Nat) → List Char → Option (Toml × List Char)
  | 0, cs => splitScalar? cs
  | depth + 1, cs =>
    match cs with
    | '[' :: rest =>
      (splitItems? (splitValue? depth) (rest.length + 1) rest).map fun split =>
        (array split.1, split.2)
    | '\x7b' :: rest => splitInline? (splitValue? depth) rest
    | cs => splitScalar? cs

/-! ## Documents -/

/-- An expression of a document. -/
inductive Expression
  /-- A key and its value. -/
  | value (key : Key) (value : Toml)
  /-- The header of a table. -/
  | table (key : Key)
  /-- The header of a table in an array of tables. -/
  | element (key : Key)

/-- Takes an expression and the end of its line off the front of a text. -/
def splitExpression? (cs : List Char) : Option (Expression × List Char) :=
  match cs with
  | '[' :: '[' :: rest => do
    let (key, rest) ← splitKey? rest
    return (.element key, ← afterLine? (← after? ']' (← after? ']' rest)))
  | '[' :: rest => do
    let (key, rest) ← splitKey? rest
    return (.table key, ← afterLine? (← after? ']' rest))
  | cs => do
    let ((key, value), rest) ← splitKeyValue? (splitValue? depth) cs
    return (.value key value, ← afterLine? rest)

/-- Reads the expressions of a document. -/
def splitDocument? : (fuel : Nat) → List Char → Option (List Expression)
  | 0, _ => none
  | fuel + 1, cs =>
    match skipSpace cs with
    | [] => some []
    | rest =>
      match afterLine? rest with
      | some rest => splitDocument? fuel rest
      | none => do
        let (expression, rest) ← splitExpression? rest
        return expression :: (← splitDocument? fuel rest)

/-- The values at the front of some expressions, up to the next header. -/
def leadingValues : List Expression → List (Key × Toml)
  | .value key v :: rest => (key, v) :: leadingValues rest
  | _ => []

/-- Adds the tables of all headers, with the values below them. -/
def addTables : List Expression → Entries → Option Entries
  | [], entries => some entries
  | .value _ _ :: rest, entries => addTables rest entries
  | .table key :: rest, entries => do
    addTables rest (← entries.within (Entries.define key.name (fill (leadingValues rest))) key.path)
  | .element key :: rest, entries => do
    addTables rest (← entries.within (Entries.append key.name (fill (leadingValues rest))) key.path)

/-- The root table of a document. -/
def build (expressions : List Expression) : Option Entries := do
  addTables expressions (← fill (leadingValues expressions) [])

/-- A text without the byte order mark in front of it. -/
def skipMark : List Char → List Char
  | '\ufeff' :: rest => rest
  | cs => cs

/-- Reads a document as the entries of its root table. -/
def ofText? (text : String) : Option Entries :=
  let cs := skipMark text.toList
  (splitDocument? (cs.length + 1) cs).bind build

end JetPlot.Toml
