import JetPlot.Decimal.Style

/-!
# JSON values

A `Json` is a JSON value as it is written: numbers keep their numerals, objects
keep the order and the repetitions of their keys. `compact` writes a value without
any white space, `pretty` with one entry per line.
-/

namespace JetPlot

/-- A JSON value. -/
inductive Json
  /-- The word `null`. -/
  | null
  /-- A truth value. -/
  | bool (value : Bool)
  /-- A number with the given numeral. -/
  | number (numeral : List Char)
  /-- A string. It is `none` if an escape in it names half of a surrogate pair only,
      so that no text corresponds to it. -/
  | text (value : Option String)
  /-- An array. -/
  | array (items : List Json)
  /-- An object with its keys, which are strings, and their values. -/
  | object (entries : List (Option String × Json))

namespace Json

/-- How numbers are written: plainly from `0.00001` up to sixteen digits before the
    point, otherwise with an exponent that has a sign. -/
def style : Style where
  tie := .even
  positional leading := -5 ≤ leading ∧ leading < 16
  pointed := true
  signedExponent := true

/-- A double as a value. What is not finite is `null`. -/
def ofFloat (x : Float) : Json := if x.isFinite then number (style.chars x) else null

/-- A natural number as a value. -/
def ofNat (n : Nat) : Json := number (Decimal.digitChars n)

/-- A text as a value. -/
def ofString (s : String) : Json := text (some s)

/-- An optional value, `null` if it is missing. -/
def ofOption {α : Type} (write : α → Json) (value : Option α) : Json := value.elim null write

/-- A list of values. -/
def ofList {α : Type} (write : α → Json) (values : List α) : Json := array (values.map write)

/-- An object with the given keys and values. -/
def ofEntries (entries : List (String × Json)) : Json :=
  object (entries.map fun entry => (some entry.1, entry.2))

/-- A digit of a number with base sixteen. -/
def hexDigit (n : Nat) : Char := Nat.digitChar n

/-- A character of a string, escaped if it has to be. -/
def escape (c : Char) : List Char :=
  match c with
  | '"' => ['\\', '"']
  | '\\' => ['\\', '\\']
  | '\x08' => ['\\', 'b']
  | '\t' => ['\\', 't']
  | '\n' => ['\\', 'n']
  | '\x0c' => ['\\', 'f']
  | '\r' => ['\\', 'r']
  | c =>
    if c.toNat < 0x20 then ['\\', 'u', '0', '0', hexDigit (c.toNat / 16), hexDigit (c.toNat % 16)]
    else [c]

/-- A text in quotes. -/
def quoted (s : String) : List Char := '"' :: s.toList.flatMap escape ++ ['"']

/-- A string in quotes. What is no text is written as an empty one. -/
def quotedOption (s : Option String) : List Char := quoted (s.getD "")

/-- Texts with a comma between them. -/
def commaSeparated : List (List Char) → List Char
  | [] => []
  | [cs] => cs
  | cs :: rest => cs ++ ',' :: commaSeparated rest

mutual

/-- A value without any white space. -/
def compact : Json → List Char
  | null => "null".toList
  | bool b => (if b then "true" else "false").toList
  | number numeral => numeral
  | text s => quotedOption s
  | array items => '[' :: commaSeparated (compactItems items) ++ [']']
  | object entries => '{' :: commaSeparated (compactEntries entries) ++ ['}']

/-- The items of an array without any white space. -/
def compactItems : List Json → List (List Char)
  | [] => []
  | item :: rest => compact item :: compactItems rest

/-- The entries of an object without any white space. -/
def compactEntries : List (Option String × Json) → List (List Char)
  | [] => []
  | (key, value) :: rest => (quotedOption key ++ ':' :: compact value) :: compactEntries rest

end

/-- A line break and an indentation. -/
def newLine (indent : Nat) : List Char := '\n' :: List.replicate indent ' '

/-- A block in brackets with one entry per line. -/
def block (indent : Nat) (opening closing : Char) : List (List Char) → List Char
  | [] => [opening, closing]
  | entries =>
    opening :: commaSeparated (entries.map (newLine (indent + 2) ++ ·)) ++ newLine indent ++
      [closing]

mutual

/-- A value with one entry per line, two spaces deeper than the given indentation. -/
def indented (indent : Nat) : Json → List Char
  | array items => block indent '[' ']' (indentedItems (indent + 2) items)
  | object entries => block indent '{' '}' (indentedEntries (indent + 2) entries)
  | value => compact value

/-- The items of an array, each with one entry per line. -/
def indentedItems (indent : Nat) : List Json → List (List Char)
  | [] => []
  | item :: rest => indented indent item :: indentedItems indent rest

/-- The entries of an object, each with one entry per line. -/
def indentedEntries (indent : Nat) : List (Option String × Json) → List (List Char)
  | [] => []
  | (key, value) :: rest =>
    (quotedOption key ++ ':' :: ' ' :: indented indent value) :: indentedEntries indent rest

end

/-- The text of a value without any white space. -/
def compactText (j : Json) : String := String.ofList j.compact

/-- The text of a value with one entry per line. -/
def prettyText (j : Json) : String := String.ofList (j.indented 0)

end Json

end JetPlot
