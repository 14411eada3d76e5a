import JetPlot.Json.Value
import JetPlot.Text.Hex

/-!
# Reading JSON

The reader takes a JSON value off the front of a text. It accepts exactly the
grammar of JSON: no comments, no trailing commas, no raw control characters in
strings. Arrays and objects may be nested in each other as deep as one likes. The
recursion is on the number of brackets that may still open, and a text has no more
of them than characters. The scanners return what they read together with the rest
of the text.
-/

namespace JetPlot.Json

/-- Whether a character is white space between the parts of a value. -/
def isSpace (c : Char) : Bool := c = ' ' || c = '\t' || c = '\n' || c = '\r'

/-- A text without the white space in front of it. -/
def skipSpace (cs : List Char) : List Char := cs.dropWhile isSpace

/-! ## Numbers -/

/-- Splits at least one digit off the front of a text. -/
def splitDigits? (cs : List Char) : Option (List Char × List Char) :=
  match cs.span Char.isDigit with
  | ([], _) => none
  | split => some split

/-- Splits the digits before the point off the front of a text. Only zero itself
    begins with a zero. -/
def splitWhole? (cs : List Char) : Option (List Char × List Char) := do
  let (digits, rest) ← splitDigits? cs
  if digits.head? = some '0' ∧ digits ≠ ['0'] then none else some (digits, rest)

/-- Splits a point and the digits behind it off the front of a text. -/
def splitFraction? : List Char → Option (List Char × List Char)
  | '.' :: rest => (splitDigits? rest).map fun split => ('.' :: split.1, split.2)
  | rest => some ([], rest)

/-- Splits an exponent off the front of a text. -/
def splitExponent? : List Char → Option (List Char × List Char)
  | [] => some ([], [])
  | e :: rest =>
    if e = 'e' ∨ e = 'E' then
      match rest with
      | '+' :: rest => (splitDigits? rest).map fun split => (e :: '+' :: split.1, split.2)
      | '-' :: rest => (splitDigits? rest).map fun split => (e :: '-' :: split.1, split.2)
      | rest => (splitDigits? rest).map fun split => (e :: split.1, split.2)
    else some ([], e :: rest)

/-- Splits a numeral off the front of a text. -/
def splitNumeral? (cs : List Char) : Option (List Char × List Char) := do
  let (sign, rest) := match cs with
    | '-' :: rest => (['-'], rest)
    | rest => ([], rest)
  let (whole, rest) ← splitWhole? rest
  let (fraction, rest) ← splitFraction? rest
  let (exponent, rest) ← splitExponent? rest
  return (sign ++ whole ++ fraction ++ exponent, rest)

/-! ## Strings -/

/-- The character of an escape other than `\u`. -/
def simpleEscape? : Char → Option Char
  | '"' => some '"'
  | '\\' => some '\\'
  | '/' => some '/'
  | 'b' => some '\x08'
  | 'f' => some '\x0c'
  | 'n' => some '\n'
  | 'r' => some '\r'
  | 't' => some '\t'
  | _ => none

/-- The units of a string, as it is written up to the closing quote: characters, and
    the numbers of `\u` escapes. -/
def units? : List Char → Option (List (Char ⊕ Nat) × List Char)
  | [] => none
  | '"' :: rest => some ([], rest)
  | '\\' :: 'u' :: a :: b :: c :: d :: rest => do
    let n ← Text.hexNumber? a b c d
    let (units, rest) ← units? rest
    return (.inr n :: units, rest)
  | '\\' :: c :: rest => do
    let c ← simpleEscape? c
    let (units, rest) ← units? rest
    return (.inl c :: units, rest)
  | c :: rest =>
    if c.toNat < 0x20 then none
    else do
      let (units, rest) ← units? rest
      return (.inl c :: units, rest)

/-- Whether a unit is the first half of a surrogate pair. -/
def isHighSurrogate (n : Nat) : Bool := 0xd800 ≤ n ∧ n ≤ 0xdbff

/-- Whether a unit is the second half of a surrogate pair. -/
def isLowSurrogate (n : Nat) : Bool := 0xdc00 ≤ n ∧ n ≤ 0xdfff

/-- The text that the units of a string spell. -/
def spell? : List (Char ⊕ Nat) → Option (List Char)
  | [] => some []
  | .inl c :: rest => (spell? rest).map (c :: ·)
  | .inr high :: .inr low :: rest =>
    if isHighSurrogate high then
      if isLowSurrogate low then
        (spell? rest).map (Char.ofNat (0x10000 + (high - 0xd800) * 0x400 + (low - 0xdc00)) :: ·)
      else none
    else if isLowSurrogate high then none
    else (spell? (.inr low :: rest)).map (Char.ofNat high :: ·)
  | .inr n :: rest =>
    if isHighSurrogate n || isLowSurrogate n then none
    else (spell? rest).map (Char.ofNat n :: ·)

/-- Takes a string off the front of a text, behind its opening quote. -/
def splitString? (cs : List Char) : Option (Option String × List Char) := do
  let (units, rest) ← units? cs
  return ((spell? units).map String.ofList, rest)

/-! ## Values -/

/-- Takes entries with commas between them off the front of a text, up to the
    closing bracket. -/
def splitEntries? {α : Type} (split? : List Char → Option (α × List Char)) (closing : Char) :
    (fuel : Nat) → List Char → Option (List α × List Char)
  | 0, _ => none
  | fuel + 1, cs => do
    let (entry, rest) ← split? (skipSpace cs)
    match skipSpace rest with
    | [] => none
    | c :: rest =>
      if c = ',' then do
        let (entries, rest) ← splitEntries? split? closing fuel rest
        return (entry :: entries, rest)
      else if c = closing then return ([entry], rest)
      else none

/-- Takes the entries of an array or an object, behind its opening bracket, off the
    front of a text. -/
def splitBlock? {α : Type} (split? : List Char → Option (α × List Char)) (closing : Char)
    (cs : List Char) : Option (List α × List Char) :=
  match skipSpace cs with
  | [] => none
  | c :: rest =>
    if c = closing then some ([], rest)
    else splitEntries? split? closing (rest.length + 1) (c :: rest)

/-- Takes an entry of an object off the front of a text. -/
def splitMember? (split? : List Char → Option (Json × List Char)) :
    List Char → Option ((Option String × Json) × List Char)
  | '"' :: rest => do
    let (key, rest) ← splitString? rest
    match skipSpace rest with
    | ':' :: rest =>
      let (value, rest) ← split? (skipSpace rest)
      return ((key, value), rest)
    | _ => none
  | _ => none

/-- Takes a value without items off the front of a text. -/
def splitScalar? : List Char → Option (Json × List Char)
  | '"' :: rest => (splitString? rest).map fun split => (text split.1, split.2)
  | 'n' :: 'u' :: 'l' :: 'l' :: rest => some (null, rest)
  | 't' :: 'r' :: 'u' :: 'e' :: rest => some (bool true, rest)
  | 'f' :: 'a' :: 'l' :: 's' :: 'e' :: rest => some (bool false, rest)
  | cs => (splitNumeral? cs).map fun split => (number split.1, split.2)

/-- Takes a value off the front of a text; at most `depth` arrays and objects may be
    nested in it. -/
def splitValue? : (depth : Nat) → List Char → Option (Json × List Char)
  | 0, cs => splitScalar? cs
  | depth + 1, cs =>
    match cs with
    | '[' :: rest =>
      (splitBlock? (splitValue? depth) ']' rest).map fun split => (array split.1, split.2)
    | '{' :: rest =>
      (splitBlock? (splitMember? (splitValue? depth)) '}' rest).map fun split =>
        (object split.1, split.2)
    | cs => splitScalar? cs

/-- Takes a value and the white space around it off the front of a text. -/
def split? (cs : List Char) : Option (Json × List Char) :=
  (splitValue? cs.length (skipSpace cs)).map fun split => (split.1, skipSpace split.2)

end JetPlot.Json
