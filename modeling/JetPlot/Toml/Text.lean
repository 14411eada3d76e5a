import JetPlot.Text.Hex

/-!
# Strings and blanks in TOML

Strings come in four forms: in double quotes with escapes or in single quotes
without any, each on one line or, with three quotes at either end, on several. A
line break right behind three opening quotes does not count; in a string with
escapes, a backslash at the end of a line takes away all white space up to the
next character.
-/

namespace JetPlot.Toml

/-- Whether a character is white space within a line. -/
def isSpace (c : Char) : Bool := c = ' ' || c = '\t'

/-- A text without the white space in front of it. -/
def skipSpace (cs : List Char) : List Char := cs.dropWhile isSpace

/-- Whether a character may stand in a comment or a string: all but the control
    characters, except for the tabulator. -/
def isPrintable (c : Char) : Bool := c = '\t' || (0x20 ≤ c.toNat && c.toNat ≠ 0x7f)

/-- The text behind a line break. -/
def afterBreak? : List Char → Option (List Char)
  | '\n' :: rest => some rest
  | '\r' :: '\n' :: rest => some rest
  | _ => none

/-- A text without the comment in front of it. -/
def skipComment : List Char → List Char
  | '#' :: rest => rest.dropWhile isPrintable
  | cs => cs

/-- The text behind the end of a line, which white space and a comment may
    precede. -/
def afterLine? (cs : List Char) : Option (List Char) :=
  match skipComment (skipSpace cs) with
  | [] => some []
  | rest => afterBreak? rest

/-- A text without the white space, line breaks and comments in front of it. A
    comment has to end with a line break. -/
def skipLines : (fuel : Nat) → List Char → List Char
  | 0, cs => cs
  | fuel + 1, cs =>
    let rest := skipSpace cs
    match afterBreak? (skipComment rest) with
    | some rest => skipLines fuel rest
    | none => rest

/-- A text without any blank in front of it. -/
def skipBlank (cs : List Char) : List Char := skipLines (cs.length + 1) cs

/-- Puts a character in front of a string that was read. -/
def pushChar (c : Char) : Option (List Char × List Char) → Option (List Char × List Char) :=
  Option.map fun split => (c :: split.1, split.2)

/-- The character with the given code, if there is one. -/
def charOfCode? (n : Nat) : Option Char := if n.isValidChar then some (Char.ofNat n) else none

/-- The character of an escape with four digits of base sixteen. -/
def shortEscape? (a b c d : Char) : Option Char := (Text.hexNumber? a b c d).bind charOfCode?

/-- The character of an escape with eight digits of base sixteen. -/
def longEscape? (a b c d e f g h : Char) : Option Char := do
  charOfCode? ((← Text.hexNumber? a b c d) * 0x10000 + (← Text.hexNumber? e f g h))

/-- The character of any other escape. -/
def simpleEscape? : Char → Option Char
  | '"' => some '"'
  | '\\' => some '\\'
  | 'b' => some '\x08'
  | 'f' => some '\x0c'
  | 'n' => some '\n'
  | 'r' => some '\r'
  | 't' => some '\t'
  | _ => none

/-- Takes a string with escapes on one line off the front of a text, behind its
    opening quote. -/
def splitBasic? : List Char → Option (List Char × List Char)
  | [] => none
  | '"' :: rest => some ([], rest)
  | '\\' :: 'u' :: a :: b :: c :: d :: rest => do
    let c ← shortEscape? a b c d
    pushChar c (splitBasic? rest)
  | '\\' :: 'U' :: a :: b :: c :: d :: e :: f :: g :: h :: rest => do
    let c ← longEscape? a b c d e f g h
    pushChar c (splitBasic? rest)
  | '\\' :: c :: rest => do
    let c ← simpleEscape? c
    pushChar c (splitBasic? rest)
  | c :: rest => if isPrintable c then pushChar c (splitBasic? rest) else none

/-- Takes a string without escapes on one line off the front of a text, behind its
    opening quote. -/
def splitLiteral? : List Char → Option (List Char × List Char)
  | [] => none
  | '\'' :: rest => some ([], rest)
  | c :: rest => if isPrintable c then pushChar c (splitLiteral? rest) else none

/-- The end of a string on several lines, behind three quotes: up to two more quotes
    in front of them belong to the string. -/
def closeQuotes (quote : Char) (rest : List Char) : List Char × List Char :=
  match rest with
  | c :: d :: rest =>
    if c = quote then if d = quote then ([quote, quote], rest) else ([quote], d :: rest)
    else ([], c :: d :: rest)
  | [c] => if c = quote then ([quote], []) else ([], [c])
  | [] => ([], [])

/-- Takes a string with escapes on several lines off the front of a text, behind its
    opening quotes. White space is left out while `trimming`. -/
def splitLongBasic? (trimming : Bool) : List Char → Option (List Char × List Char)
  | [] => none
  | '"' :: '"' :: '"' :: rest => some (closeQuotes '"' rest)
  | '\r' :: '\n' :: rest =>
    if trimming then splitLongBasic? true rest else pushChar '\n' (splitLongBasic? false rest)
  | '\\' :: 'u' :: a :: b :: c :: d :: rest => do
    let c ← shortEscape? a b c d
    pushChar c (splitLongBasic? false rest)
  | '\\' :: 'U' :: a :: b :: c :: d :: e :: f :: g :: h :: rest => do
    let c ← longEscape? a b c d e f g h
    pushChar c (splitLongBasic? false rest)
  | '\\' :: c :: rest =>
    match simpleEscape? c with
    | some c => pushChar c (splitLongBasic? false rest)
    | none =>
      if (afterBreak? (skipSpace (c :: rest))).isSome then splitLongBasic? true (c :: rest)
      else none
  | c :: rest =>
    if trimming && (isSpace c || c = '\n') then splitLongBasic? true rest
    else if isPrintable c || c = '\n' then pushChar c (splitLongBasic? false rest)
    else none

/-- Takes a string without escapes on several lines off the front of a text, behind
    its opening quotes. -/
def splitLongLiteral? : List Char → Option (List Char × List Char)
  | [] => none
  | '\'' :: '\'' :: '\'' :: rest => some (closeQuotes '\'' rest)
  | '\r' :: '\n' :: rest => pushChar '\n' (splitLongLiteral? rest)
  | c :: rest =>
    if isPrintable c || c = '\n' then pushChar c (splitLongLiteral? rest) else none

/-- A text without the line break in front of it. -/
def skipBreak (cs : List Char) : List Char := (afterBreak? cs).getD cs

/-- Takes a string of any form off the front of a text. -/
def splitString? : List Char → Option (List Char × List Char)
  | '"' :: '"' :: '"' :: rest => splitLongBasic? false (skipBreak rest)
  | '"' :: rest => splitBasic? rest
  | '\'' :: '\'' :: '\'' :: rest => splitLongLiteral? (skipBreak rest)
  | '\'' :: rest => splitLiteral? rest
  | _ => none

end JetPlot.Toml
