import JetPlot.Decimal.Reader
import JetPlot.Geometry.Point
import JetPlot.Text.Blank
import JetPlot.Text.Digit

/-!
# Parameters of a motion

A motion line gives its parameters in the form `(X,Y),x,y` or `(X,Y),x,y,third`.
The marker `(X,Y),` may stand anywhere in the line; white space may surround the
commas behind it. `Template.find?` looks for the first place where the form
occurs, with the longest numerals there. `Parameters.read` reads the numerals:
one that is no finite number counts as missing, and without both coordinates
there is no third parameter either.

A coordinate is written with digits of any script, but a number is only read from
the digits `0` to `9`. The third parameter is any text up to a comma, a semicolon
or white space, such as the name of a variable; it need not be a number.
-/

namespace JetPlot

/-- The texts of the parameters in a motion line. -/
structure Template where
  /-- The numeral of the first coordinate. -/
  x : List Char
  /-- The numeral of the second coordinate. -/
  y : List Char
  /-- The text of the third parameter. -/
  third : Option (List Char)
  deriving DecidableEq

namespace Template

/-- The text behind a marker `(X,Y),`, in upper or lower case. -/
def afterMarker? : List Char → Option (List Char)
  | '(' :: x :: ',' :: y :: ')' :: ',' :: rest =>
    if (x = 'X' ∨ x = 'x') ∧ (y = 'Y' ∨ y = 'y') then some rest else none
  | _ => none

/-- The text behind a comma and the white space around it. -/
def afterComma? (cs : List Char) : Option (List Char) :=
  match Text.skipBlanks cs with
  | ',' :: rest => some (Text.skipBlanks rest)
  | _ => none

/-- Splits the digits, of any script, off the front of a text. -/
def splitDigits (cs : List Char) : List Char × List Char := cs.span Text.isDecimalDigit

/-- Splits the longest numeral without a sign off the front of a text: digits
    that may have a point among or behind them, or a point and digits. -/
def splitUnsigned? (cs : List Char) : Option (List Char × List Char) :=
  match splitDigits cs with
  | ([], '.' :: rest) =>
    match splitDigits rest with
    | ([], _) => none
    | (fraction, rest) => some ('.' :: fraction, rest)
  | ([], _) => none
  | (whole, '.' :: rest) =>
    let (fraction, rest) := splitDigits rest
    some (whole ++ '.' :: fraction, rest)
  | (whole, rest) => some (whole, rest)

/-- Splits the longest numeral off the front of a text. -/
def splitNumeral? : List Char → Option (List Char × List Char)
  | '+' :: rest => (splitUnsigned? rest).map fun split => ('+' :: split.1, split.2)
  | '-' :: rest => (splitUnsigned? rest).map fun split => ('-' :: split.1, split.2)
  | rest => splitUnsigned? rest

/-- The third parameter, if a comma and a text follow. -/
def third? (cs : List Char) : Option (List Char) := do
  let rest ← afterComma? cs
  match rest.takeWhile fun c => !(c = ',' || c = ';' || Text.isBlank c) with
  | [] => none
  | word => some word

/-- Reads the template at the front of a text. -/
def readAt? (cs : List Char) : Option Template := do
  let rest ← afterMarker? cs
  let (x, rest) ← splitNumeral? (Text.skipBlanks rest)
  let rest ← afterComma? rest
  let (y, rest) ← splitNumeral? rest
  return ⟨x, y, third? rest⟩

/-- Reads the template at the first place where it occurs. -/
def find? : List Char → Option Template
  | [] => none
  | c :: cs => (readAt? (c :: cs)).or (find? cs)

end Template

/-- The parameters of a motion. -/
structure Parameters where
  /-- The target point. -/
  point : Option Point
  /-- The third parameter, an angle or a speed. -/
  third : Option Float
  deriving DecidableEq

namespace Parameters

/-- The finite number that a numeral stands for. -/
def readFinite? (cs : List Char) : Option Float := (readFloat? cs).filter Float.isFinite

/-- The point with the given numerals as coordinates. -/
def readPoint? (x y : List Char) : Option Point := do
  return ⟨← readFinite? x, ← readFinite? y⟩

/-- Reads the parameters of a line. -/
def read (line : List Char) : Parameters :=
  match Template.find? line with
  | none => ⟨none, none⟩
  | some t =>
    match readPoint? t.x t.y with
    | none => ⟨none, none⟩
    | some point => ⟨some point, t.third.bind readFinite?⟩

end Parameters

end JetPlot
