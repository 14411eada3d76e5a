import JetPlot.Decimal.Reader
import JetPlot.Text.Hex
import JetPlot.Toml.Value

/-!
# Numbers and dates in TOML

An integer has no leading zeros, unless it is written with base sixteen, eight or
two. Single underscores may stand between digits. A floating-point number has a
fraction, an exponent or both; positive numbers beyond the largest double are
refused, negative ones are minus infinity. Dates and times are checked for being
in range, and are kept as they are written.

The scanners return what they read together with the rest of the text.
-/

namespace JetPlot.Toml

/-- Takes the digits that `isDigit` accepts, with single underscores between them,
    off the front of a text. -/
def splitMore (isDigit : Char → Bool) : List Char → List Char × List Char
  | [] => ([], [])
  | '_' :: d :: rest =>
    if isDigit d then
      let (digits, rest) := splitMore isDigit rest
      (d :: digits, rest)
    else ([], '_' :: d :: rest)
  | d :: rest =>
    if isDigit d then
      let (digits, rest) := splitMore isDigit rest
      (d :: digits, rest)
    else ([], d :: rest)

/-- Takes at least one digit, with single underscores between them, off the front of
    a text. The underscores are left out. -/
def splitDigits? (isDigit : Char → Bool) : List Char → Option (List Char × List Char)
  | [] => none
  | d :: rest =>
    if isDigit d then
      let (digits, rest) := splitMore isDigit rest
      some (d :: digits, rest)
    else none

/-- Takes the digits of an integer, without leading zeros, off the front of a text. -/
def splitWhole? : List Char → Option (List Char × List Char)
  | '0' :: rest => some (['0'], rest)
  | cs => splitDigits? Char.isDigit cs

/-- Takes an optional sign off the front of a text. -/
def splitSign : List Char → List Char × List Char
  | '+' :: rest => (['+'], rest)
  | '-' :: rest => (['-'], rest)
  | rest => ([], rest)

/-- Takes a point and digits off the front of a text. -/
def splitFraction? : List Char → Option (List Char × List Char)
  | '.' :: rest => (splitDigits? Char.isDigit rest).map fun split => ('.' :: split.1, split.2)
  | _ => none

/-- Takes an exponent off the front of a text. -/
def splitExponent? : List Char → Option (List Char × List Char)
  | [] => none
  | e :: rest =>
    if e = 'e' ∨ e = 'E' then do
      let (sign, rest) := splitSign rest
      let (digits, rest) ← splitDigits? Char.isDigit rest
      return (e :: sign ++ digits, rest)
    else none

/-- Takes the numeral of a floating-point number off the front of a text. -/
def splitFloatNumeral? (cs : List Char) : Option (List Char × List Char) := do
  let (sign, rest) := splitSign cs
  let (whole, rest) ← splitWhole? rest
  match splitFraction? rest with
  | some (fraction, rest) =>
    let (exponent, rest) := (splitExponent? rest).getD ([], rest)
    return (sign ++ whole ++ fraction ++ exponent, rest)
  | none =>
    let (exponent, rest) ← splitExponent? rest
    return (sign ++ whole ++ exponent, rest)

/-- Takes an infinity or a NaN off the front of a text. -/
def splitSpecialFloat? (cs : List Char) : Option (Toml × List Char) :=
  let (sign, rest) := splitSign cs
  let signed (x : Float) : Toml := float (if sign = ['-'] then -x else x)
  match rest with
  | 'i' :: 'n' :: 'f' :: rest => some (signed (1 / 0), rest)
  | 'n' :: 'a' :: 'n' :: rest => some (signed (0 / 0), rest)
  | _ => none

/-- Takes a floating-point number off the front of a text. -/
def splitFloat? (cs : List Char) : Option (Toml × List Char) :=
  match splitFloatNumeral? cs with
  | some (numeral, rest) => do
    let x ← readFloat? numeral
    if x == 1 / 0 then none else some (float x, rest)
  | none => splitSpecialFloat? cs

/-- An integer, if it fits into 64 bits. -/
def integer? (n : Int) : Option Toml :=
  if Int64.minValue.toInt ≤ n ∧ n ≤ Int64.maxValue.toInt then some (integer n) else none

/-- The number that some digits spell. -/
def digitsValue (base : Nat) (digits : List Char) : Nat :=
  digits.foldl (fun n c => n * base + (Text.hexValue? c).getD 0) 0

/-- Whether a character is a digit of base sixteen. -/
def isHexDigit (c : Char) : Bool := (Text.hexValue? c).isSome

/-- Whether a character is a digit of base eight. -/
def isOctalDigit (c : Char) : Bool := '0' ≤ c && c ≤ '7'

/-- Whether a character is a digit of base two. -/
def isBinaryDigit (c : Char) : Bool := c = '0' || c = '1'

/-- Takes an integer with the given base off the front of a text, behind the mark of
    the base. -/
def splitBased? (base : Nat) (isDigit : Char → Bool) (cs : List Char) :
    Option (Toml × List Char) := do
  let (digits, rest) ← splitDigits? isDigit cs
  return (← integer? (digitsValue base digits), rest)

/-- Takes an integer off the front of a text. -/
def splitInteger? : List Char → Option (Toml × List Char)
  | '0' :: 'x' :: rest => splitBased? 16 isHexDigit rest
  | '0' :: 'o' :: rest => splitBased? 8 isOctalDigit rest
  | '0' :: 'b' :: rest => splitBased? 2 isBinaryDigit rest
  | cs => do
    let (sign, rest) := splitSign cs
    let (digits, rest) ← splitWhole? rest
    let n := digitsValue 10 digits
    return (← integer? (if sign = ['-'] then -n else n), rest)

/-! ## Dates and times -/

/-- Takes a number with the given count of digits, in the given range, off the front
    of a text. -/
def splitField? (count low high : Nat) (cs : List Char) : Option (Nat × List Char) :=
  let digits := cs.take count
  let n := digitsValue 10 digits
  if digits.length = count ∧ digits.all Char.isDigit ∧ low ≤ n ∧ n ≤ high then
    some (n, cs.drop count)
  else none

/-- The text behind a character that has to be there. -/
def after? (c : Char) : List Char → Option (List Char)
  | [] => none
  | d :: rest => if c = d then some rest else none

/-- The number of days in a month. -/
def daysInMonth (year month : Nat) : Nat :=
  if month = 2 then
    if year % 4 = 0 ∧ (year % 100 ≠ 0 ∨ year % 400 = 0) then 29 else 28
  else if month ∈ [4, 6, 9, 11] then 30
  else 31

/-- The text behind a date. -/
def afterDate? (cs : List Char) : Option (List Char) := do
  let (year, rest) ← splitField? 4 0 9999 cs
  let (month, rest) ← splitField? 2 1 12 (← after? '-' rest)
  let (_, rest) ← splitField? 2 1 (daysInMonth year month) (← after? '-' rest)
  return rest

/-- The text behind a time of day. -/
def afterTime? (cs : List Char) : Option (List Char) := do
  let (_, rest) ← splitField? 2 0 23 cs
  let (_, rest) ← splitField? 2 0 59 (← after? ':' rest)
  let (_, rest) ← splitField? 2 0 60 (← after? ':' rest)
  match after? '.' rest with
  | none => return rest
  | some fraction =>
    match fraction.span Char.isDigit with
    | ([], _) => return rest
    | (_, rest) => return rest

/-- The text behind a difference to universal time, if there is one. -/
def skipOffset (cs : List Char) : List Char :=
  match cs with
  | [] => []
  | c :: rest =>
    if c = 'Z' ∨ c = 'z' then rest
    else if c = '+' ∨ c = '-' then
      (do
        let (_, rest) ← splitField? 2 0 23 rest
        let (_, rest) ← splitField? 2 0 59 (← after? ':' rest)
        return rest).getD cs
    else cs

/-- The text behind the time of day that may follow a date. -/
def skipTime (cs : List Char) : List Char :=
  match cs with
  | [] => []
  | c :: rest =>
    if c = 'T' ∨ c = 't' ∨ c = ' ' then ((afterTime? rest).map skipOffset).getD cs else cs

/-- Takes a date, a time or both off the front of a text. -/
def splitDateTime? (cs : List Char) : Option (Toml × List Char) := do
  let rest ← ((afterDate? cs).map skipTime).or (afterTime? cs)
  return (dateTime (String.ofList (cs.take (cs.length - rest.length))), rest)

/-- Takes a number or a date off the front of a text. -/
def splitNumeric? (cs : List Char) : Option (Toml × List Char) :=
  (splitDateTime? cs).or ((splitFloat? cs).or (splitInteger? cs))

end JetPlot.Toml
