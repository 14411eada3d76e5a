import JetPlot.Decimal.Basic

/-!
# Reading numerals

A numeral is an optional sign, digits with an optional point among, before or
after them, and an optional exponent; `inf`, `infinity` and `nan` are numerals
too, in any letter case. `Decimal.read?` reads a numeral that is a decimal,
`readFloat?` any of them. The whole text has to be the numeral, and only the
digits `0` to `9` count.
-/

namespace JetPlot

namespace Decimal

/-- Reads an exponent: nothing, or an `e` with an optionally signed number. -/
def readExponent? : List Char → Option Int
  | [] => some 0
  | e :: rest =>
    if e = 'e' ∨ e = 'E' then
      let (negative, ds) := match rest with
        | '-' :: ds => (true, ds)
        | '+' :: ds => (false, ds)
        | ds => (false, ds)
      if ds ≠ [] ∧ ds.all Char.isDigit then
        let value : Int := ofDigitChars ds
        some (if negative then -value else value)
      else none
    else none

/-- Reads an unsigned decimal. -/
def readUnsigned? (negative : Bool) (cs : List Char) : Option Decimal :=
  let whole := cs.takeWhile Char.isDigit
  let rest := cs.dropWhile Char.isDigit
  let (fraction, rest) := match rest with
    | '.' :: rest => (rest.takeWhile Char.isDigit, rest.dropWhile Char.isDigit)
    | rest => ([], rest)
  if whole ++ fraction = [] then none
  else do
    let exponent ← readExponent? rest
    return ⟨negative, ofDigitChars (whole ++ fraction), exponent - fraction.length⟩

/-- Splits a sign off: whether it is a minus sign, and what follows it. -/
def readSign : List Char → Bool × List Char
  | '-' :: rest => (true, rest)
  | '+' :: rest => (false, rest)
  | rest => (false, rest)

/-- Reads a decimal with an optional sign. -/
def read? (cs : List Char) : Option Decimal :=
  let (negative, rest) := readSign cs
  readUnsigned? negative rest

end Decimal

/-- Reads a numeral as the double nearest to it. -/
def readFloat? (cs : List Char) : Option Float :=
  let (negative, rest) := Decimal.readSign cs
  let word := rest.map Char.toLower
  let signed (x : Float) : Float := if negative then -x else x
  if word = "inf".toList ∨ word = "infinity".toList then some (signed (1 / 0))
  else if word = "nan".toList then some (0 / 0)
  else (Decimal.readUnsigned? negative rest).map Decimal.toFloat

end JetPlot
