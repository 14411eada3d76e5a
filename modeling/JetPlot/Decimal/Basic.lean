/-!
# Decimal numerals

A `Decimal` is a number `± digits · 10 ^ exponent`, as written by hand or read
from a text. Every decimal stands for a double, its nearest one
(`Decimal.toFloat`). Factors of ten may sit in the digits or in the exponent;
`Decimal.canonical` moves all of them into the exponent, and `toFloat` looks at
the canonical form only, so that two spellings of one number are one double.
-/

namespace JetPlot

/-- The number `± digits · 10 ^ exponent`. -/
structure Decimal where
  /-- Whether a minus sign is written; zero may carry one too. -/
  negative : Bool
  /-- The digits, read as one natural number. -/
  digits : Nat
  /-- The power of ten of the last digit. -/
  exponent : Int
  deriving DecidableEq

namespace Decimal

/-- Moves up to `fuel` factors of ten from the digits into the exponent. -/
def strip : (fuel digits : Nat) → (exponent : Int) → Nat × Int
  | 0, digits, exponent => (digits, exponent)
  | fuel + 1, digits, exponent =>
    if digits % 10 = 0 then strip fuel (digits / 10) (exponent + 1) else (digits, exponent)

/-- The spelling of a number whose last digit is not zero; zero is written with
    the digit `0` and the exponent `0`. -/
def canonical (d : Decimal) : Decimal :=
  if d.digits = 0 then ⟨d.negative, 0, 0⟩
  else
    let stripped := strip (d.digits.log2 + 1) d.digits d.exponent
    ⟨d.negative, stripped.1, stripped.2⟩

/-- The double nearest to a decimal, a tie going to the even mantissa; beyond
    the largest double it is infinite. -/
def toFloat (d : Decimal) : Float :=
  let c := d.canonical
  let magnitude := Float.ofModel (Float.Model.ofScientific c.digits c.exponent)
  if d.negative then -magnitude else magnitude

/-- The decimal digits of a natural number, without leading zeros. -/
def digitChars (n : Nat) : List Char := Nat.toDigits 10 n

/-- The number that a list of decimal digits spells. -/
def ofDigitChars (cs : List Char) : Nat := Nat.ofDigitChars 10 cs 0

theorem ofDigitChars_digitChars (n : Nat) : ofDigitChars (digitChars n) = n :=
  Nat.ofDigitChars_toDigits (by decide) (by decide)

end Decimal

end JetPlot
