import JetPlot.Decimal.Reader
import JetPlot.Json.Value

/-!
# JSON numbers

A numeral without fraction, exponent or sign that fits into 64 bits is a natural
number; any numeral is a double. A double is read fast rather than exactly: the
leading digits that fit into 64 bits are one number, and that number is
multiplied or divided once by a power of ten. So a numeral with many digits or
a large exponent may be read as a neighbour of the closest double.
-/

namespace JetPlot.Json

/-- The digits of a number and the power of ten that belongs to the last one. -/
structure Significand where
  /-- The digits, read as one number below `2 ^ 64`. -/
  digits : Nat
  /-- The power of ten. -/
  exponent : Int
  deriving DecidableEq

namespace Significand

/-- The number with one more digit, if it still fits into 64 bits. -/
def push? (digits : Nat) (c : Char) : Option Nat :=
  let extended := 10 * digits + (c.toNat - 48)
  if extended < UInt64.size then some extended else none

/-- Appends the digits before the point. Those that do not fit only count as
    powers of ten. -/
def ofWhole (digits : Nat) : List Char → Significand
  | [] => ⟨digits, 0⟩
  | c :: cs =>
    match push? digits c with
    | some extended => ofWhole extended cs
    | none => ⟨digits, (c :: cs).length⟩

theorem ofWhole_cons (digits : Nat) (c : Char) (cs : List Char) :
    ofWhole digits (c :: cs) = match push? digits c with
      | some extended => ofWhole extended cs
      | none => ⟨digits, (c :: cs).length⟩ := by
  rfl

/-- Appends the digits behind the point, up to the first one that does not fit. -/
def appendFraction (s : Significand) : List Char → Significand
  | [] => s
  | c :: cs =>
    match push? s.digits c with
    | some extended => appendFraction ⟨extended, s.exponent - 1⟩ cs
    | none => s

/-- The double nearest to a power of ten. -/
def powerOfTen (k : Nat) : Float := Decimal.toFloat ⟨false, 1, k⟩

/-- Divides by a power of ten, the largest finite one first. After three of those
    nothing is left of a number that fits into 64 bits. -/
def divide (x : Float) : (fuel k : Nat) → Float
  | 0, _ => 0
  | fuel + 1, k =>
    if k ≤ 308 then x / powerOfTen k else divide (x / powerOfTen 308) fuel (k - 308)

/-- The value of a significand; there is none beyond the largest double. -/
def toFloat? (s : Significand) : Option Float :=
  let x := Decimal.toFloat ⟨false, s.digits, 0⟩
  match s.exponent with
  | .ofNat k =>
    if s.digits = 0 then some 0
    else if 308 < k then none
    else
      let y := x * powerOfTen k
      if y.isFinite then some y else none
  | .negSucc k => some (divide x 4 (k + 1))

end Significand

/-- The double that a numeral stands for. -/
def numeralFloat? (numeral : List Char) : Option Float := do
  let (negative, rest) := Decimal.readSign numeral
  let whole := Significand.ofWhole 0 (rest.takeWhile Char.isDigit)
  let rest := rest.dropWhile Char.isDigit
  let (significand, rest) := match rest with
    | '.' :: rest =>
      (whole.appendFraction (rest.takeWhile Char.isDigit), rest.dropWhile Char.isDigit)
    | rest => (whole, rest)
  let exponent ← Decimal.readExponent? rest
  let magnitude ← Significand.toFloat? ⟨significand.digits, significand.exponent + exponent⟩
  return if negative then -magnitude else magnitude

/-- The natural number below `2 ^ 64` that a numeral stands for. -/
def numeralNat? (numeral : List Char) : Option Nat :=
  if numeral.all Char.isDigit then
    let n := Decimal.ofDigitChars numeral
    if n < UInt64.size then some n else none
  else none

end JetPlot.Json
