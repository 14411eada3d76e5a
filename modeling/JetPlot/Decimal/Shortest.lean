import JetPlot.Decimal.Basic

/-!
# The shortest decimal of a double

Many decimals have a given double as their nearest one. The shortest of them is
the one with the fewest digits and, among those, the one closest to the double.

The double is taken apart into a fraction `num / den` (`exactFraction`). On the
grid of the decimals with a given number of digits it lies between two
neighbours (`neighbours`), and if any point of the grid reads back as the
double, one of the two does. Seventeen digits always suffice.
-/

namespace JetPlot

/-- Which of two equally close neighbours is taken. -/
inductive Tie
  /-- The one farther from zero. -/
  | away
  /-- The one with the even last digit. -/
  | even
  deriving DecidableEq

namespace Decimal

/-- The fraction `m · 2 ^ e`, as numerator and denominator. -/
def exactFraction (m : Nat) : Int → Nat × Nat
  | .ofNat e => (m * Nat.pow 2 e, 1)
  | .negSucc e => (m, Nat.pow 2 (e + 1))

/-- The fraction `num / den` divided by `10 ^ k`. -/
def scaleDown (num den : Nat) : Int → Nat × Nat
  | .ofNat k => (num, den * Nat.pow 10 k)
  | .negSucc k => (num * Nat.pow 10 (k + 1), den)

/-- Whether `num / den` is at least `10 ^ k`. -/
def reaches (num den : Nat) (k : Int) : Bool :=
  let scaled := scaleDown num den k
  scaled.2 ≤ scaled.1

/-- The power of ten of the leading digit of `num / den`. The binary lengths
    tell it up to one. -/
def leadingPower (num den : Nat) : Int :=
  let guess := ((num.log2 : Int) - den.log2) * 30103 / 100000
  if reaches num den (guess + 1) then guess + 1
  else if reaches num den guess then guess
  else guess - 1

/-- The two decimals with `exponent` as their last power of ten that enclose
    `num / den`, the closer one first. -/
def neighbours (tie : Tie) (num den : Nat) (exponent : Int) : List (Nat × Int) :=
  let scaled := scaleDown num den exponent
  let below := scaled.1 / scaled.2
  let rest := scaled.1 % scaled.2
  let upperFirst := match compare (2 * rest) scaled.2, tie with
    | .lt, _ => false
    | .gt, _ => true
    | .eq, .away => true
    | .eq, .even => below % 2 = 1
  if upperFirst then [(below + 1, exponent), (below, exponent)]
  else [(below, exponent), (below + 1, exponent)]

/-- The first of the decimals with at most `1, 2, …, 17` digits that reads back
    as the double with the given sign and magnitude. -/
def search (tie : Tie) (x : Float) (negative : Bool) (num den : Nat) : Option Decimal :=
  let leading := leadingPower num den
  -- The leading digit stays where it is while the grid gets finer.
  (List.range 17).findSome? fun (n : Nat) =>
    ((neighbours tie num den (leading - n)).map fun d => canonical ⟨negative, d.1, d.2⟩).find?
      fun d => d.toFloat = x

/-- The whole decimal expansion of a fraction whose denominator is a power of
    two. -/
def expansion (negative : Bool) (m : Nat) : Int → Decimal
  | .ofNat e => canonical ⟨negative, m * Nat.pow 2 e, 0⟩
  | .negSucc e => canonical ⟨negative, m * Nat.pow 5 (e + 1), .negSucc e⟩

/-- The shortest decimal that reads back as `x`; an infinity or a NaN has
    none. -/
def shortest? (tie : Tie) (x : Float) : Option Decimal :=
  match x.toModel.unpack with
  | .notANumber | .infinity _ => none
  | .zero sign => some ⟨sign matches .negative, 0, 0⟩
  | .finite sign m e _ =>
    let negative := sign matches .negative
    let fraction := exactFraction m e
    some ((search tie x negative fraction.1 fraction.2).getD (expansion negative m e))

end Decimal

end JetPlot
