import JetPlot.Decimal.Shortest

/-!
# Writing doubles

A `Style` says how the shortest decimal of a double is laid out: which numbers
are written in positional notation and which with an exponent, whether a whole
number gets a point, how an exponent is signed. `Style.text` writes a double in
a style, `fixed` writes it with a fixed number of decimal places.
-/

namespace JetPlot

/-- A way to write doubles. -/
structure Style where
  /-- Which of two equally close shortest decimals is written. -/
  tie : Tie
  /-- Whether a number whose leading digit has the given power of ten is
      written without an exponent. -/
  positional : (leading : Int) → Bool
  /-- Whether a whole number without exponent ends in `.0`. -/
  pointed : Bool
  /-- Whether a positive exponent is written with a plus sign. -/
  signedExponent : Bool

namespace Style

/-- The digits `ds` with the power of ten `exponent` at the last one, without an
    exponent. -/
def positionalChars (pointed : Bool) (ds : List Char) : (exponent : Int) → List Char
  | .ofNat k => ds ++ List.replicate k '0' ++ (if pointed then ['.', '0'] else [])
  | .negSucc k =>
    if k + 1 < ds.length then
      ds.take (ds.length - (k + 1)) ++ '.' :: ds.drop (ds.length - (k + 1))
    else '0' :: '.' :: List.replicate (k + 1 - ds.length) '0' ++ ds

/-- An exponent, with its sign. -/
def exponentChars (signed : Bool) : Int → List Char
  | .ofNat k => (if signed then ['+'] else []) ++ Decimal.digitChars k
  | .negSucc k => '-' :: Decimal.digitChars (k + 1)

/-- The digits `ds` with a point after the first one and an exponent. -/
def scientificChars (signed : Bool) (ds : List Char) (leading : Int) : List Char :=
  let significand := match ds with
    | [] => []
    | [d] => [d]
    | d :: rest => d :: '.' :: rest
  significand ++ 'e' :: exponentChars signed leading

/-- A decimal in the given style. -/
def decimalChars (style : Style) (d : Decimal) : List Char :=
  let ds := Decimal.digitChars d.digits
  let leading := d.exponent + ds.length - 1
  (if d.negative then ['-'] else []) ++
    if d.digits = 0 ∨ style.positional leading then positionalChars style.pointed ds d.exponent
    else scientificChars style.signedExponent ds leading

/-- The characters of a double in the given style. -/
def chars (style : Style) (x : Float) : List Char :=
  match Decimal.shortest? style.tie x with
  | some d => style.decimalChars d
  | none => if x.isNaN then "NaN".toList else if x < 0 then "-inf".toList else "inf".toList

/-- The text of a double in the given style. -/
def text (style : Style) (x : Float) : String := String.ofList (style.chars x)

/-- The shortest decimal without any exponent, and without a point for a whole
    number. -/
def plain : Style where
  tie := .away
  positional _ := true
  pointed := false
  signedExponent := false

end Style

namespace Decimal

/-- The natural number nearest to `num / den`, a tie going to the even one. -/
def roundFraction (num den : Nat) : Nat :=
  let below := num / den
  match compare (2 * (num % den)) den with
  | .lt => below
  | .eq => below + below % 2
  | .gt => below + 1

/-- The digits of `n`, with zeros in front up to the given length. -/
def paddedDigits (length n : Nat) : List Char :=
  let ds := digitChars n
  List.replicate (length - ds.length) '0' ++ ds

/-- A double with the given number of decimal places, at least one. The exact
    value is rounded, a tie going to the even last place; the sign stays also
    where nothing but zeros is left. -/
def fixed (places : Nat) (x : Float) : String :=
  let layout (negative : Bool) (scaled : Nat) : String :=
    let ds := paddedDigits (places + 1) scaled
    String.ofList ((if negative then ['-'] else []) ++
      ds.take (ds.length - places) ++ '.' :: ds.drop (ds.length - places))
  match x.toModel.unpack with
  | .zero sign => layout (sign matches .negative) 0
  | .finite sign m e _ =>
    let fraction := exactFraction m e
    layout (sign matches .negative) (roundFraction (fraction.1 * Nat.pow 10 places) fraction.2)
  | _ => Style.plain.text x

end Decimal

end JetPlot
