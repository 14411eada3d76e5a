/-!
# Distances

The length of the hypotenuse of a right triangle, correctly rounded. The squares
of the two legs are added up exactly, as naturals at a common power of two, so
that nothing overflows or underflows on the way; only the square root rounds.
-/

namespace JetPlot

open Float.Model UnpackedFloat

/-- The mantissa of `m · 2 ^ e` when its last bit has the power `bottom ≤ e`. -/
def aligned (bottom : Int) (m : Nat) (e : Int) : Nat := m * Nat.pow 2 (e - bottom).toNat

/-- The square root of `m · 2 ^ e` as a double. -/
def squareRoot (m : Nat) (e : Int) : Float :=
  if h : 0 < m then Float.ofModel (pack (.sqrt .binary64 (.finite .positive m e h))) else 0

/-- The double nearest to the length of the hypotenuse of a right triangle with
    legs of the lengths `|a|` and `|b|`. It is infinite as soon as one leg is,
    also if the other one is a NaN. -/
def hypot (a b : Float) : Float :=
  match a.toModel.unpack, b.toModel.unpack with
  | .infinity _, _ | _, .infinity _ => 1 / 0
  | .notANumber, _ | _, .notANumber => 0 / 0
  | .zero _, _ => b.abs
  | _, .zero _ => a.abs
  | .finite _ m e _, .finite _ n f _ =>
    let bottom := min e f
    let m := aligned bottom m e
    let n := aligned bottom n f
    -- The last bits of both squares have the power `2 * bottom`.
    squareRoot (m * m + n * n) (2 * bottom)

end JetPlot
