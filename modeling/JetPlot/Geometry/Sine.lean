/-!
# The sine

The sine of a double, correctly rounded. It is computed in fixed point: a number
`v` stands for `v / 2 ^ w`, where `w` is the working precision.

* `pi` sums up Machin's formula;
* `reduce` takes the nearest multiple of `π` off the argument, with as many more
  bits as the argument has before its point;
* `sineSeries` is the Taylor series of what is left.

The error stays below `4 · w` units of the last place. If both ends of that
interval round to one double, it is the sine; otherwise the precision is doubled
(`sineWithin`). For tiny arguments the precision grows with the number of zeros
after the point.
-/

namespace JetPlot

open Float.Model UnpackedFloat

namespace Sine

/-- The alternating series of the arc tangent of `1 / n`: the sum of
    `power / odd`, `power / n² / (odd + 2)`, … with alternating signs. -/
def arctanSeries (n : Nat) : (fuel odd power : Nat) → Int
  | 0, _, _ => 0
  | fuel + 1, odd, power =>
    if power = 0 then 0
    else (power / odd : Nat) - arctanSeries n fuel (odd + 2) (power / (n * n))

/-- The number `π` with the given number of bits after the point. -/
def pi (bits : Nat) : Nat :=
  let guarded := bits + 32
  let arctan (n : Nat) := arctanSeries n guarded 1 (Nat.pow 2 guarded / n)
  (16 * arctan 5 - 4 * arctan 239).toNat / Nat.pow 2 32

/-- The multiple of `π` nearest to `m · 2 ^ e`, and the signed distance to it
    with `w` bits after the point. -/
def reduce (w m : Nat) (e : Int) : Nat × Int :=
  let extra := (m.log2 + e).toNat + 8
  let π := pi (w + extra)
  let scaled := m * Nat.pow 2 (w + extra + e).toNat / Nat.pow 2 (-(w + extra + e)).toNat
  let k := (2 * scaled + π) / (2 * π)
  (k, ((scaled : Int) - k * π) / Nat.pow 2 extra)

/-- The Taylor series of the sine from the term `term`, which belongs to the
    power `odd` of the argument, with the given square of the argument. -/
def sineSeries (w square : Nat) : (fuel odd term : Nat) → Int
  | 0, _, _ => 0
  | fuel + 1, odd, term =>
    if term = 0 then 0
    else term - sineSeries w square fuel (odd + 2)
      (term * square / Nat.pow 2 w / ((odd + 1) * (odd + 2)))

/-- The sine of `m · 2 ^ e` with `w` bits after the point. -/
def approximate (w m : Nat) (e : Int) : Int :=
  let (k, rest) := reduce w m e
  let r := rest.natAbs
  let magnitude := sineSeries w (r * r / Nat.pow 2 w) w 1 r
  -- The sine changes its sign with every half turn.
  if (k % 2 = 0) = (0 ≤ rest) then magnitude else -magnitude

/-- The double nearest to `v / 2 ^ w`. -/
def nearest (w : Nat) (v : Int) : Float :=
  let sign : Sign := if v < 0 then .negative else .positive
  Float.ofModel (pack (.round .binary64 sign v.natAbs (-w)))

/-- The double nearest to the sine of `m · 2 ^ e`, computed with the precision
    `w` or, while that is not enough, twice as much. -/
def sineWithin (m : Nat) (e : Int) : (fuel w : Nat) → Float
  | 0, w => nearest w (approximate w m e)
  | fuel + 1, w =>
    let v := approximate w m e
    let low := nearest w (v - 4 * w)
    if low = nearest w (v + 4 * w) then low else sineWithin m e fuel (2 * w)

end Sine

/-- The double nearest to the sine of `x`. -/
def sine (x : Float) : Float :=
  match x.toModel.unpack with
  | .notANumber | .infinity _ => 0 / 0
  | .zero _ => x
  | .finite sign m e _ =>
    let result := Sine.sineWithin m e 6 (192 + (-(m.log2 + e)).toNat)
    match sign with
    | .positive => result
    | .negative => -result

end JetPlot
