import JetPlot.Geometry.Sine
import JetPlot.Proofs.Double.Signs
import JetPlot.Toolpath.Arc

/-!
# The sine up to half a turn

The sine is computed in fixed point, where every term of a series is cut off. Its sign is
right nevertheless, as far as half a turn, the double nearest to `π`:

* `le_pi`: the computed `π` is not below half a turn. The exact sum of the first terms of
  Machin's formula exceeds it by more than what is cut off;
* `nearest_multiple`: so no more than one multiple of `π` is taken off the argument, and what
  is left is below zero just then;
* `sineSeries_mem`: the terms of the Taylor series fall, so that it has the sign of the first;
* `sine_nonneg`: the sine of a double between zero and half a turn is not negative.
-/

namespace JetPlot

open Float.Model UnpackedFloat Double

namespace Sine

/-! ## The arc tangent -/

theorem arctanSeries_zero (n fuel odd : ℕ) : arctanSeries n fuel odd 0 = 0 := by
  cases fuel with
  | zero => rfl
  | succ fuel => exact if_pos rfl

theorem arctanSeries_succ (n fuel odd power : ℕ) :
    arctanSeries n (fuel + 1) odd power =
      (power / odd : ℕ) - arctanSeries n fuel (odd + 2) (power / (n * n)) := by
  rw [arctanSeries]
  split
  · next hzero =>
    rw [hzero, Nat.zero_div, Nat.zero_div, arctanSeries_zero]
    rfl
  · rfl

/-- The series of an arc tangent is between zero and its first term. -/
theorem arctanSeries_mem (n fuel power : ℕ) {odd : ℕ} (hodd : 0 < odd) :
    0 ≤ arctanSeries n fuel odd power ∧ arctanSeries n fuel odd power ≤ (power / odd : ℕ) := by
  induction fuel generalizing odd power with
  | zero => exact ⟨le_rfl, Int.natCast_nonneg _⟩
  | succ fuel ih =>
    obtain ⟨hlow, hhigh⟩ := ih (power / (n * n)) (Nat.add_pos_left hodd 2)
    -- The next term is not above this one.
    have hfall : power / (n * n) / (odd + 2) ≤ power / odd :=
      calc power / (n * n) / (odd + 2) ≤ power / (odd + 2) :=
            Nat.div_le_div_right (Nat.div_le_self ..)
        _ ≤ power / odd := Nat.div_le_div_left (Nat.le_add_right ..) hodd
    rw [arctanSeries_succ]
    omega

/-- The exact sum of the first terms of `1 / odd - 1 / (odd + 2) / n² + …`. -/
def partialSum (n : ℕ) : (odd terms : ℕ) → ℚ
  | _, 0 => 0
  | odd, terms + 1 => 1 / odd - partialSum n (odd + 2) terms / (n * n : ℕ)

theorem floor_mem {q : ℚ} (hq : 0 ≤ q) : q - 1 ≤ (⌊q⌋₊ : ℤ) ∧ ((⌊q⌋₊ : ℤ) : ℚ) ≤ q := by
  rw [Int.cast_natCast]
  exact ⟨(Nat.sub_one_lt_floor q).le, Nat.floor_le hq⟩

/-- The series is above an even number of its exact terms, and below an odd number of them, but
    for what is cut off from each term. -/
theorem arctanSeries_bounds (n fuel terms : ℕ) {odd : ℕ} (hodd : 0 < odd) {q : ℚ} (hq : 0 ≤ q) :
    (Even terms → q * partialSum n odd terms - terms ≤ arctanSeries n (fuel + terms) odd ⌊q⌋₊) ∧
      (Odd terms →
        arctanSeries n (fuel + terms) odd ⌊q⌋₊ ≤ q * partialSum n odd terms + terms) := by
  induction terms generalizing odd q with
  | zero =>
    refine ⟨fun _ => ?_, fun h => absurd h (by decide)⟩
    rw [partialSum, mul_zero, Nat.cast_zero, sub_zero]
    exact Int.cast_nonneg (arctanSeries_mem n fuel _ hodd).1
  | succ terms ih =>
    obtain ⟨hlow, hhigh⟩ := ih (Nat.add_pos_left hodd 2) (div_nonneg hq (Nat.cast_nonneg (n * n)))
    obtain ⟨hfloor, hfloor'⟩ := floor_mem (div_nonneg hq (Nat.cast_nonneg odd))
    have hsum : q * partialSum n odd (terms + 1) =
        q / odd - q / (n * n : ℕ) * partialSum n (odd + 2) terms := by
      rw [partialSum]
      ring
    rw [← Nat.add_assoc, arctanSeries_succ, ← Nat.floor_div_natCast, ← Nat.floor_div_natCast,
      hsum, Nat.cast_succ, Int.cast_sub]
    -- One term less is taken off, so that the bounds change places.
    constructor
    · intro heven
      have := hhigh (Nat.not_even_iff_odd.1 (Nat.even_add_one.1 heven))
      linarith
    · intro hodd
      have := hlow (Nat.not_odd_iff_even.1 (Nat.odd_add_one.1 hodd))
      linarith

/-! ## The number `π` -/

theorem pi_eq (bits : ℕ) : pi bits =
    (16 * arctanSeries 5 (bits + 32) 1 (2 ^ (bits + 32) / 5) -
      4 * arctanSeries 239 (bits + 32) 1 (2 ^ (bits + 32) / 239)).toNat / 2 ^ 32 := rfl

/-- Twelve terms of the one series and three of the other exceed half a turn. -/
theorem le_machin (fuel fuel' : ℕ) {x : ℕ} (hx : 2 ^ 96 ≤ x) :
    884279719003555 * x + 2 ^ 80 ≤ 2 ^ 48 * (16 * arctanSeries 5 (fuel + 12) 1 (x / 5) -
      4 * arctanSeries 239 (fuel' + 3) 1 (x / 239)) := by
  have hlarge : (2 : ℚ) ^ 96 ≤ x := by exact_mod_cast hx
  have hfive := (arctanSeries_bounds 5 fuel 12 one_pos
    (q := x / (5 : ℕ)) (by positivity)).1 (by decide)
  have h239 := (arctanSeries_bounds 239 fuel' 3 one_pos
    (q := x / (239 : ℕ)) (by positivity)).2 (by decide)
  rw [Nat.floor_div_eq_div] at hfive h239
  norm_num [partialSum] at hfive h239
  have hsum : (884279719003555 * x + 2 ^ 80 : ℚ) ≤ 2 ^ 48 *
      (16 * (arctanSeries 5 (fuel + 12) 1 (x / 5) : ℤ) -
        4 * (arctanSeries 239 (fuel' + 3) 1 (x / 239) : ℤ)) := by
    linarith
  exact_mod_cast hsum

/-- The computed `π` is not below half a turn. -/
theorem le_pi {bits : ℕ} (h : 64 ≤ bits) : 884279719003555 * 2 ^ bits ≤ 2 ^ 48 * pi bits := by
  have hx : 2 ^ 96 ≤ 2 ^ (bits + 32) := Nat.pow_le_pow_right two_pos (by omega)
  have hsum := le_machin (bits + 20) (bits + 29) hx
  have hpow : 2 ^ (bits + 32) = 2 ^ bits * 2 ^ 32 := pow_add ..
  simp only [Nat.add_assoc, Nat.reduceAdd] at hsum
  rw [pi_eq]
  omega

/-- The computed `π` is not above the first term of its formula. -/
theorem pi_le (bits : ℕ) : 5 * pi bits ≤ 16 * 2 ^ bits := by
  have hfive := (arctanSeries_mem 5 (bits + 32) (2 ^ (bits + 32) / 5) one_pos).2
  have h239 := (arctanSeries_mem 239 (bits + 32) (2 ^ (bits + 32) / 239) one_pos).1
  have hpow : 2 ^ (bits + 32) = 2 ^ bits * 2 ^ 32 := pow_add ..
  rw [Nat.div_one] at hfive
  rw [pi_eq]
  omega

/-! ## The argument -/

/-- Taking the nearest multiple of `p` off a number up to `p` leaves at most half of `p`, which
    is below zero only if `p` was taken off. -/
theorem nearest_multiple {s p b d k : ℕ} {rest : ℤ} (hsp : s ≤ p) (hpos : 0 < p)
    (hp : 5 * p ≤ 16 * (b * d)) (hd : 0 < d) (hk : k = (2 * s + p) / (2 * p))
    (hrest : rest = (s - k * p : ℤ) / d) :
    (k = 0 ∧ 0 ≤ rest ∨ k = 1 ∧ rest ≤ 0) ∧ rest.natAbs ≤ 2 * b := by
  have hd' : (0 : ℤ) < d := Int.natCast_pos.2 hd
  rcases Nat.lt_or_ge (2 * s) p with hlt | hge
  · obtain rfl : k = 0 := hk.trans (Nat.div_eq_of_lt (by omega))
    have hle : s / d ≤ 2 * b := by
      have hbd : d * (2 * b) = 2 * (b * d) := by ring
      exact Nat.div_le_of_le_mul (by omega)
    rw [Nat.cast_zero, zero_mul, sub_zero, ← Int.natCast_ediv] at hrest
    rw [hrest]
    exact ⟨.inl ⟨rfl, Int.natCast_nonneg _⟩, hle⟩
  · obtain rfl : k = 1 := hk.trans (Nat.div_eq_of_lt_le (by omega) (by omega))
    rw [Nat.cast_one, one_mul] at hrest
    have hlow : -(2 * b : ℤ) ≤ rest := by
      have hbd : -(2 * b : ℤ) * d = -(2 * (b * d : ℕ)) := by push_cast; ring
      rw [hrest, Int.le_ediv_iff_mul_le hd', hbd]
      omega
    have hhigh : rest ≤ 0 := by
      rw [hrest]
      exact Int.ediv_nonpos_of_nonpos_of_neg (by omega) hd'
    exact ⟨.inr ⟨rfl, hhigh⟩, by omega⟩

/-- A mantissa that is shifted to the right loses bits, but gains none. -/
theorem cast_shifted_le (m : ℕ) (t : ℤ) :
    ((m * 2 ^ t.toNat / 2 ^ (-t).toNat : ℕ) : ℚ) ≤ m * 2 ^ t := by
  have hexp : t = (t.toNat : ℤ) - ((-t).toNat : ℤ) := by omega
  have hpow : (2 : ℚ) ^ t = 2 ^ t.toNat / 2 ^ (-t).toNat := by
    conv_lhs => rw [hexp]
    rw [zpow_sub₀ two_ne_zero, zpow_natCast, zpow_natCast]
  refine Nat.cast_div_le.trans_eq ?_
  rw [hpow, Nat.cast_mul, Nat.cast_pow, Nat.cast_pow, Nat.cast_two, mul_div_assoc]

/-- An argument up to half a turn is not above the computed `π`. -/
theorem shifted_le_pi {bits m : ℕ} {e : ℤ} (h : 64 ≤ bits)
    (hturn : (m : ℚ) * 2 ^ e ≤ 884279719003555 / 2 ^ 48) :
    m * 2 ^ (bits + e).toNat / 2 ^ (-(bits + e)).toNat ≤ pi bits := by
  have hpi : (884279719003555 : ℚ) * 2 ^ bits ≤ 2 ^ 48 * pi bits := by exact_mod_cast le_pi h
  have hcast : ((m * 2 ^ (bits + e).toNat / 2 ^ (-(bits + e)).toNat : ℕ) : ℚ) ≤ pi bits :=
    calc ((m * 2 ^ (bits + e).toNat / 2 ^ (-(bits + e)).toNat : ℕ) : ℚ)
        ≤ m * 2 ^ (bits + e) := cast_shifted_le m _
      _ = m * 2 ^ e * 2 ^ bits := by
        rw [zpow_add₀ two_ne_zero, zpow_natCast]
        ring
      _ ≤ 884279719003555 / 2 ^ 48 * 2 ^ bits := mul_le_mul_of_nonneg_right hturn (by positivity)
      _ ≤ pi bits := by linarith
  exact_mod_cast hcast

/-- Up to half a turn, nothing or one `π` is taken off an argument, and what is left is below
    zero only in the second case. -/
theorem reduce_spec {w m : ℕ} {e : ℤ} (hw : 64 ≤ w)
    (hturn : (m : ℚ) * 2 ^ e ≤ 884279719003555 / 2 ^ 48) :
    ((reduce w m e).1 = 0 ∧ 0 ≤ (reduce w m e).2 ∨ (reduce w m e).1 = 1 ∧ (reduce w m e).2 ≤ 0) ∧
      (reduce w m e).2.natAbs ≤ 2 * 2 ^ w := by
  have hbits : 64 ≤ w + ((m.log2 + e).toNat + 8) := by omega
  have hpos : 0 < pi (w + ((m.log2 + e).toNat + 8)) := by
    have hpi := le_pi hbits
    have hpow := Nat.two_pow_pos (w + ((m.log2 + e).toNat + 8))
    omega
  exact nearest_multiple (shifted_le_pi hbits hturn) hpos (by rw [← pow_add]; exact pi_le _)
    (Nat.two_pow_pos _) rfl rfl

/-! ## The sine -/

/-- The series of the sine of an argument whose square is not above six is between zero and its
    first term. -/
theorem sineSeries_mem {w square : ℕ} (hsquare : square ≤ 6 * 2 ^ w) (fuel term : ℕ) {odd : ℕ}
    (hodd : 0 < odd) :
    0 ≤ sineSeries w square fuel odd term ∧ sineSeries w square fuel odd term ≤ term := by
  induction fuel generalizing odd term with
  | zero => exact ⟨le_rfl, Int.natCast_nonneg _⟩
  | succ fuel ih =>
    obtain ⟨hlow, hhigh⟩ := ih (term * square / 2 ^ w / ((odd + 1) * (odd + 2)))
      (Nat.add_pos_left hodd 2)
    -- The next term is not above this one.
    have hfall : term * square / 2 ^ w / ((odd + 1) * (odd + 2)) ≤ term := by
      have hsix : 6 ≤ (odd + 1) * (odd + 2) := by nlinarith
      rw [Nat.div_div_eq_div_mul]
      refine Nat.div_le_of_le_mul ?_
      calc term * square ≤ term * (6 * 2 ^ w) := Nat.mul_le_mul_left _ hsquare
        _ = 2 ^ w * 6 * term := by ring
        _ ≤ 2 ^ w * ((odd + 1) * (odd + 2)) * term :=
          Nat.mul_le_mul_right _ (Nat.mul_le_mul_left _ hsix)
    rw [sineSeries]
    split
    · exact ⟨le_rfl, Int.natCast_nonneg _⟩
    · simp only [Nat.pow_eq]
      omega

/-- The sine of an argument up to half a turn is not negative. -/
theorem approximate_nonneg {w m : ℕ} {e : ℤ} (hw : 64 ≤ w)
    (hturn : (m : ℚ) * 2 ^ e ≤ 884279719003555 / 2 ^ 48) : 0 ≤ approximate w m e := by
  obtain ⟨hcases, habs⟩ := reduce_spec hw hturn
  have hsquare : (reduce w m e).2.natAbs * (reduce w m e).2.natAbs / 2 ^ w ≤ 6 * 2 ^ w := by
    refine Nat.div_le_of_le_mul ?_
    calc (reduce w m e).2.natAbs * (reduce w m e).2.natAbs ≤ 2 * 2 ^ w * (2 * 2 ^ w) :=
          Nat.mul_le_mul habs habs
      _ ≤ 2 ^ w * (6 * 2 ^ w) := by nlinarith [Nat.zero_le (2 ^ w * 2 ^ w)]
  obtain ⟨hlow, hhigh⟩ := sineSeries_mem hsquare w (reduce w m e).2.natAbs one_pos
  simp only [approximate, Nat.pow_eq]
  split
  · exact hlow
  · next hsign =>
    -- The signs differ only if nothing is left.
    rcases hcases with ⟨hk, hrest⟩ | ⟨hk, hrest⟩
    · exact absurd (by simp [hk, hrest]) hsign
    · have hzero : (reduce w m e).2 = 0 := by
        by_contra hne
        refine hsign ?_
        simp [hk]
        omega
      rw [hzero] at hhigh ⊢
      exact neg_nonneg.2 hhigh

theorem nearest_nonneg (w : ℕ) {v : ℤ} (hv : 0 ≤ v) : 0 ≤ nearest w v := by
  rw [nearest, if_neg (not_lt.2 hv)]
  exact roundWithAccuracy_nonneg ..

/-- With any precision, the sine of an argument up to half a turn is not negative. -/
theorem sineWithin_nonneg {w m : ℕ} {e : ℤ} (fuel : ℕ) (hw : 64 ≤ w)
    (hturn : (m : ℚ) * 2 ^ e ≤ 884279719003555 / 2 ^ 48) : 0 ≤ sineWithin m e fuel w := by
  induction fuel generalizing w with
  | zero => exact nearest_nonneg w (approximate_nonneg hw hturn)
  | succ fuel ih =>
    have happroximate := approximate_nonneg hw hturn
    rw [sineWithin]
    split
    · next hsame =>
      -- Both ends of the interval are rounded to one double, and the upper end is not negative.
      rw [hsame]
      exact nearest_nonneg w (by omega)
    · exact ih (by omega)

theorem value_halfTurn : value Arc.halfTurn = 884279719003555 / 2 ^ 48 := by
  have hunpack : Arc.halfTurn.toModel.unpack =
      .finite .positive 7074237752028440 (-51) (by decide) := rfl
  rw [value, hunpack, number, signed]
  norm_num

end Sine

/-- The sine of a double between zero and half a turn is not negative. -/
theorem sine_nonneg {x : Float} (hx : x.isFinite) (h : 0 ≤ x) (hturn : x ≤ Arc.halfTurn) :
    0 ≤ sine x := by
  have hvalue := (le_iff hx (by decide)).1 hturn
  have hnonneg := value_nonneg hx h
  rw [Sine.value_halfTurn, value] at hvalue
  rw [value] at hnonneg
  rw [sine]
  split
  · next hunpack => rw [isFinite_iff, hunpack] at hx; cases hx
  · next hunpack => rw [isFinite_iff, hunpack] at hx; cases hx
  · exact h
  · next s m e hm hunpack =>
    rw [hunpack, number] at hvalue hnonneg
    cases s with
    | positive => exact Sine.sineWithin_nonneg 6 (by omega) hvalue
    | negative => exact absurd hnonneg (not_le.2 (neg_lt_zero.2 (mul_zpow_pos hm e)))

end JetPlot
