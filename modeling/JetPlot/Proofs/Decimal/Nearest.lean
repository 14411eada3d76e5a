import JetPlot.Decimal.Shortest
import JetPlot.Proofs.Double.Equality

/-!
# The double of a decimal

A decimal stands for the double that its number is rounded to, and that is all that counts:
two spellings of one number are one double. In particular a decimal whose number is a double
stands for that double. So the shortest decimal of a double reads back as the double: either
it was tested to do so when it was searched for, or it is the whole expansion of the double.

* `toFloat_congr`: decimals of one number are one double;
* `rounds_ofScientific`: digits and a power of ten are rounded;
* `shortest?_spec`: the shortest decimal of a double reads back as the double.
-/

namespace JetPlot.Decimal

open Double Float.Model UnpackedFloat

/-- The number of a decimal, without its sign. -/
def magnitude (d : Decimal) : ℚ := d.digits * 10 ^ d.exponent

theorem ten_zpow_pos (e : ℤ) : (0 : ℚ) < 10 ^ e := zpow_pos (by norm_num) e

/-! ## Canonical spelling -/

section strip

variable {fuel digits : ℕ}

theorem strip_spec (fuel digits : ℕ) (exponent : ℤ) :
    ((strip fuel digits exponent).1 : ℚ) * 10 ^ (strip fuel digits exponent).2 =
      digits * 10 ^ exponent := by
  induction fuel generalizing digits exponent with
  | zero => rfl
  | succ fuel ih =>
    rw [strip]
    split
    · next h =>
      have hdigits : (digits : ℚ) = 10 * (digits / 10 : ℕ) := by
        exact_mod_cast (Nat.mul_div_cancel' (Nat.dvd_of_mod_eq_zero h)).symm
      rw [ih, hdigits, zpow_add_one₀ (by norm_num)]
      ring
    · rfl

/-- With enough fuel no factor of ten is left in the digits. -/
theorem strip_mod_ten (h : digits ≠ 0) (hlt : digits < 2 ^ fuel) (exponent : ℤ) :
    (strip fuel digits exponent).1 % 10 ≠ 0 := by
  induction fuel generalizing digits exponent with
  | zero => omega
  | succ fuel ih =>
    rw [strip]
    split
    · exact ih (by omega) (by omega) _
    · next hmod => exact hmod

end strip

section canonical

variable {c d : Decimal}

@[simp] theorem negative_canonical (d : Decimal) : d.canonical.negative = d.negative := by
  rw [canonical]
  split <;> rfl

@[simp] theorem magnitude_canonical (d : Decimal) : d.canonical.magnitude = d.magnitude := by
  rw [canonical]
  split
  · next h => rw [magnitude, magnitude, h, Nat.cast_zero, zero_mul, zero_mul]
  · exact strip_spec _ d.digits d.exponent

/-- The digits of zero are written without any power of ten. -/
theorem exponent_canonical (h : d.canonical.digits = 0) : d.canonical.exponent = 0 := by
  rw [canonical] at h ⊢
  split
  · rfl
  · next hzero =>
    rw [if_neg hzero] at h
    have hmod := strip_mod_ten hzero Nat.lt_log2_self d.exponent
    exact absurd (congrArg (· % 10) h) hmod

/-- A number has one spelling whose last digit is not zero. -/
theorem eq_of_mul_zpow_eq {m n : ℕ} {e f : ℤ} (hm : m % 10 ≠ 0) (hn : n % 10 ≠ 0)
    (h : (m : ℚ) * 10 ^ e = n * 10 ^ f) : m = n ∧ e = f := by
  -- The number with the lower exponent would have a factor of ten among its digits.
  have hle {m n : ℕ} {e f : ℤ} (hm : m % 10 ≠ 0) (h : (m : ℚ) * 10 ^ e = n * 10 ^ f) :
      f ≤ e := by
    by_contra hlt
    have hexp : f = (f - e - 1).toNat + 1 + e := by omega
    rw [hexp, zpow_add₀ (by norm_num), ← mul_assoc] at h
    have hmul : m = n * 10 ^ ((f - e - 1).toNat + 1) := by
      exact_mod_cast mul_right_cancel₀ (ten_zpow_pos e).ne' h
    rw [pow_succ, ← mul_assoc] at hmul
    exact hm (hmul ▸ Nat.mul_mod_left _ 10)
  obtain rfl := le_antisymm (hle hn h.symm) (hle hm h)
  exact ⟨by exact_mod_cast mul_right_cancel₀ (ten_zpow_pos e).ne' h, rfl⟩

theorem canonical_congr (hnegative : c.negative = d.negative) (h : c.magnitude = d.magnitude) :
    c.canonical = d.canonical := by
  have hzero {c : Decimal} : c.digits = 0 ↔ c.magnitude = 0 := by
    rw [magnitude, mul_eq_zero, or_iff_left (ten_zpow_pos _).ne', Nat.cast_eq_zero]
  by_cases hc : c.digits = 0
  · have hd : d.digits = 0 := hzero.2 (h ▸ hzero.1 hc)
    rw [canonical, canonical, if_pos hc, if_pos hd, hnegative]
  · have hd : d.digits ≠ 0 := fun hd => hc (hzero.2 (h ▸ hzero.1 hd))
    have heq := (strip_spec (c.digits.log2 + 1) c.digits c.exponent).trans
      (h.trans (strip_spec (d.digits.log2 + 1) d.digits d.exponent).symm)
    obtain ⟨hdigits, hexponent⟩ := eq_of_mul_zpow_eq (strip_mod_ten hc Nat.lt_log2_self _)
      (strip_mod_ten hd Nat.lt_log2_self _) heq
    rw [canonical, canonical, if_neg hc, if_neg hd]
    simp only [hdigits, hexponent, hnegative]

/-- Two decimals of one number are one double. -/
theorem toFloat_congr (hnegative : c.negative = d.negative) (h : c.magnitude = d.magnitude) :
    c.toFloat = d.toFloat := by
  rw [toFloat, toFloat, canonical_congr hnegative h, hnegative]

end canonical

/-! ## Rounding -/

/-- Numbers beyond the largest double become infinite. -/
theorem rounds_infinity {q : ℚ} (h : 2 ^ (1024 : ℤ) ≤ q) :
    Rounds q (ofUnpacked (.infinity .positive)) := by
  refine ⟨fun z hz hqz => ?_, fun z hz _ => ?_⟩
  · exact absurd (h.trans (hqz.trans (le_abs_self _))) (not_le.2 (abs_value_lt z))
  · obtain ⟨-, -, hlt, -⟩ := compare_infinity (regular_of_isFinite hz)
    have hunpack : (ofUnpacked (.infinity .positive)).toModel.unpack = .infinity .positive := rfl
    rw [le_iff_isLE, hunpack, hlt]
    rfl

/-- Numbers below the least positive double become zero. -/
theorem rounds_underflow {q : ℚ} (h : 0 ≤ q) (hlt : q < 2 ^ (-1074 : ℤ)) :
    Rounds q (ofUnpacked (.zero .positive)) := by
  refine ⟨fun z hz hqz => ?_, fun z hz hzq => ?_⟩
  · exact (ofUnpacked_le_iff (u := .zero .positive) trivial hz).2 (h.trans hqz)
  · refine (le_ofUnpacked_iff (u := .zero .positive) trivial hz).2 ?_
    obtain ⟨s, n, k, hc, -, hvalue⟩ := exists_canonical hz
    obtain ⟨N, hN⟩ := exists_mul_zpow_eq n hc.le_exponent
    rw [hvalue, hN] at hzq ⊢
    cases s with
    | negative => exact neg_nonpos.2 (by positivity)
    | positive =>
      -- A multiple of the least positive double below it is zero.
      have hN : (N : ℚ) * 2 ^ (-1074 : ℤ) < 1 * 2 ^ (-1074 : ℤ) := by
        rw [one_mul]
        exact hzq.trans_lt hlt
      have hN : N < 1 := by exact_mod_cast lt_of_mul_lt_mul_right hN (two_zpow_pos _).le
      rw [Nat.lt_one_iff.1 hN, Nat.cast_zero, zero_mul]
      exact le_rfl

/-- Digits with too large a power of ten are beyond the largest double. -/
theorem le_of_large {m : ℕ} {e : ℤ} (hm : m ≠ 0) (he : 2048 < e) :
    (2 : ℚ) ^ (1024 : ℤ) ≤ m * 10 ^ e :=
  calc (2 : ℚ) ^ (1024 : ℤ) ≤ 10 ^ (1024 : ℤ) := by
        exact zpow_le_zpow_left₀ (by norm_num) (by norm_num) (by norm_num)
    _ ≤ 10 ^ e := zpow_le_zpow_right₀ (by norm_num) (by omega)
    _ ≤ m * 10 ^ e := le_mul_of_one_le_left (ten_zpow_pos e).le
        (by exact_mod_cast Nat.pos_of_ne_zero hm)

/-- Digits with too small a power of ten are below the least positive double. -/
theorem lt_of_small {m : ℕ} {e : ℤ} (he : e < -(2048 + (m.log2 : ℤ))) :
    (m : ℚ) * 10 ^ e < 2 ^ (-1074 : ℤ) := by
  have hm : (m : ℚ) < 2 ^ ((m.log2 : ℤ) + 1) := by exact_mod_cast Nat.lt_log2_self
  calc (m : ℚ) * 10 ^ e < 2 ^ ((m.log2 : ℤ) + 1) * 10 ^ e :=
        mul_lt_mul_of_pos_right hm (ten_zpow_pos e)
    _ ≤ 2 ^ ((m.log2 : ℤ) + 1) * 2 ^ e := by
        refine mul_le_mul_of_nonneg_left ?_ (two_zpow_pos _).le
        obtain ⟨k, rfl⟩ := Int.exists_eq_neg_ofNat (by omega : e ≤ 0)
        rw [zpow_neg, zpow_neg]
        exact inv_anti₀ (two_zpow_pos _) (by exact_mod_cast Nat.pow_le_pow_left (by decide) k)
    _ = 2 ^ ((m.log2 : ℤ) + 1 + e) := (zpow_add₀ two_ne_zero _ _).symm
    _ ≤ 2 ^ (-1074 : ℤ) := zpow_le_zpow_right₀ one_le_two (by omega)

/-- Digits and a power of ten are rounded. -/
theorem rounds_ofScientific (m : ℕ) (e : ℤ) :
    Rounds (m * 10 ^ e) (Float.ofModel (Float.Model.ofScientific m e)) := by
  change Rounds _ (ofUnpacked (UnpackedFloat.ofScientific .binary64 m e))
  rw [UnpackedFloat.ofScientific]
  split
  · next hm =>
    rw [hm, Nat.cast_zero, zero_mul]
    exact rounds_ofUnpacked (u := .zero .positive) trivial
  · next hm =>
    split
    · next he => exact rounds_infinity (le_of_large hm he)
    · split
      · next he => exact rounds_underflow (by positivity) (lt_of_small he)
      · split
        · next he =>
          -- The digits are shifted to have enough bits, and multiplied by the power exactly.
          have hbits : 2 ^ 52 ≤ m <<< 53 * 10 ^ e.toNat := by
            rw [Nat.shiftLeft_eq]
            nlinarith [Nat.pos_of_ne_zero hm, Nat.pow_pos (n := e.toNat) (by decide : 0 < 10)]
          have hvalue : (m : ℚ) * (10 : ℚ) ^ e = (m <<< 53 * 10 ^ e.toNat : ℕ) * 2 ^ (-53 : ℤ) := by
            rw [Nat.shiftLeft_eq, Nat.cast_mul, Nat.cast_mul, Nat.cast_pow, Nat.cast_pow,
              ← zpow_natCast (n := e.toNat), Int.toNat_of_nonneg he]
            norm_num
            ring
          rw [hvalue]
          exact rounds_roundWithAccuracy_exact (.inl ((Nat.le_log2 (by omega)).2 hbits)) .positive
        · next he =>
          have hvalue : (m : ℚ) * (10 : ℚ) ^ e =
              m * 2 ^ (0 : ℤ) / ((10 ^ (-e).toNat : ℕ) * 2 ^ (0 : ℤ)) := by
            rw [Nat.cast_pow, ← zpow_natCast, Int.toNat_of_nonneg (by omega), zpow_neg,
              zpow_zero, mul_one, mul_one, div_inv_eq_mul]
            rfl
          rw [hvalue]
          exact rounds_unpacked_div .positive .positive (Nat.pos_of_ne_zero hm) (by positivity) 0 0

/-! ## Reading back -/

section toFloat

variable {x : Float} {d : Decimal} {s : Sign} {m : ℕ} {e : ℤ} {hm : 0 < m} {tie : Tie}

/-- A decimal of a double's number, with the double's sign, is that double. -/
theorem toFloat_eq (hnegative : d.negative = (s matches .negative))
    (h : d.magnitude = m * 2 ^ e) (hx : x.toModel.unpack = .finite s m e hm) : d.toFloat = x := by
  obtain ⟨hc, he⟩ := canonical_of_unpack hx
  let y := ofUnpacked (.finite .positive m e hm)
  have hunpack : y.toModel.unpack = .finite .positive m e hm :=
    (unpack_pack_finite .positive hm hc).trans (if_pos he)
  have hy : y.isFinite := by rw [isFinite_iff, hunpack]; rfl
  have hvalue : value y = m * 2 ^ e := by rw [value, hunpack]; rfl
  have hround := rounds_ofScientific d.canonical.digits d.canonical.exponent
  rw [← magnitude, magnitude_canonical, h, ← hvalue] at hround
  have hzero : value y ≠ 0 := hvalue ▸ (mul_zpow_pos hm e).ne'
  rw [toFloat, eq_of_rounds hy hzero hround, hnegative]
  refine eq_of_unpack_eq ?_
  cases s with
  | positive => exact hunpack.trans hx.symm
  | negative =>
    refine (unpack_neg hy).trans ?_
    rw [hunpack, hx]
    rfl

/-- The whole expansion of a fraction has the number of the fraction. -/
theorem magnitude_expansion (negative : Bool) (m : ℕ) (e : ℤ) :
    (expansion negative m e).magnitude = m * 2 ^ e := by
  cases e with
  | ofNat e =>
    rw [expansion, magnitude_canonical, magnitude, Int.ofNat_eq_natCast, zpow_natCast]
    simp
  | negSucc e =>
    rw [expansion, magnitude_canonical, magnitude, zpow_negSucc, zpow_negSucc,
      show (10 : ℚ) = 5 * 2 by norm_num, mul_pow, Nat.cast_mul,
      show ((Nat.pow 5 (e + 1) : ℕ) : ℚ) = 5 ^ (e + 1) from Nat.cast_pow 5 (e + 1)]
    field_simp

theorem negative_expansion (negative : Bool) (m : ℕ) (e : ℤ) :
    (expansion negative m e).negative = negative := by
  cases e <;> exact negative_canonical _

theorem exists_canonical_of_expansion (negative : Bool) (m : ℕ) (e : ℤ) :
    ∃ c : Decimal, expansion negative m e = c.canonical := by
  cases e <;> exact ⟨_, rfl⟩

/-- What the search finds reads back, and is in canonical form. -/
theorem search_spec {negative : Bool} {num den : ℕ} (h : search tie x negative num den = some d) :
    d.toFloat = x ∧ ∃ c : Decimal, d = c.canonical := by
  obtain ⟨n, -, hfind⟩ := List.exists_of_findSome?_eq_some h
  obtain ⟨c, -, rfl⟩ := List.mem_map.1 (List.mem_of_find?_eq_some hfind)
  exact ⟨by simpa using List.find?_some hfind, _, rfl⟩

/-- The shortest decimal of a double reads back as the double, and is in canonical form. -/
theorem shortest?_spec (h : shortest? tie x = some d) :
    d.toFloat = x ∧ ∃ c : Decimal, d = c.canonical := by
  rw [shortest?] at h
  split at h
  · cases h
  · cases h
  · next s hx =>
    cases h
    refine ⟨eq_of_unpack_eq ?_, ⟨_, 0, 0⟩, rfl⟩
    rw [hx]
    cases s <;> rfl
  · next s m e hm hx =>
    obtain rfl := Option.some.inj h
    generalize hsearch : search tie x _ _ _ = found
    cases found with
    | some d => exact search_spec hsearch
    | none =>
      exact ⟨toFloat_eq (negative_expansion ..) (magnitude_expansion ..) hx,
        exists_canonical_of_expansion ..⟩

/-- Every finite double has a shortest decimal. -/
theorem exists_shortest? (tie : Tie) (hx : x.isFinite) : ∃ d, shortest? tie x = some d := by
  change x.toModel.unpack.isFinite at hx
  rw [shortest?]
  cases h : x.toModel.unpack with
  | infinity s | notANumber => rw [h] at hx; cases hx
  | zero s | finite s m e hm => exact ⟨_, rfl⟩

end toFloat

end JetPlot.Decimal
