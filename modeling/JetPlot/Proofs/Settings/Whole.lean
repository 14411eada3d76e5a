import JetPlot.Proofs.Double.Signs
import JetPlot.Proofs.Json.Records
import JetPlot.Proofs.Toml.Documents

/-!
# Doubles written as integers

A double that is a whole number (`IsWhole`) may be written without point and exponent. JSON reads
such a numeral as a double at once, TOML as an integer first, which becomes a double later. Neither
loses anything as long as the integer fits into 64 bits.

* `floatOfInt_of_isWhole`: the integer of a TOML document becomes the double again;
* `numeralFloat?_integerChars`: the numeral is read as the double in JSON.
-/

namespace JetPlot.Settings

open Double Decimal Float.Model

/-- Whether a double is the given whole number. The negative zero is none. -/
structure IsWhole (x : Float) (n : ℤ) : Prop where
  finite : x.isFinite
  value_eq : value x = n
  eq_zero : n = 0 → x = 0

/-! ## The double of an integer -/

section double

variable {x : Float} {n : ℤ}

/-- The double nearest to a whole number that is a double is that double. -/
theorem floatOfInt_of_isWhole (h : IsWhole x n) : floatOfInt n = x := by
  obtain ⟨hfinite, hvalue, hzero⟩ := h
  -- There are two doubles with the number zero, so there the number alone does not tell `x`.
  by_cases hn : n = 0
  · rw [hzero hn, hn]
    rfl
  · have hmagnitude : (⟨n < 0, n.natAbs, 0⟩ : Decimal).magnitude = |value x| := by
      rw [magnitude, zpow_zero, mul_one, hvalue, Nat.cast_natAbs, Int.cast_abs]
    have hne : value x ≠ 0 := by
      rw [hvalue]
      exact_mod_cast hn
    have hnegative : decide (n < 0) = decide (value x < 0) := by
      rw [hvalue]
      exact decide_eq_decide.2 (by exact_mod_cast Iff.rfl)
    rw [value] at hmagnitude hne hnegative
    cases hx : x.toModel.unpack with
    | notANumber | infinity | zero => rw [hx] at hne; exact absurd rfl hne
    | finite s m e hm =>
      rw [hx] at hmagnitude hnegative
      have hpos : (0 : ℚ) < m * 2 ^ e := mul_zpow_pos hm e
      cases s with
      | positive =>
        refine toFloat_eq (hnegative.trans ?_) (hmagnitude.trans (abs_of_pos hpos)) hx
        exact decide_eq_false hpos.not_gt
      | negative =>
        refine toFloat_eq (hnegative.trans ?_) (hmagnitude.trans ?_) hx
        · exact decide_eq_true (neg_neg_of_pos hpos)
        · exact (abs_neg _).trans (abs_of_pos hpos)

/-- A sign in front of digits is that of their double. -/
theorem toFloat_signed (negative : Bool) (digits : ℕ) :
    toFloat ⟨negative, digits, 0⟩ =
      if negative then -toFloat ⟨false, digits, 0⟩ else toFloat ⟨false, digits, 0⟩ := by
  cases negative with
  | false => rfl
  | true =>
    have hcanonical : (canonical ⟨true, digits, 0⟩).digits = (canonical ⟨false, digits, 0⟩).digits ∧
        (canonical ⟨true, digits, 0⟩).exponent = (canonical ⟨false, digits, 0⟩).exponent := by
      rw [canonical, canonical]
      split <;> exact ⟨rfl, rfl⟩
    simp only [toFloat, hcanonical.1, hcanonical.2]
    rfl

/-- The digits of a whole number that is a double are a double. -/
theorem isWhole_natAbs (h : IsWhole x n) : ∃ y, IsWhole y n.natAbs := by
  obtain ⟨hfinite, hvalue, hzero⟩ := h
  by_cases hn : n = 0
  · exact ⟨0, rfl, by rw [hn, value_zero]; rfl, fun _ => rfl⟩
  · have hne : (n.natAbs : ℤ) ≠ 0 := by exact_mod_cast Int.natAbs_ne_zero.2 hn
    refine ⟨x.abs, isFinite_abs hfinite, ?_, fun h => absurd h hne⟩
    rw [value_abs hfinite, hvalue, Int.cast_natCast, Nat.cast_natAbs, Int.cast_abs]

/-- The digits of a natural number that is a double stand for it. -/
theorem toFloat_of_isWhole {k : ℕ} (h : IsWhole x k) : toFloat ⟨false, k, 0⟩ = x := by
  have hfloat := floatOfInt_of_isWhole h
  rwa [floatOfInt, decide_eq_false (Int.natCast_nonneg k).not_gt, Int.natAbs_natCast] at hfloat

/-- Multiplying by one is exact. -/
theorem mul_one_of_isFinite (hx : x.isFinite) (hne : value x ≠ 0) : x * 1 = x := by
  have hround := rounds_mul hx (by rfl : (1 : Float).isFinite)
  rw [value_one, mul_one] at hround
  exact eq_of_rounds hx hne hround

end double

/-! ## JSON -/

section json

open Json

variable {x : Float} {n : ℤ} {cs : List Char}

theorem le_ofDigitChars (cs : List Char) (n : ℕ) : n ≤ Nat.ofDigitChars 10 cs n := by
  rw [Nat.ofDigitChars_eq_ofDigitChars_zero]
  exact le_add_right (Nat.le_mul_of_pos_left n (Nat.pow_pos (by decide)))

/-- Digits of a number that fits into 64 bits are taken over as they are. -/
theorem ofWhole_eq {digits : ℕ} (h : Nat.ofDigitChars 10 cs digits < UInt64.size) :
    Significand.ofWhole digits cs = ⟨Nat.ofDigitChars 10 cs digits, 0⟩ := by
  induction cs generalizing digits with
  | nil => rfl
  | cons c cs ih =>
    rw [Nat.ofDigitChars_cons] at h ⊢
    -- Digits only make a number greater: what has been read so far fits if the whole does.
    have hle := le_ofDigitChars cs (10 * digits + (c.toNat - '0'.toNat))
    have hfits : 10 * digits + (c.toNat - '0'.toNat) < UInt64.size := lt_of_le_of_lt hle h
    have hpush : Significand.push? digits c = some (10 * digits + (c.toNat - '0'.toNat)) := by
      rw [Significand.push?]
      exact if_pos hfits
    rw [Significand.ofWhole_cons, hpush]
    exact ih h

/-- The double of an integer is read from its digits. -/
theorem toFloat?_of_isWhole {k : ℕ} (h : IsWhole x k) : Significand.toFloat? ⟨k, 0⟩ = some x := by
  have hone : Significand.powerOfTen 0 = 1 := by decide +kernel
  rw [Significand.toFloat?]
  change (if k = 0 then some 0 else if 308 < 0 then none else _) = _
  by_cases hk : k = 0
  · rw [if_pos hk, h.eq_zero (by rw [hk]; rfl)]
  · have hne : value x ≠ 0 := by
      rw [h.value_eq]
      exact_mod_cast hk
    rw [if_neg hk, if_neg (by decide)]
    simp only [toFloat_of_isWhole h, hone, mul_one_of_isFinite h.finite hne]
    exact if_pos h.finite

/-- A whole number that fits into 64 bits is read from its digits as a double. -/
theorem numeralFloat?_integerChars (h : IsWhole x n) (hn : n.natAbs < UInt64.size) :
    numeralFloat? (integerChars n) = some x := by
  obtain ⟨y, hy⟩ := isWhole_natAbs h
  have hdigits := isDigits_digitChars n.natAbs
  have hsign : readSign (integerChars n) = (decide (n < 0), digitChars n.natAbs) := by
    rw [integerChars]
    split
    · next hneg => rw [decide_eq_true hneg]; rfl
    · next hneg =>
      obtain ⟨c, cs, heq⟩ := List.exists_cons_of_ne_nil hdigits.1
      rw [decide_eq_false hneg, heq]
      exact readSign_of_isDigit (hdigits.2 c (heq ▸ List.mem_cons_self)) cs
  have hwhole : Significand.ofWhole 0 (digitChars n.natAbs) = ⟨n.natAbs, 0⟩ := by
    have hnumber : Nat.ofDigitChars 10 (digitChars n.natAbs) 0 = n.natAbs :=
      ofDigitChars_digitChars _
    rw [ofWhole_eq (by rwa [hnumber]), hnumber]
  have htake : (digitChars n.natAbs).takeWhile Char.isDigit = digitChars n.natAbs :=
    List.takeWhile_eq_self_iff.2 hdigits.2
  have hdrop : (digitChars n.natAbs).dropWhile Char.isDigit = [] :=
    List.dropWhile_eq_nil_iff.2 hdigits.2
  have hmagnitude : Significand.toFloat? ⟨n.natAbs, 0 + 0⟩ = some y := toFloat?_of_isWhole hy
  -- The sign is put back on the double of the digits, which is the double of the signed digits.
  have hx : (if decide (n < 0) then -y else y) = x := by
    rw [← toFloat_of_isWhole hy, ← toFloat_signed]
    exact floatOfInt_of_isWhole h
  simp only [numeralFloat?, hsign, htake, hdrop, hwhole, readExponent?, Option.bind_eq_bind,
    Option.bind_some, hmagnitude]
  exact congrArg some hx

end json

end JetPlot.Settings
