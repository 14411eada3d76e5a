import JetPlot.Proofs.Double.Arithmetic

/-!
# The middle of two doubles

* `middle_mem`: adding half of the distance of two doubles to the lower one leads to a double
  between them, though all three operations are rounded;
* `isFinite_middle_iff`: unless the distance overflows, it is finite.

The distance may be rounded up, and so may half of it. But a distance that is rounded up is
large enough to be halved exactly (`exists_half_of_lt`), and half of it is not above the exact
distance.
-/

namespace JetPlot.Double

open Float.Model UnpackedFloat

/-- All finite doubles are multiples of the least one. -/
theorem exists_int_value {x : Float} (hx : x.isFinite) :
    ∃ k : ℤ, value x = k * 2 ^ (-1074 : ℤ) := by
  obtain ⟨s, n, k, hc, -, hvalue⟩ := exists_canonical hx
  obtain ⟨N, hN⟩ := exists_mul_zpow_eq n hc.le_exponent
  exact ⟨s.apply N, by rw [hvalue, hN, cast_apply, signed_mul_zpow]⟩

variable {a b x : Float}

theorem rounds_half (hx : x.isFinite) : Rounds (value x / 2) (x / 2) := by
  have h := @rounds_div x 2 hx rfl (by rw [value_two]; exact two_ne_zero)
  rwa [value_two] at h

/-- Half of a nonnegative double is between zero and the double. -/
theorem half_mem (hx : x.isFinite) (h : 0 ≤ value x) :
    (x / 2).isFinite ∧ 0 ≤ value (x / 2) ∧ value (x / 2) ≤ value x := by
  have hlow : 0 ≤ x / 2 := (rounds_half hx).ge 0 rfl (by rw [value_zero]; linarith)
  have hhigh : x / 2 ≤ x := (rounds_half hx).le x hx (by linarith)
  have hfinite := isFinite_of_le_of_le rfl hx hlow hhigh
  exact ⟨hfinite, value_nonneg hfinite hlow, (le_iff hfinite hx).1 hhigh⟩

/-- What is not finite is not halved into something finite. -/
theorem isFinite_of_isFinite_half (h : (x / 2).isFinite) : x.isFinite := by
  have hfinite :
      (UnpackedFloat.div .binary64 x.toModel.unpack (2 : Float).toModel.unpack).isFinite :=
    isFinite_of_isFinite_ofUnpacked h
  rw [unpack_two] at hfinite
  rw [isFinite_iff]
  cases hx : x.toModel.unpack with
  | zero s | finite s m e hm => rfl
  | infinity s | notANumber => rw [hx] at hfinite; cases hfinite

theorem exists_canonical_of_pos (hx : x.isFinite) (h : 0 < value x) :
    ∃ n k, 0 < n ∧ Canonical n k ∧ k ≤ 971 ∧ value x = n * 2 ^ k := by
  obtain ⟨s, n, k, hc, hk, hvalue⟩ := exists_canonical hx
  have hnonneg : 0 ≤ (n : ℚ) * 2 ^ k := by positivity
  rw [hvalue] at h
  cases s with
  | negative => exact absurd h (not_lt.2 (neg_nonpos.2 hnonneg))
  | positive =>
    have hn : (n : ℚ) ≠ 0 := left_ne_zero_of_mul h.ne'
    exact ⟨n, k, Nat.pos_of_ne_zero (by exact_mod_cast hn), hc, hk, hvalue⟩

/-- Small multiples of the least double are doubles. -/
theorem exists_value_eq_mul {k : ℕ} (hk : k < 2 ^ 53) :
    ∃ z : Float, z.isFinite ∧ value z = k * 2 ^ (-1074 : ℤ) := by
  rcases k.eq_zero_or_pos with rfl | hpos
  · exact ⟨0, rfl, by rw [value_zero, Nat.cast_zero, zero_mul]⟩
  · exact exists_value_eq hpos ⟨hk, le_rfl, .inr rfl⟩ (by decide)

/-- A multiple of the least double is not rounded up to a double with the least exponent, for it
    would be such a double itself. -/
theorem exponent_ne_of_lt {d : ℚ} {k : ℤ} {n : ℕ} {e : ℤ} (hx : x.isFinite)
    (hrounds : Rounds d x) (hd : 0 ≤ d) (hk : d = k * 2 ^ (-1074 : ℤ)) (hlt : d < value x)
    (hc : Canonical n e) (hvalue : value x = n * 2 ^ e) : e ≠ -1074 := by
  rintro rfl
  have hkn : k < n := by
    rw [hk, hvalue] at hlt
    exact_mod_cast lt_of_mul_lt_mul_right hlt (two_zpow_pos _).le
  have hk0 : 0 ≤ k := by
    rw [hk] at hd
    exact_mod_cast nonneg_of_mul_nonneg_left hd (two_zpow_pos _)
  lift k to ℕ using hk0
  obtain ⟨z, hz, hzd⟩ := @exists_value_eq_mul k (by have := hc.mantissa_lt; omega)
  rw [← Int.cast_natCast, ← hk] at hzd
  have hxz : value x ≤ value z := (le_iff hx hz).1 (hrounds.le z hz hzd.ge)
  exact absurd hxz (not_le.2 (hzd ▸ hlt))

/-- Halving takes one from the exponent, unless it is the least one. -/
theorem exists_value_eq_half {n : ℕ} {e : ℤ} (hn : 0 < n) (hc : Canonical n e) (he : e ≤ 971)
    (hexp : e ≠ -1074) : ∃ z : Float, z.isFinite ∧ value z = n * 2 ^ e / 2 := by
  have hfull : 2 ^ 52 ≤ n := hc.normal.resolve_right hexp
  have hle := hc.le_exponent
  obtain ⟨z, hz, hvalue⟩ :=
    @exists_value_eq n (e - 1) hn ⟨hc.mantissa_lt, by omega, .inl hfull⟩ (by omega)
  refine ⟨z, hz, ?_⟩
  rw [hvalue, zpow_sub_one₀ two_ne_zero]
  ring

/-- A double that a number is rounded up to can be halved exactly, and half of it is not
    above the number. -/
theorem exists_half_of_lt {d : ℚ} {k : ℤ} (hx : x.isFinite) (hrounds : Rounds d x) (hd : 0 ≤ d)
    (hk : d = k * 2 ^ (-1074 : ℤ)) (hlt : d < value x) :
    ∃ z : Float, z.isFinite ∧ value z = value x / 2 ∧ value z ≤ d := by
  obtain ⟨n, e, hn, hc, he, hvalue⟩ := exists_canonical_of_pos hx (hd.trans_lt hlt)
  have hexp := exponent_ne_of_lt hx hrounds hd hk hlt hc hvalue
  obtain ⟨z, hz, hhalf⟩ := exists_value_eq_half hn hc he hexp
  rw [← hvalue] at hhalf
  refine ⟨z, hz, hhalf, le_of_not_gt fun hdz => ?_⟩
  -- Half of the double would be nearer to the number.
  have hxz : value x ≤ value z := (le_iff hx hz).1 (hrounds.le z hz hdz.le)
  linarith

/-- Half of the distance of two doubles is not above the exact distance, though both the
    distance and its half are rounded. -/
theorem value_half_le (ha : a.isFinite) (hb : b.isFinite) (hab : a ≤ b)
    (hfinite : (b - a).isFinite) : value ((b - a) / 2) ≤ value b - value a := by
  have hdistance := rounds_sub hb ha
  have hnonneg : 0 ≤ value b - value a := sub_nonneg.2 ((le_iff ha hb).1 hab)
  obtain ⟨hhalf, -, hle⟩ := half_mem hfinite (value_sub_nonneg ha hb hab hfinite)
  rcases le_or_gt (value (b - a)) (value b - value a) with hdown | hup
  · exact hle.trans hdown
  · obtain ⟨k, hk⟩ := exists_int_value ha
    obtain ⟨l, hl⟩ := exists_int_value hb
    obtain ⟨z, hz, hzx, hzd⟩ := @exists_half_of_lt _ _ (l - k) hfinite hdistance hnonneg
      (by rw [hk, hl, Int.cast_sub, sub_mul]) hup
    exact ((le_iff hhalf hz).1 ((rounds_half hfinite).le z hz hzx.ge)).trans hzd

/-- The middle of two doubles, computed from the lower one, is between them. -/
theorem middle_mem (hab : a ≤ b) (hfinite : (b - a).isFinite) :
    a ≤ a + (b - a) / 2 ∧ a + (b - a) / 2 ≤ b := by
  obtain ⟨hb, ha⟩ := isFinite_of_isFinite_sub hfinite
  obtain ⟨hhalf, hlow, -⟩ := half_mem hfinite (value_sub_nonneg ha hb hab hfinite)
  have hhigh := value_half_le ha hb hab hfinite
  have hsum := rounds_add ha hhalf
  exact ⟨hsum.ge a ha (by linarith), hsum.le b hb (by linarith)⟩

/-- The middle of two doubles is finite just if their distance is. -/
theorem isFinite_middle_iff (hab : a ≤ b) : (a + (b - a) / 2).isFinite ↔ (b - a).isFinite := by
  constructor
  · intro hmiddle
    obtain ⟨-, hhalf⟩ := isFinite_of_isFinite_add hmiddle
    exact isFinite_of_isFinite_half hhalf
  · intro hfinite
    obtain ⟨hb, ha⟩ := isFinite_of_isFinite_sub hfinite
    obtain ⟨hlow, hhigh⟩ := middle_mem hab hfinite
    exact isFinite_of_le_of_le ha hb hlow hhigh

end JetPlot.Double
