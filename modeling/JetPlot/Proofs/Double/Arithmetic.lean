import JetPlot.Proofs.Double.Rounding

/-!
# Arithmetic

The four operations compute with the numbers of two finite doubles and round the result.
Negation is exact.

* `rounds_add`, `rounds_sub`: a sum and a difference. The mantissas are taken to the lower of
  the two exponents, where they are added exactly;
* `rounds_mul`: a product, of mantissas with enough bits;
* `rounds_div`: a quotient, computed with enough bits and what the remainder tells of the
  others;
* `isFinite_of_isFinite_add`, `isFinite_of_isFinite_sub`: what is not finite is not lost in a sum
  or a difference.
-/

namespace JetPlot.Double

open Float.Model UnpackedFloat

/-- What is a double already is rounded to itself. -/
theorem rounds_ofUnpacked {u : UnpackedFloat} (hu : Regular u) :
    Rounds (number u) (ofUnpacked u) :=
  ⟨fun _ hz => (ofUnpacked_le_iff hu hz).2, fun _ hz => (le_ofUnpacked_iff hu hz).2⟩

/-! ## Signs -/

theorem signed_mul (s t : Sign) (p q : ℚ) : signed s p * signed t q = signed (s * t) (p * q) := by
  cases s <;> cases t
  · exact neg_mul_neg p q
  · exact neg_mul p q
  · exact mul_neg p q
  · rfl

theorem signed_div (s t : Sign) (p q : ℚ) : signed s p / signed t q = signed (s / t) (p / q) := by
  cases s <;> cases t
  · exact neg_div_neg_eq p q
  · exact neg_div q p
  · exact div_neg p
  · rfl

theorem signed_neg (s : Sign) (q : ℚ) : signed (-s) q = -signed s q := by
  cases s
  · exact (neg_neg q).symm
  · rfl

theorem cast_apply (s : Sign) (m : ℕ) : ((s.apply m : ℤ) : ℚ) = signed s m := by
  cases s
  · exact Int.cast_neg _
  · rfl

theorem signed_mul_zpow (s : Sign) (q : ℚ) (e : ℤ) : signed s q * 2 ^ e = signed s (q * 2 ^ e) := by
  cases s
  · exact neg_mul q _
  · rfl

/-! ## Doubles of given numbers -/

theorem isFinite_iff {x : Float} : x.isFinite ↔ x.toModel.unpack.isFinite := Iff.rfl

/-- Every canonical form up to the largest exponent is a double. -/
theorem exists_value_eq {m : ℕ} {e : ℤ} (hm : 0 < m) (hc : Canonical m e) (he : e ≤ 971) :
    ∃ x : Float, x.isFinite ∧ value x = m * 2 ^ e := by
  have hunpack : (ofUnpacked (.finite .positive m e hm)).toModel.unpack = _ :=
    (unpack_pack_finite .positive hm hc).trans (if_pos he)
  exact ⟨_, by rw [isFinite_iff, hunpack]; rfl, by rw [value, hunpack]; rfl⟩

/-- What is not finite is packed into something that is not finite. -/
theorem isFinite_of_isFinite_ofUnpacked {u : UnpackedFloat} (h : (ofUnpacked u).isFinite) :
    u.isFinite := by
  cases u with
  | zero s | finite s m e hm => rfl
  | notANumber => cases h
  | infinity s => cases s <;> cases h

theorem value_zero : value 0 = 0 := rfl

theorem value_one : value 1 = 1 := by
  have hunpack : (1 : Float).toModel.unpack = .finite .positive (2 ^ 52) (-52) (by decide) := rfl
  rw [value, hunpack, number, signed]
  norm_num

theorem unpack_two :
    (2 : Float).toModel.unpack = .finite .positive (2 ^ 52) (-51) (by decide) := rfl

theorem value_two : value 2 = 2 := by
  rw [value, unpack_two, number, signed]
  norm_num

theorem value_nonneg {x : Float} (hx : x.isFinite) (h : 0 ≤ x) : 0 ≤ value x :=
  value_zero ▸ (le_iff rfl hx).1 h

/-! ## Negation -/

theorem regular_neg {u : UnpackedFloat} (hu : Regular u) : Regular u.neg := by
  cases u with
  | infinity s | notANumber => cases hu
  | zero s | finite s m e hm => exact hu

theorem number_neg (u : UnpackedFloat) : number u.neg = -number u := by
  cases u with
  | infinity s | notANumber | zero s => exact neg_zero.symm
  | finite s m e hm => exact signed_neg s _

theorem isFinite_unpacked_neg (u : UnpackedFloat) : u.neg.isFinite = u.isFinite := by
  cases u <;> rfl

/-- The negation of a finite double is exact. -/
theorem unpack_neg {x : Float} (hx : x.isFinite) : (-x).toModel.unpack = x.toModel.unpack.neg := by
  change (ofUnpacked x.toModel.unpack.neg).toModel.unpack = _
  rw [isFinite_iff] at hx
  cases h : x.toModel.unpack with
  | infinity s | notANumber => rw [h] at hx; cases hx
  | zero s => exact unpack_packedZero
  | finite s m e hm =>
    obtain ⟨hc, he⟩ := canonical_of_unpack h
    exact (unpack_pack_finite (-s) hm hc).trans (if_pos he)

theorem isFinite_neg {x : Float} (hx : x.isFinite) : (-x).isFinite := by
  rwa [isFinite_iff, unpack_neg hx, isFinite_unpacked_neg]

/-! ## Sums and differences -/

theorem rounds_unpacked_add {u v : UnpackedFloat} (hu : Regular u) (hv : Regular v) :
    Rounds (number u + number v) (ofUnpacked (UnpackedFloat.add .binary64 u v)) := by
  cases u with
  | infinity s | notANumber => cases hu
  | zero s =>
    cases v with
    | infinity t | notANumber => cases hv
    | zero t =>
      rw [UnpackedFloat.add, show number (.zero s) + number (.zero t) = 0 from add_zero 0]
      split
      · exact rounds_ofUnpacked (u := .zero s) trivial
      · exact rounds_ofUnpacked (u := .zero .positive) trivial
    | finite t n f hn =>
      rw [show number (.zero s) = 0 from rfl, zero_add]
      exact rounds_ofUnpacked hv
  | finite s m e hm =>
    cases v with
    | infinity t | notANumber => cases hv
    | zero t =>
      rw [show number (.zero t) = 0 from rfl, add_zero]
      exact rounds_ofUnpacked hu
    | finite t n f hn =>
      -- Both mantissas are taken to the lower exponent, where they are added exactly.
      obtain ⟨he, hm⟩ := decreaseExponent_spec m e (min e f)
      obtain ⟨hf, hn⟩ := decreaseExponent_spec n f (min e f)
      rw [he, min_eq_right (min_le_left e f)] at hm
      rw [hf, min_eq_right (min_le_right e f)] at hn
      rw [number, number, ← hm, ← hn, ← signed_mul_zpow, ← signed_mul_zpow, ← add_mul,
        ← cast_apply, ← cast_apply, ← Int.cast_add]
      exact rounds_normalize _ _ _

/-- A difference is the sum with the negation. -/
theorem unpacked_sub_eq (u v : UnpackedFloat) :
    UnpackedFloat.sub .binary64 u v = UnpackedFloat.add .binary64 u v.neg := by
  cases u with
  | notANumber => rfl
  | infinity s | zero s => cases v <;> rfl
  | finite s m e hm =>
    cases v with
    | notANumber | infinity t | zero t => rfl
    | finite t n f hn =>
      have happly (k : ℤ) : Sign.apply (-t) k = -t.apply k := by
        cases t
        · exact (neg_neg k).symm
        · rfl
      simp only [UnpackedFloat.sub, UnpackedFloat.add, UnpackedFloat.neg, happly, sub_eq_add_neg]

/-- A sum is finite only if both of its operands are. -/
theorem isFinite_of_isFinite_unpacked_add {u v : UnpackedFloat}
    (h : (UnpackedFloat.add .binary64 u v).isFinite) : u.isFinite ∧ v.isFinite := by
  cases u with
  | notANumber => cases h
  | infinity s =>
    cases v with
    | infinity t =>
      rw [UnpackedFloat.add] at h
      split at h <;> cases h
    | notANumber | zero t | finite t n f hn => cases h
  | zero s | finite s m e hm =>
    cases v with
    | notANumber | infinity t => cases h
    | zero t | finite t n f hn => exact ⟨rfl, rfl⟩

section operands

variable {x y : Float}

/-- The sum of two finite doubles is rounded. -/
theorem rounds_add (hx : x.isFinite) (hy : y.isFinite) : Rounds (value x + value y) (x + y) :=
  rounds_unpacked_add (regular_of_isFinite hx) (regular_of_isFinite hy)

/-- The difference of two finite doubles is rounded. -/
theorem rounds_sub (hx : x.isFinite) (hy : y.isFinite) : Rounds (value x - value y) (x - y) := by
  change Rounds _ (ofUnpacked (UnpackedFloat.sub .binary64 x.toModel.unpack y.toModel.unpack))
  rw [unpacked_sub_eq, sub_eq_add_neg, value, value, ← number_neg]
  exact rounds_unpacked_add (regular_of_isFinite hx) (regular_neg (regular_of_isFinite hy))

/-- A sum is finite only if both of its operands are. -/
theorem isFinite_of_isFinite_add (h : (x + y).isFinite) : x.isFinite ∧ y.isFinite :=
  isFinite_of_isFinite_unpacked_add (isFinite_of_isFinite_ofUnpacked h)

/-- The difference of doubles in order is not negative. -/
theorem value_sub_nonneg (hx : x.isFinite) (hy : y.isFinite) (h : x ≤ y)
    (hfinite : (y - x).isFinite) : 0 ≤ value (y - x) := by
  have hle : 0 ≤ value y - value x := sub_nonneg.2 ((le_iff hx hy).1 h)
  exact value_nonneg hfinite ((rounds_sub hy hx).ge 0 rfl hle)

/-- A difference is finite only if both of its operands are. -/
theorem isFinite_of_isFinite_sub (h : (x - y).isFinite) : x.isFinite ∧ y.isFinite := by
  have hfinite : (UnpackedFloat.sub .binary64 x.toModel.unpack y.toModel.unpack).isFinite :=
    isFinite_of_isFinite_ofUnpacked h
  rw [unpacked_sub_eq] at hfinite
  have := isFinite_of_isFinite_unpacked_add hfinite
  rwa [isFinite_unpacked_neg] at this

end operands

/-! ## Products and quotients -/

/-- The product of two mantissas has enough bits. -/
theorem Canonical.rich_mul {m n : ℕ} {e f : ℤ} (hm : Canonical m e) (hn : Canonical n f)
    (hmpos : 0 < m) (hnpos : 0 < n) : Rich (m * n) (e + f) := by
  rw [Rich, Nat.le_log2 (Nat.mul_pos hmpos hnpos).ne']
  rcases hm.normal with h | rfl
  · exact .inl (h.trans (Nat.le_mul_of_pos_right m hnpos))
  · rcases hn.normal with h | rfl
    · exact .inl (h.trans (Nat.le_mul_of_pos_left n hmpos))
    · exact .inr (by decide)

/-- The product of two finite doubles is rounded. -/
theorem rounds_mul {x y : Float} (hx : x.isFinite) (hy : y.isFinite) :
    Rounds (value x * value y) (x * y) := by
  change Rounds _ (ofUnpacked (UnpackedFloat.mul .binary64 x.toModel.unpack y.toModel.unpack))
  have hu := regular_of_isFinite hx
  have hv := regular_of_isFinite hy
  rw [value, value]
  generalize x.toModel.unpack = u at hu ⊢
  generalize y.toModel.unpack = v at hv ⊢
  cases u with
  | infinity s | notANumber => cases hu
  | zero s =>
    rw [show number (.zero s) = 0 from rfl, zero_mul]
    cases v with
    | infinity t | notANumber => cases hv
    | zero t | finite t n f hn => exact rounds_ofUnpacked (u := .zero (s * t)) trivial
  | finite s m e hm =>
    cases v with
    | infinity t | notANumber => cases hv
    | zero t =>
      rw [show number (.zero t) = 0 from rfl, mul_zero]
      exact rounds_ofUnpacked (u := .zero (s * t)) trivial
    | finite t n f hn =>
      have hvalue : (m : ℚ) * 2 ^ e * (n * 2 ^ f) = (m * n : ℕ) * 2 ^ (e + f) := by
        rw [zpow_add₀ two_ne_zero, Nat.cast_mul]
        ring
      rw [number, number, signed_mul, hvalue]
      exact rounds_roundWithAccuracy_exact (Canonical.rich_mul hu hv hm hn) _

/-- The whole part of a quotient, with what the remainder tells of the next bits. -/
theorem approximates_div (a : ℕ) {b : ℕ} (hb : 0 < b) :
    Approximates (.ofMantissaAndAccuracy (a / b) (accuracyOfFraction (a % b) b)) (a / b) := by
  have hpos : (0 : ℚ) < b := Nat.cast_pos.2 hb
  have hdiv : (a : ℚ) = b * (a / b : ℕ) + (a % b : ℕ) := by
    exact_mod_cast (Nat.div_add_mod a b).symm
  have hmod : ((a % b : ℕ) : ℚ) < b := Nat.cast_lt.2 (Nat.mod_lt a hb)
  refine ⟨?_, ?_, fun h => ?_⟩
  · rw [mantissa_ofMantissaAndAccuracy]
    exact Nat.cast_div_le
  · rw [mantissa_ofMantissaAndAccuracy, div_lt_iff₀ hpos]
    linarith
  · rw [mantissa_ofMantissaAndAccuracy, div_eq_iff hpos.ne'] at h
    have hzero : a % b = 0 := by exact_mod_cast (by linarith : ((a % b : ℕ) : ℚ) = 0)
    rw [hzero]
    exact ⟨rfl, rfl⟩

/-- The exponent at which the quotient of two mantissas is computed. -/
def quotientExponent (m : ℕ) (e : ℤ) (n : ℕ) (f : ℤ) : ℤ :=
  min (e - f) (max (m.log2 + e - n.log2 - f - 53) (-1074))

theorem divCore_eq (m : ℕ) (e : ℤ) (n : ℕ) (f : ℤ) :
    divCore .binary64 m e n f =
      (m * 2 ^ (e - f - quotientExponent m e n f).toNat / n, quotientExponent m e n f,
        accuracyOfFraction (m * 2 ^ (e - f - quotientExponent m e n f).toNat % n) n) := by
  have hexp : min (e - f) (Format.binary64.targetExponent (totalExponent m e - totalExponent n f)) =
      quotientExponent m e n f := by
    change min (e - f) (max ((m.log2 : ℤ) + 1 + e - ((n.log2 : ℤ) + 1 + f) - 53) (-1074)) = _
    rw [quotientExponent]
    omega
  rw [divCore, hexp]
  simp only [Nat.shiftLeft_eq]

/-- The quotient of two mantissas has enough bits. -/
theorem rich_quotient {m n : ℕ} (hm : 0 < m) (hn : 0 < n) (e f : ℤ) :
    Rich (m * 2 ^ (e - f - quotientExponent m e n f).toNat / n) (quotientExponent m e n f) := by
  rw [Rich]
  by_cases hlow : quotientExponent m e n f ≤ -1074
  · exact .inr hlow
  · left
    have hbits : n.log2 + 1 + 52 ≤ m.log2 + (e - f - quotientExponent m e n f).toNat := by
      rw [quotientExponent] at hlow ⊢
      omega
    have hquotient : 2 ^ 52 ≤ m * 2 ^ (e - f - quotientExponent m e n f).toNat / n := by
      rw [Nat.le_div_iff_mul_le hn]
      calc 2 ^ 52 * n ≤ 2 ^ 52 * 2 ^ (n.log2 + 1) := Nat.mul_le_mul_left _ Nat.lt_log2_self.le
        _ = 2 ^ (n.log2 + 1 + 52) := by rw [← pow_add, add_comm]
        _ ≤ 2 ^ (m.log2 + (e - f - quotientExponent m e n f).toNat) :=
          Nat.pow_le_pow_right two_pos hbits
        _ = 2 ^ m.log2 * 2 ^ (e - f - quotientExponent m e n f).toNat := pow_add ..
        _ ≤ m * 2 ^ (e - f - quotientExponent m e n f).toNat :=
          Nat.mul_le_mul_right _ (Nat.log2_self_le hm.ne')
    exact (Nat.le_log2 (by omega)).2 hquotient

/-- The quotient of two mantissas is rounded. -/
theorem rounds_unpacked_div (s t : Sign) {m n : ℕ} (hm : 0 < m) (hn : 0 < n) (e f : ℤ) :
    Rounds (signed s (m * 2 ^ e) / signed t (n * 2 ^ f))
      (ofUnpacked (UnpackedFloat.div .binary64 (.finite s m e hm) (.finite t n f hn))) := by
  rw [UnpackedFloat.div, divCore_eq, signed_div]
  refine rounds_roundWithAccuracy (rich_quotient hm hn e f) ?_ _
  have hvalue : (m : ℚ) * 2 ^ e / (n * 2 ^ f) / 2 ^ quotientExponent m e n f =
      (m * 2 ^ (e - f - quotientExponent m e n f).toNat : ℕ) / n := by
    have hexp : ((e - f - quotientExponent m e n f).toNat : ℤ) =
        e - f - quotientExponent m e n f := by
      rw [quotientExponent]
      omega
    rw [Nat.cast_mul, Nat.cast_pow, Nat.cast_two, ← zpow_natCast, hexp,
      zpow_sub₀ two_ne_zero, zpow_sub₀ two_ne_zero]
    field_simp
  rw [hvalue]
  exact approximates_div _ hn

/-- The quotient of two finite doubles is rounded. -/
theorem rounds_div {x y : Float} (hx : x.isFinite) (hy : y.isFinite) (hzero : value y ≠ 0) :
    Rounds (value x / value y) (x / y) := by
  change Rounds _ (ofUnpacked (UnpackedFloat.div .binary64 x.toModel.unpack y.toModel.unpack))
  have hu := regular_of_isFinite hx
  have hv := regular_of_isFinite hy
  rw [value] at hzero
  rw [value, value]
  generalize x.toModel.unpack = u at hu ⊢
  generalize y.toModel.unpack = v at hv hzero ⊢
  cases v with
  | infinity t | notANumber => cases hv
  | zero t => exact absurd rfl hzero
  | finite t n f hn =>
    cases u with
    | infinity s | notANumber => cases hu
    | zero s =>
      rw [show number (.zero s) = 0 from rfl, zero_div]
      exact rounds_ofUnpacked (u := .zero (s / t)) trivial
    | finite s m e hm => exact rounds_unpacked_div s t hm hn e f

end JetPlot.Double
