import JetPlot.Proofs.Double.Value

/-!
# Rounding

An operation on doubles computes a number exactly and rounds it. No double lies between
the number and the double it is rounded to: all finite doubles on one side of the one are
on that side of the other, or equal to it (`Rounds`). So a number that is a double is not
changed, and what lies between two doubles stays there.

* `rounds_roundWithAccuracy`: a mantissa with too many bits, or a part of one more, is
  rounded;
* `rounds_round`, `rounds_normalize`: any mantissa is.

The bits that are shifted out of a mantissa are not lost altogether: two of them record
whether anything is missing (`Approximates`).
-/

namespace JetPlot.Double

open Float.Model UnpackedFloat

/-- Whether no finite double separates a number from the double that it is rounded to. -/
structure Rounds (a : ℚ) (x : Float) : Prop where
  /-- The double is not above any finite one that the number is not above. -/
  le : ∀ z : Float, z.isFinite → a ≤ value z → x ≤ z
  /-- The double is not below any finite one that the number is not below. -/
  ge : ∀ z : Float, z.isFinite → value z ≤ a → z ≤ x

/-! ## Shifting -/

/-- Whether a mantissa is the whole part of a number, and its other bits do not hide that
    nothing is missing. -/
structure Approximates (em : ExtendedMantissa) (q : ℚ) : Prop where
  le : (em.mantissa : ℚ) ≤ q
  lt : q < em.mantissa + 1
  exact : q = em.mantissa → em.roundBit = false ∧ em.stickyBit = false

theorem Approximates.shiftRightOne {em : ExtendedMantissa} {q : ℚ} (h : Approximates em q) :
    Approximates em.shiftRightOne (q / 2) := by
  obtain ⟨m, roundBit, stickyBit⟩ := em
  obtain ⟨hle, hlt, hexact⟩ := h
  simp only at hle hlt hexact
  have hdiv : (m : ℚ) = 2 * (m / 2 : ℕ) + (m % 2 : ℕ) := by
    exact_mod_cast (Nat.div_add_mod m 2).symm
  rcases Nat.mod_two_eq_zero_or_one m with hmod | hmod
  · rw [hmod, Nat.cast_zero, add_zero] at hdiv
    refine ⟨by simp only [ExtendedMantissa.shiftRightOne]; linarith,
      by simp only [ExtendedMantissa.shiftRightOne]; linarith, fun h => ?_⟩
    simp only [ExtendedMantissa.shiftRightOne] at h ⊢
    obtain ⟨rfl, rfl⟩ := hexact (by linarith)
    simp [hmod]
  · -- The last bit is shifted out, so that the number is not whole any more.
    rw [hmod, Nat.cast_one] at hdiv
    refine ⟨by simp only [ExtendedMantissa.shiftRightOne]; linarith,
      by simp only [ExtendedMantissa.shiftRightOne]; linarith, fun h => ?_⟩
    simp only [ExtendedMantissa.shiftRightOne] at h
    linarith

theorem Approximates.shiftRight {em : ExtendedMantissa} {q : ℚ} (h : Approximates em q) (n : ℕ) :
    Approximates (em >>> n) (q / 2 ^ n) := by
  change Approximates (n.repeat _ em) _
  induction n with
  | zero => rwa [pow_zero, div_one]
  | succ n ih =>
    rw [pow_succ, ← div_div]
    exact ih.shiftRightOne

theorem mantissa_shiftRight (em : ExtendedMantissa) (n : ℕ) :
    (em >>> n).mantissa = em.mantissa / 2 ^ n := by
  change (n.repeat _ em).mantissa = _
  induction n with
  | zero => exact (Nat.div_one _).symm
  | succ n ih =>
    rw [pow_succ, ← Nat.div_div_eq_div_mul, ← ih]
    rfl

/-- A mantissa is rounded to itself or to the next one, and is not changed if nothing is
    missing. -/
theorem roundedMantissa_bounds (em : ExtendedMantissa) :
    em.mantissa ≤ em.roundedMantissa ∧ em.roundedMantissa ≤ em.mantissa + 1 ∧
      (em.roundBit = false → em.stickyBit = false → em.roundedMantissa = em.mantissa) := by
  obtain ⟨m, roundBit, stickyBit⟩ := em
  have hmod := Nat.mod_lt m two_pos
  cases roundBit <;> cases stickyBit <;>
    simp [ExtendedMantissa.roundedMantissa, ExtendedMantissa.accuracy, Accuracy.roundToNearestEven]
  omega

/-! ## Rounding on the grid -/

/-- A number with a higher power of two is one with a lower power of two too. -/
theorem exists_mul_zpow_eq (n : ℕ) {t k : ℤ} (h : t ≤ k) :
    ∃ N : ℕ, (n : ℚ) * 2 ^ k = N * 2 ^ t := by
  refine ⟨n * 2 ^ (k - t).toNat, ?_⟩
  have hk : k = (k - t).toNat + t := by omega
  rw [Nat.cast_mul, Nat.cast_pow, Nat.cast_two, mul_assoc, ← zpow_natCast,
    ← zpow_add₀ two_ne_zero, ← hk]

/-- A canonical form with a lower exponent than a full mantissa is less. -/
theorem Canonical.lt_of_full {f n : ℕ} {t k : ℤ} (hn : Canonical n k)
    (hf : 2 ^ 52 ≤ f ∨ t = -1074) (h : k < t) : (n : ℚ) * 2 ^ k < f * 2 ^ t := by
  have hfull : 2 ^ 52 ≤ f := hf.resolve_right (by have := hn.le_exponent; omega)
  calc (n : ℚ) * 2 ^ k < 2 ^ (k + 53) := hn.mul_zpow_lt
    _ ≤ 2 ^ (t + 52) := zpow_le_zpow_right₀ one_le_two (by omega)
    _ ≤ f * 2 ^ t := zpow_le_mul_zpow hfull t

section rounded

variable {em : ExtendedMantissa} {q : ℚ} {t : ℤ} {n : ℕ} {k : ℤ}

theorem Approximates.rounded_le (h : Approximates em (q / 2 ^ t))
    (hfull : 2 ^ 52 ≤ em.mantissa ∨ t = -1074) (hn : Canonical n k) (hq : q ≤ n * 2 ^ k) :
    (em.roundedMantissa : ℚ) * 2 ^ t ≤ n * 2 ^ k := by
  have hpos := two_zpow_pos t
  obtain ⟨-, hle, hexact⟩ := roundedMantissa_bounds em
  rcases lt_or_ge k t with hk | hk
  · have hlt := hn.lt_of_full hfull hk
    exact absurd (hlt.trans_le ((le_div_iff₀ hpos).1 h.le)) (not_lt.2 hq)
  · obtain ⟨N, hN⟩ := exists_mul_zpow_eq n hk
    rw [hN] at hq ⊢
    have hqN : q / 2 ^ t ≤ N := (div_le_iff₀ hpos).2 hq
    have hmN : em.mantissa ≤ N := by exact_mod_cast h.le.trans hqN
    -- On the grid the mantissa is below the double, or it is the double.
    have hrN : em.roundedMantissa ≤ N := by
      rcases hmN.lt_or_eq with hmN | rfl
      · omega
      · obtain ⟨hround, hsticky⟩ := h.exact (le_antisymm hqN h.le)
        exact (hexact hround hsticky).le
    exact mul_le_mul_of_nonneg_right (Nat.cast_le.2 hrN) hpos.le

theorem Approximates.le_rounded (h : Approximates em (q / 2 ^ t))
    (hfull : 2 ^ 52 ≤ em.mantissa ∨ t = -1074) (hn : Canonical n k) (hq : n * 2 ^ k ≤ q) :
    n * 2 ^ k ≤ (em.roundedMantissa : ℚ) * 2 ^ t := by
  have hpos := two_zpow_pos t
  obtain ⟨hle, -, -⟩ := roundedMantissa_bounds em
  have hround : (em.mantissa : ℚ) * 2 ^ t ≤ em.roundedMantissa * 2 ^ t :=
    mul_le_mul_of_nonneg_right (Nat.cast_le.2 hle) hpos.le
  rcases lt_or_ge k t with hk | hk
  · exact (hn.lt_of_full hfull hk).le.trans hround
  · obtain ⟨N, hN⟩ := exists_mul_zpow_eq n hk
    rw [hN] at hq ⊢
    have hNq : (N : ℚ) < em.mantissa + 1 := ((le_div_iff₀ hpos).2 hq).trans_lt h.lt
    have hNm : N ≤ em.mantissa := Nat.lt_succ_iff.1 (by exact_mod_cast hNq)
    exact (mul_le_mul_of_nonneg_right (Nat.cast_le.2 hNm) hpos.le).trans hround

end rounded

/-! ## Rounding a mantissa -/

/-- The exponent to which a mantissa is shifted: it keeps 53 bits, unless that exponent is
    too small. -/
def roundingExponent (m : ℕ) (e : ℤ) : ℤ := max (m.log2 + e - 52) (-1074)

/-- What is left of a mantissa at the exponent to which it is shifted. -/
def shifted (m : ℕ) (e : ℤ) (accuracy : Accuracy) : ExtendedMantissa :=
  ExtendedMantissa.ofMantissaAndAccuracy m accuracy >>> (roundingExponent m e - e).toNat

/-- Whether a mantissa has no fewer bits than it is rounded to. -/
def Rich (m : ℕ) (e : ℤ) : Prop := 52 ≤ m.log2 ∨ e ≤ -1074

theorem le_roundingExponent (m : ℕ) (e : ℤ) : -1074 ≤ roundingExponent m e := le_max_right ..

theorem Rich.le_roundingExponent {m : ℕ} {e : ℤ} (h : Rich m e) : e ≤ roundingExponent m e := by
  rw [Rich] at h
  rw [roundingExponent]
  omega

theorem targetExponent_eq (m : ℕ) (e : ℤ) :
    Format.binary64.targetExponent (totalExponent m e) = roundingExponent m e := by
  change max ((m.log2 : ℤ) + 1 + e - 53) (-1074) = _
  rw [roundingExponent]
  congr 1
  ring

theorem shiftToTargetExponent_eq {m : ℕ} {e : ℤ} (h : Rich m e) (accuracy : Accuracy) :
    shiftToTargetExponent .binary64 m e accuracy =
      (shifted m e accuracy, roundingExponent m e) := by
  have hle := h.le_roundingExponent
  rw [shiftToTargetExponent, targetExponent_eq, shiftToExponent, shifted]
  congr 1
  omega

theorem mantissa_ofMantissaAndAccuracy (m : ℕ) (accuracy : Accuracy) :
    (ExtendedMantissa.ofMantissaAndAccuracy m accuracy).mantissa = m := by
  rcases accuracy with _ | order
  · rfl
  · cases order <;> rfl

theorem mantissa_shifted (m : ℕ) (e : ℤ) (accuracy : Accuracy) :
    (shifted m e accuracy).mantissa = m / 2 ^ (roundingExponent m e - e).toNat := by
  rw [shifted, mantissa_shiftRight, mantissa_ofMantissaAndAccuracy]

/-- A shifted mantissa has 53 bits at most, and has them all unless the exponent is the
    least one. -/
theorem shifted_bounds {m : ℕ} {e : ℤ} (h : Rich m e) (accuracy : Accuracy) :
    (shifted m e accuracy).mantissa < 2 ^ 53 ∧
      (2 ^ 52 ≤ (shifted m e accuracy).mantissa ∨ roundingExponent m e = -1074) := by
  rw [mantissa_shifted, Nat.div_lt_iff_lt_mul (by positivity),
    Nat.le_div_iff_mul_le (by positivity), ← pow_add, ← pow_add]
  rw [Rich] at h
  rw [roundingExponent]
  constructor
  · exact Nat.lt_log2_self.trans_le (Nat.pow_le_pow_right two_pos (by omega))
  · by_cases hlow : (m.log2 : ℤ) + e - 52 ≤ -1074
    · exact .inr (max_eq_right hlow)
    · -- The exponent is not the least one because of the bits of the mantissa.
      have hm : m ≠ 0 := by
        rintro rfl
        rw [Nat.log2_zero] at h hlow
        omega
      exact .inl (le_trans (Nat.pow_le_pow_right two_pos (by omega)) (Nat.log2_self_le hm))

/-- A mantissa that is rounded up to one bit too many is shifted once more, without loss. -/
theorem shiftToTargetExponent_exact {r : ℕ} {t : ℤ} (hr : r ≤ 2 ^ 53) (ht : -1074 ≤ t)
    (hfull : 2 ^ 52 ≤ r ∨ t = -1074) :
    ∃ em e, shiftToTargetExponent .binary64 r t .exact = (em, e) ∧ Canonical em.mantissa e ∧
      (em.mantissa : ℚ) * 2 ^ e = r * 2 ^ t := by
  have hrich : Rich r t := hfull.imp (fun h => (Nat.le_log2 (by omega)).2 h) fun h => h.le
  refine ⟨_, _, shiftToTargetExponent_eq hrich _, ?_⟩
  rw [mantissa_shifted]
  rcases hr.lt_or_eq with hr | rfl
  · have hexp : roundingExponent r t = t := by
      rcases le_or_gt (2 ^ 52) r with h | h
      · rw [roundingExponent, (Nat.log2_eq_iff (by omega)).2 ⟨h, hr⟩]
        omega
      · have hlog : r.log2 ≤ 52 := by
          rcases r.eq_zero_or_pos with rfl | hpos
          · decide
          · exact ((Nat.log2_lt hpos.ne').2 h).le
        rw [roundingExponent]
        omega
    rw [hexp, sub_self, Int.toNat_zero, pow_zero, Nat.div_one]
    exact ⟨⟨hr, ht, hfull⟩, rfl⟩
  · have hexp : roundingExponent (2 ^ 53) t = t + 1 := by
      rw [roundingExponent, Nat.log2_two_pow]
      omega
    rw [hexp, add_sub_cancel_left]
    refine ⟨⟨by decide, by omega, .inl (by decide)⟩, ?_⟩
    rw [zpow_add_one₀ two_ne_zero]
    norm_num
    ring

/-- A mantissa is rounded to a regular double: the rounded rest at the exponent to which it
    is shifted. -/
theorem roundWithAccuracy_spec {m : ℕ} {e : ℤ} (h : Rich m e) (s : Sign) (accuracy : Accuracy) :
    Regular (roundWithAccuracy .binary64 s m e accuracy) ∧
      number (roundWithAccuracy .binary64 s m e accuracy) =
        signed s ((shifted m e accuracy).roundedMantissa * 2 ^ roundingExponent m e) := by
  obtain ⟨hlt, hfull⟩ := shifted_bounds h accuracy
  obtain ⟨hge, hle, -⟩ := roundedMantissa_bounds (shifted m e accuracy)
  obtain ⟨em, e', hshift, hcanonical, hvalue⟩ := shiftToTargetExponent_exact (hle.trans hlt)
    (le_roundingExponent m e) (hfull.imp_left fun h => h.trans hge)
  rw [roundWithAccuracy, shiftToTargetExponent_eq h]
  simp only [hshift]
  rw [← hvalue]
  by_cases hzero : em.mantissa = 0
  · rw [dif_pos hzero, hzero, Nat.cast_zero, zero_mul]
    exact ⟨trivial, by cases s <;> rfl⟩
  · rw [dif_neg hzero]
    exact ⟨hcanonical, rfl⟩

theorem canonical_zero : Canonical 0 (-1074) := ⟨by decide, le_rfl, .inr rfl⟩

/-- The number of a finite double is a canonical form, or zero, with a sign. -/
theorem exists_canonical {z : Float} (hz : z.isFinite) :
    ∃ s n k, Canonical n k ∧ k ≤ 971 ∧ value z = signed s (n * 2 ^ k) := by
  have hregular := regular_of_isFinite hz
  rw [value]
  cases h : z.toModel.unpack with
  | infinity s | notANumber => rw [h] at hregular; cases hregular
  | zero s =>
    refine ⟨.positive, 0, -1074, canonical_zero, by decide, ?_⟩
    rw [Nat.cast_zero, zero_mul]
    rfl
  | finite s m e hm =>
    obtain ⟨hc, he⟩ := canonical_of_unpack h
    exact ⟨s, m, e, hc, he, rfl⟩

/-- If no canonical form separates a number from another one, no double separates them with
    a sign in front. -/
theorem rounds_signed {u : UnpackedFloat} {s : Sign} {q r : ℚ} (hu : Regular u)
    (hnumber : number u = signed s r) (hq : 0 ≤ q) (hr : 0 ≤ r)
    (hle : ∀ n k, Canonical n k → q ≤ n * 2 ^ k → r ≤ n * 2 ^ k)
    (hge : ∀ n k, Canonical n k → n * 2 ^ k ≤ q → n * 2 ^ k ≤ r) :
    Rounds (signed s q) (ofUnpacked u) := by
  have hzero : q ≤ 0 → r ≤ 0 := by simpa using hle _ _ canonical_zero
  constructor <;> intro z hz hqz <;> obtain ⟨t, n, k, hcanonical, -, hvalue⟩ := exists_canonical hz
  · rw [ofUnpacked_le_iff hu hz, hnumber, hvalue]
    rw [hvalue] at hqz
    have hpos : 0 ≤ (n : ℚ) * 2 ^ k := by positivity
    cases s <;> cases t <;> simp only [signed] at hqz ⊢
    · exact neg_le_neg (hge n k hcanonical (neg_le_neg_iff.1 hqz))
    · linarith
    · linarith [hzero (by linarith)]
    · exact hle n k hcanonical hqz
  · rw [le_ofUnpacked_iff hu hz, hnumber, hvalue]
    rw [hvalue] at hqz
    have hpos : 0 ≤ (n : ℚ) * 2 ^ k := by positivity
    cases s <;> cases t <;> simp only [signed] at hqz ⊢
    · exact neg_le_neg (hle n k hcanonical (neg_le_neg_iff.1 hqz))
    · linarith [hzero (by linarith)]
    · linarith
    · exact hge n k hcanonical hqz

/-- A mantissa with enough bits, and the part of one more that is missing, is rounded. -/
theorem rounds_roundWithAccuracy {m : ℕ} {e : ℤ} {accuracy : Accuracy} {q : ℚ} (h : Rich m e)
    (hq : Approximates (.ofMantissaAndAccuracy m accuracy) (q / 2 ^ e)) (s : Sign) :
    Rounds (signed s q) (ofUnpacked (roundWithAccuracy .binary64 s m e accuracy)) := by
  have hle := h.le_roundingExponent
  have hshifted : Approximates (shifted m e accuracy) (q / 2 ^ roundingExponent m e) := by
    have hexp : (roundingExponent m e - e).toNat + e = roundingExponent m e := by omega
    have := hq.shiftRight (roundingExponent m e - e).toNat
    rwa [div_div, ← zpow_natCast, ← zpow_add₀ two_ne_zero, add_comm, hexp] at this
  have hpos : 0 ≤ q := by
    have := (Nat.cast_nonneg _).trans hq.le
    rwa [le_div_iff₀ (two_zpow_pos e), zero_mul] at this
  obtain ⟨-, hfull⟩ := shifted_bounds h accuracy
  obtain ⟨hregular, hnumber⟩ := roundWithAccuracy_spec h s accuracy
  exact rounds_signed hregular hnumber hpos (by positivity)
    (fun n k hn => hshifted.rounded_le hfull hn) (fun n k hn => hshifted.le_rounded hfull hn)

theorem approximates_exact (m : ℕ) : Approximates (.ofMantissaAndAccuracy m .exact) m :=
  ⟨le_rfl, lt_add_one _, fun _ => ⟨rfl, rfl⟩⟩

theorem rounds_roundWithAccuracy_exact {m : ℕ} {e : ℤ} (h : Rich m e) (s : Sign) :
    Rounds (signed s (m * 2 ^ e)) (ofUnpacked (roundWithAccuracy .binary64 s m e .exact)) := by
  refine rounds_roundWithAccuracy h ?_ s
  rw [mul_div_cancel_right₀ _ (two_zpow_pos e).ne']
  exact approximates_exact m

/-- A mantissa at a lower exponent has more bits for the same number. -/
theorem decreaseExponent_spec (m : ℕ) (e t : ℤ) :
    (decreaseExponent m e t).2 = min e t ∧
      ((decreaseExponent m e t).1 : ℚ) * 2 ^ (decreaseExponent m e t).2 = m * 2 ^ e := by
  have hexp : e = (e - t).toNat + (e - (e - t).toNat) := by omega
  refine ⟨by rw [decreaseExponent]; omega, ?_⟩
  rw [decreaseExponent, Nat.shiftLeft_eq, Nat.cast_mul, Nat.cast_pow, Nat.cast_two, mul_assoc,
    ← zpow_natCast, ← zpow_add₀ two_ne_zero, ← hexp]

/-- A mantissa is rich at the exponent to which it is shifted. -/
theorem rich_decreaseExponent {m : ℕ} (hm : 0 < m) (e : ℤ) :
    Rich (decreaseExponent m e (roundingExponent m e)).1
      (decreaseExponent m e (roundingExponent m e)).2 := by
  have hlog : 2 ^ (m.log2 + (e - roundingExponent m e).toNat) ≤
      m * 2 ^ (e - roundingExponent m e).toNat := by
    rw [pow_add]
    exact Nat.mul_le_mul_right _ (Nat.log2_self_le hm.ne')
  have hrich := (Nat.le_log2 (by positivity)).2 hlog
  rw [Rich, (decreaseExponent_spec m e _).1, decreaseExponent, Nat.shiftLeft_eq]
  dsimp only
  rw [roundingExponent] at hrich ⊢
  omega

/-- A mantissa at any exponent is rounded. -/
theorem rounds_round {m : ℕ} (hm : 0 < m) (s : Sign) (e : ℤ) :
    Rounds (signed s (m * 2 ^ e)) (ofUnpacked (UnpackedFloat.round .binary64 s m e)) := by
  rw [UnpackedFloat.round, targetExponent_eq, ← (decreaseExponent_spec m e _).2]
  exact rounds_roundWithAccuracy_exact (rich_decreaseExponent hm e) s

/-- A whole number at any exponent is rounded. -/
theorem rounds_normalize (m e : ℤ) (s : Sign) :
    Rounds (m * 2 ^ e) (ofUnpacked (UnpackedFloat.normalize .binary64 m e s)) := by
  rw [UnpackedFloat.normalize]
  rcases lt_trichotomy m 0 with h | rfl | h
  · have hcast : (m : ℚ) = -((-m).toNat : ℚ) := by
      exact_mod_cast (by omega : m = -((-m).toNat : ℤ))
    rw [compare_lt_iff_lt.2 h, hcast, neg_mul]
    exact rounds_round (by omega) .negative e
  · rw [compare_eq_iff_eq.2 rfl, Int.cast_zero, zero_mul]
    exact rounds_signed (s := .positive) (r := 0) trivial rfl le_rfl le_rfl
      (fun _ _ _ h => h) (fun _ _ _ h => h)
  · have hcast : (m : ℚ) = (m.toNat : ℚ) := by exact_mod_cast (by omega : m = (m.toNat : ℤ))
    rw [compare_gt_iff_gt.2 h, hcast]
    exact rounds_round (by omega) .positive e

end JetPlot.Double
