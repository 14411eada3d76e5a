import JetPlot.Proofs.Double.Arithmetic

/-!
# Equal doubles

Two doubles are the same if they are unpacked into the same form, and if they are finite and
stand for the same number other than zero. The two zeros are different doubles, though
numerically equal.

* `pack_unpack`: packing undoes unpacking, for every double;
* `eq_of_value_eq`, `eq_of_rounds`: a double other than zero is told by its number, and a number
  that is a double is rounded to just that double;
* `beq_iff`: finite doubles are numerically equal if their numbers are equal.
-/

namespace JetPlot.Double

open Float.Model UnpackedFloat

/-! ## Packing again -/

theorem toBitVec_ofBitVec (v : BitVec 1) : (Sign.ofBitVec v).toBitVec = v := by
  revert v
  decide

/-- A packed double consists of its sign, its exponent and its mantissa. -/
theorem packComponents_eq (b : BitVec Format.binary64.numBits) :
    packComponents .binary64 (.ofBitVec (unpackSign b)) (unpackExponent b) (unpackMantissa b) =
      b := by
  simp only [packComponents, toBitVec_ofBitVec, unpackSign, unpackExponent, unpackMantissa,
    BitVec.extractLsb]
  ext i hi
  grind

/-- A mantissa without its first bit is packed as it is. -/
theorem pack_subnormal (s : Sign) (v : BitVec 52) (hv : 0 < v.toNat) :
    UnpackedFloat.pack .binary64 (.finite s v.toNat (-1074) hv) =
      packComponents .binary64 s 0#11 v := by
  have hlog := (Nat.log2_lt hv.ne').2 v.isLt
  rw [pack_finite, if_neg (by decide), if_neg (by omega), BitVec.ofNat_toNat, BitVec.setWidth_eq]

/-- The first bit of a full mantissa is left out. -/
theorem pack_normal (s : Sign) (v : BitVec 52) (w : BitVec 11) (hzero : w ≠ 0#11)
    (hinf : w ≠ -1#11) (hv : 0 < (1#1 ++ v).toNat) :
    UnpackedFloat.pack .binary64 (.finite s (1#1 ++ v).toNat (w.toNat - 1075) hv) =
      packComponents .binary64 s w v := by
  have hw : w.toNat ≠ 0 := fun h => hzero (BitVec.eq_of_toNat_eq h)
  have hw' : w.toNat ≠ 2047 := fun h => hinf (BitVec.eq_of_toNat_eq h)
  have hexp : ((w.toNat : ℤ) - 1075 + 1023 + 52).toNat = w.toNat := by omega
  have hman : BitVec.ofNat 52 (1#1 ++ v).toNat = v := by
    refine BitVec.eq_of_toNat_eq ?_
    rw [toNat_one_append, BitVec.toNat_ofNat]
    omega
  have hlog : (1#1 ++ v).toNat.log2 = 52 := by
    rw [toNat_one_append]
    exact (Nat.log2_eq_iff (by omega)).2 ⟨by omega, by omega⟩
  rw [pack_finite, hexp, if_neg (by omega), if_pos (by rw [hlog]), hman, BitVec.ofNat_toNat,
    BitVec.setWidth_eq]

/-- Packing undoes unpacking. -/
theorem pack_unpack (f : Float.Model) : Float.Model.pack f.unpack = f := by
  obtain ⟨bits, hvalid⟩ := f
  suffices h : UnpackedFloat.pack .binary64 (UnpackedFloat.unpack .binary64 bits.toBitVec) =
      bits.toBitVec by
    simp only [Float.Model.pack, Float.Model.unpack, h]
  have hcomponents := packComponents_eq bits.toBitVec
  rw [UnpackedFloat.unpack]
  split
  · next hinf =>
    split
    · next hzero => rwa [hinf, hzero] at hcomponents
    · next hzero => exact (hvalid.eq_packedNaN hinf hzero).symm
  · next hinf =>
    split
    · next hleast =>
      split
      · next hzero => rwa [hleast, hzero] at hcomponents
      · next hzero =>
        rw [hleast] at hcomponents ⊢
        exact (pack_subnormal _ _ _).trans hcomponents
    · next hleast => exact (pack_normal _ _ _ hleast hinf _).trans hcomponents

/-- Doubles with the same unpacked form are the same. -/
theorem eq_of_unpack_eq {x y : Float} (h : x.toModel.unpack = y.toModel.unpack) : x = y := by
  obtain ⟨f⟩ := x
  obtain ⟨g⟩ := y
  rw [← pack_unpack f, ← pack_unpack g, h]

/-! ## Equal numbers -/

/-- A number has one canonical form. -/
theorem Canonical.eq_of_eq {m n : ℕ} {e f : ℤ} (hm : Canonical m e) (hn : Canonical n f)
    (h : (m : ℚ) * 2 ^ e = n * 2 ^ f) : m = n ∧ e = f := by
  rcases lt_trichotomy e f with hlt | rfl | hlt
  · exact absurd h (hm.lt_of_exponent_lt hn hlt).ne
  · exact ⟨by exact_mod_cast mul_right_cancel₀ (two_zpow_pos e).ne' h, rfl⟩
  · exact absurd h (hn.lt_of_exponent_lt hm hlt).ne'

section numbers

variable {x y : Float}

/-- A double other than zero is told by its number. -/
theorem eq_of_value_eq (hx : x.isFinite) (hy : y.isFinite) (h : value x = value y)
    (hzero : value x ≠ 0) : x = y := by
  refine eq_of_unpack_eq ?_
  have hu := regular_of_isFinite hx
  have hv := regular_of_isFinite hy
  rw [value] at hzero
  rw [value, value] at h
  generalize x.toModel.unpack = u at hu h hzero ⊢
  generalize y.toModel.unpack = v at hv h ⊢
  cases u with
  | infinity s | notANumber => cases hu
  | zero s => exact absurd rfl hzero
  | finite s m e hm =>
    have hpos := mul_zpow_pos hm e
    cases v with
    | infinity t | notANumber => cases hv
    | zero t => exact absurd h hzero
    | finite t n f hn =>
      have hpos' := mul_zpow_pos hn f
      -- Numbers of different signs differ, as neither is zero.
      cases s <;> cases t <;> simp only [number, signed] at h
      · obtain ⟨rfl, rfl⟩ := Canonical.eq_of_eq hu hv (neg_inj.1 h)
        rfl
      · linarith
      · linarith
      · obtain ⟨rfl, rfl⟩ := Canonical.eq_of_eq hu hv h
        rfl

/-- The number of a double other than zero is rounded to that double. -/
theorem eq_of_rounds (hx : x.isFinite) (hzero : value x ≠ 0) (h : Rounds (value x) y) : y = x := by
  have hle := h.le x hx le_rfl
  have hge := h.ge x hx le_rfl
  have hy := isFinite_of_le_of_le hx hx hge hle
  have hvalue := le_antisymm ((le_iff hx hy).1 hge) ((le_iff hy hx).1 hle)
  exact (eq_of_value_eq hx hy hvalue hzero).symm

/-! ## Numerical equality -/

theorem beq_iff_compare : x == y ↔ x.toModel.unpack.compare y.toModel.unpack = some .eq := by
  change (x.toModel.unpack.compare y.toModel.unpack == some .eq) = true ↔ _
  exact beq_iff_eq

/-- Finite doubles are numerically equal if their numbers are equal. -/
theorem beq_iff (hx : x.isFinite) (hy : y.isFinite) : x == y ↔ value x = value y := by
  rw [beq_iff_compare, compare_eq (regular_of_isFinite hx) (regular_of_isFinite hy),
    Option.some_inj, compare_eq_iff_eq]
  rfl

/-- What is numerically equal to zero is finite. -/
theorem isFinite_of_beq_zero (h : x == 0) : x.isFinite := by
  rw [beq_iff_compare] at h
  rw [isFinite_iff]
  have hzero : (0 : Float).toModel.unpack = .zero .positive := rfl
  rw [hzero] at h
  cases hu : x.toModel.unpack with
  | zero s | finite s m e hm => rfl
  | notANumber => rw [hu] at h; cases h
  | infinity s => rw [hu] at h; cases s <;> cases h

/-- The two zeros are numerically equal. -/
theorem beq_of_beq_zero (hx : x == 0) (hy : y == 0) : x == y := by
  have hx' := isFinite_of_beq_zero hx
  have hy' := isFinite_of_beq_zero hy
  exact (beq_iff hx' hy').2 (((beq_iff hx' rfl).1 hx).trans ((beq_iff hy' rfl).1 hy).symm)

theorem not_isNaN_of_isFinite (hx : x.isFinite) : ¬ x.isNaN := by
  change x.toModel.unpack.isFinite at hx
  change ¬ x.toModel.unpack.isNaN
  cases h : x.toModel.unpack with
  | infinity s | notANumber => rw [h] at hx; cases hx
  | zero s | finite s m e hm => exact Bool.false_ne_true

/-- Every double but a NaN is numerically equal to itself. -/
theorem beq_self (hx : ¬ x.isNaN) : x == x := by
  cases hfinite : x.isFinite with
  | true => exact (beq_iff hfinite hfinite).2 rfl
  | false =>
    change ¬ x.toModel.unpack.isNaN at hx
    change x.toModel.unpack.isFinite = false at hfinite
    rw [beq_iff_compare]
    generalize x.toModel.unpack = u at hx hfinite ⊢
    cases u with
    | zero s | finite s m e hm => cases hfinite
    | notANumber => exact absurd rfl hx
    | infinity s => cases s <;> rfl

end numbers

end JetPlot.Double
