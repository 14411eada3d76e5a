import JetPlot.Proofs.Double.Arithmetic

/-!
# Signs

* `roundWithAccuracy_nonneg`: rounding keeps the sign of a mantissa;
* `two_mul_nonneg`, `div_nonneg_of_isFinite`: so do products and quotients, also of what is
  not finite;
* `value_abs`: the absolute value is exact.
-/

namespace JetPlot.Double

open Float.Model UnpackedFloat

/-! ## Rounding -/

/-- A mantissa at any exponent is packed into a double with its sign, even if it becomes zero or
    infinite. -/
theorem ofUnpacked_nonneg {m : ℕ} (e : ℤ) (hm : 0 < m) :
    0 ≤ ofUnpacked (.finite .positive m e hm) := by
  have hzero : (0 : Float).toModel.unpack = .zero .positive := rfl
  have hunpack : (ofUnpacked (.finite .positive m e hm)).toModel.unpack =
    UnpackedFloat.unpack .binary64 (UnpackedFloat.pack .binary64 (.finite .positive m e hm)) := rfl
  have hcompare (v : BitVec 11) (n : BitVec 52) (hv : v ≠ -1#11) :
      (UnpackedFloat.compare (.zero .positive)
        (UnpackedFloat.unpack .binary64 (packComponents .binary64 .positive v n))).any
        Ordering.isLE := by
    rw [UnpackedFloat.unpack]
    simp only [unpackMantissa_packComponents, unpackExponent_packComponents,
      unpackSign_packComponents, Sign.ofBitVec_toBitVec, hv, if_false]
    split
    · split <;> rfl
    · rfl
  rw [le_iff_isLE, hzero, hunpack, pack_finite]
  split
  · rw [unpack_packedInfinity]
    rfl
  · split
    · refine hcompare _ _ fun h => ?_
      have hexp := congrArg BitVec.toNat h
      rw [BitVec.toNat_ofNat, show (-1#11).toNat = 2047 from rfl] at hexp
      omega
    · exact hcompare _ _ (by decide)

/-- What is rounded keeps its sign. -/
theorem roundWithAccuracy_nonneg (m : ℕ) (e : ℤ) (accuracy : Accuracy) :
    0 ≤ ofUnpacked (roundWithAccuracy .binary64 .positive m e accuracy) := by
  rw [roundWithAccuracy]
  dsimp only
  split
  · exact (by decide : 0 ≤ ofUnpacked (.zero .positive))
  · exact ofUnpacked_nonneg _ _

/-! ## Operations -/

section nonneg

variable {x y : Float}

/-- What is not negative is a zero, a positive number or an infinity. -/
theorem unpack_of_nonneg (h : 0 ≤ x) :
    (∃ s, x.toModel.unpack = .zero s) ∨
      (∃ m e hm, x.toModel.unpack = .finite .positive m e hm) ∨
      x.toModel.unpack = .infinity .positive := by
  have hzero : (0 : Float).toModel.unpack = .zero .positive := rfl
  rw [le_iff_isLE, hzero] at h
  rcases hx : x.toModel.unpack with s | _ | s | ⟨s, m, e, hm⟩
  all_goals rw [hx] at h
  · cases s
    · cases h
    · exact .inr (.inr rfl)
  · cases h
  · exact .inl ⟨s, rfl⟩
  · cases s
    · cases h
    · exact .inr (.inl ⟨m, e, hm, rfl⟩)

theorem zero_nonneg (s : Sign) : 0 ≤ ofUnpacked (.zero s) := by
  cases s <;> decide

/-- Twice what is not negative is not negative. -/
theorem two_mul_nonneg (h : 0 ≤ x) : 0 ≤ 2 * x := by
  change 0 ≤ ofUnpacked (UnpackedFloat.mul .binary64 (2 : Float).toModel.unpack x.toModel.unpack)
  rw [unpack_two]
  rcases unpack_of_nonneg h with ⟨s, hx⟩ | ⟨m, e, hm, hx⟩ | hx <;> rw [hx]
  · exact zero_nonneg _
  · exact roundWithAccuracy_nonneg ..
  · decide

/-- A finite quotient of what is not negative is not negative. -/
theorem div_nonneg_of_isFinite (hx : 0 ≤ x) (hy : 0 ≤ y) (h : (x / y).isFinite) : 0 ≤ x / y := by
  have hfinite : (UnpackedFloat.div .binary64 x.toModel.unpack y.toModel.unpack).isFinite :=
    isFinite_of_isFinite_ofUnpacked h
  change 0 ≤ ofUnpacked (UnpackedFloat.div .binary64 x.toModel.unpack y.toModel.unpack)
  rcases unpack_of_nonneg hx with ⟨s, hx⟩ | ⟨m, e, hm, hx⟩ | hx <;>
    rcases unpack_of_nonneg hy with ⟨t, hy⟩ | ⟨n, f, hn, hy⟩ | hy <;>
    rw [hx, hy] at hfinite ⊢
  -- Nothing finite is divided by zero, and no infinity by anything.
  case inl.inl | inr.inl.inl | inr.inr.inl | inr.inr.inr.inl | inr.inr.inr.inr => cases hfinite
  case inl.inr.inl | inl.inr.inr | inr.inl.inr.inr => exact zero_nonneg _
  case inr.inl.inr.inl => exact roundWithAccuracy_nonneg ..

end nonneg

/-! ## Absolute values -/

theorem number_abs (u : UnpackedFloat) : number u.abs = |number u| := by
  cases u with
  | infinity s | notANumber | zero s => exact abs_zero.symm
  | finite s m e hm =>
    have hpos := mul_zpow_pos hm e
    cases s
    · exact ((abs_neg _).trans (abs_of_pos hpos)).symm
    · exact (abs_of_pos hpos).symm

section abs

variable {x : Float}

/-- The absolute value of a finite double is exact. -/
theorem unpack_abs (hx : x.isFinite) : x.abs.toModel.unpack = x.toModel.unpack.abs := by
  change (ofUnpacked x.toModel.unpack.abs).toModel.unpack = _
  rw [isFinite_iff] at hx
  cases h : x.toModel.unpack with
  | infinity s | notANumber => rw [h] at hx; cases hx
  | zero s => exact unpack_packedZero
  | finite s m e hm =>
    obtain ⟨hc, he⟩ := canonical_of_unpack h
    exact (unpack_pack_finite .positive hm hc).trans (if_pos he)

theorem isFinite_abs (hx : x.isFinite) : x.abs.isFinite := by
  rw [isFinite_iff] at hx ⊢
  rw [unpack_abs hx]
  cases h : x.toModel.unpack with
  | infinity s | notANumber => rw [h] at hx; cases hx
  | zero s | finite s m e hm => rfl

theorem value_abs (hx : x.isFinite) : value x.abs = |value x| := by
  rw [value, unpack_abs hx, number_abs, value]

theorem abs_nonneg_of_isFinite (hx : x.isFinite) : 0 ≤ x.abs := by
  rw [le_iff rfl (isFinite_abs hx), value_zero, value_abs hx]
  exact abs_nonneg _

end abs

end JetPlot.Double
