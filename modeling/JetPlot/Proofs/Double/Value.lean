import Mathlib

/-!
# The numbers that doubles stand for

A finite double is `± m · 2 ^ e` in one way only, its *canonical form*: either `m` has 53
bits, or `e` is the least exponent (`Canonical`). Its rational number is `value`.

* `unpack_pack_finite`: a canonical form is packed into bits and unpacked again without
  loss, up to the exponent where it becomes infinite;
* `le_iff`, `lt_iff`: finite doubles are ordered as their numbers are;
* `ofUnpacked_le_iff`, `le_ofUnpacked_iff`: the same holds of a canonical form and a finite
  double, even if the former is packed into an infinity.
-/

namespace JetPlot.Double

open Float.Model UnpackedFloat

/-! ## Canonical forms -/

/-- Whether `m · 2 ^ e` is the canonical form of a positive double, or of a number beyond
    the largest one. -/
structure Canonical (m : ℕ) (e : ℤ) : Prop where
  /-- The mantissa has 53 bits at most. -/
  mantissa_lt : m < 2 ^ 53
  /-- The exponent is not below the least one. -/
  le_exponent : -1074 ≤ e
  /-- The mantissa has 53 bits, unless the exponent is the least one. -/
  normal : 2 ^ 52 ≤ m ∨ e = -1074

theorem toNat_one_append (v : BitVec 52) : (1#1 ++ v).toNat = 2 ^ 52 + v.toNat := by
  rw [BitVec.toNat_append, ← Nat.shiftLeft_add_eq_or_of_lt v.isLt]
  rfl

/-- A double is unpacked into a canonical form. -/
theorem canonical_of_unpack {f : Float.Model} {s : Sign} {m : ℕ} {e : ℤ} {hm : 0 < m}
    (h : f.unpack = .finite s m e hm) : Canonical m e ∧ e ≤ 971 := by
  have hbias : (Format.exponentBias .binary64 : ℤ) = 1023 := rfl
  have hexp := (@unpackExponent .binary64 f.toBits.toBitVec).isLt
  have hman := (@unpackMantissa .binary64 f.toBits.toBitVec).isLt
  rw [Float.Model.unpack, UnpackedFloat.unpack] at h
  split at h
  · split at h <;> cases h
  · next hinf =>
    split at h
    · next hzero =>
      split at h
      · cases h
      · cases h
        rw [hzero]
        exact ⟨⟨hman.trans (by decide), by decide, .inr rfl⟩, by decide⟩
    · next hzero =>
      cases h
      have hpos : (@unpackExponent .binary64 f.toBits.toBitVec).toNat ≠ 0 :=
        fun h => hzero (BitVec.eq_of_toNat_eq h)
      have hlt : (@unpackExponent .binary64 f.toBits.toBitVec).toNat ≠ 2047 :=
        fun h => hinf (BitVec.eq_of_toNat_eq h)
      rw [toNat_one_append, hbias]
      simp only at hexp hman ⊢
      exact ⟨⟨by omega, by omega, .inl (by omega)⟩, by omega⟩

theorem pack_finite (s : Sign) {m : ℕ} {e : ℤ} (hm : 0 < m) :
    UnpackedFloat.pack .binary64 (.finite s m e hm) =
      if 2048 ≤ (e + 1023 + 52).toNat + 1 then packedInfinity .binary64 s
      else if m.log2 + 1 = 53 then
        packComponents .binary64 s (BitVec.ofNat 11 (e + 1023 + 52).toNat) (BitVec.ofNat 52 m)
      else packComponents .binary64 s 0#11 (BitVec.ofNat 52 m) := rfl

theorem unpack_packedInfinity (s : Sign) :
    UnpackedFloat.unpack .binary64 (packedInfinity .binary64 s) = .infinity s := by
  cases s <;> rfl

/-- A canonical form is packed without loss, or becomes infinite. -/
theorem unpack_pack_finite (s : Sign) {m : ℕ} {e : ℤ} (hm : 0 < m) (hc : Canonical m e) :
    (Float.Model.pack (.finite s m e hm)).unpack =
      if e ≤ 971 then .finite s m e hm else .infinity s := by
  obtain ⟨hlt, hle, hnormal⟩ := hc
  change UnpackedFloat.unpack .binary64 (UnpackedFloat.pack .binary64 (.finite s m e hm)) = _
  rw [pack_finite]
  by_cases hbig : e ≤ 971
  · rw [if_neg (by omega), if_pos hbig]
    by_cases hbits : 2 ^ 52 ≤ m
    · -- The first bit of a full mantissa is left out in the packed form.
      have hlog : m.log2 = 52 := (Nat.log2_eq_iff hm.ne').2 ⟨hbits, hlt⟩
      have hman : (1#1 ++ BitVec.ofNat 52 m).toNat = m := by
        rw [toNat_one_append, BitVec.toNat_ofNat]
        omega
      have hexp : (BitVec.ofNat 11 (e + 1023 + 52).toNat).toNat = e + 1075 := by
        rw [BitVec.toNat_ofNat]
        omega
      have hinf : BitVec.ofNat 11 (e + 1023 + 52).toNat ≠ -1#11 := fun h => by
        rw [h, show (-1#11).toNat = 2047 from rfl] at hexp
        omega
      have hzero : BitVec.ofNat 11 (e + 1023 + 52).toNat ≠ 0#11 := fun h => by
        rw [h, show (0#11).toNat = 0 from rfl] at hexp
        omega
      rw [if_pos (by omega), UnpackedFloat.unpack]
      simp only [unpackMantissa_packComponents, unpackExponent_packComponents,
        unpackSign_packComponents, Sign.ofBitVec_toBitVec, hinf, hzero, if_false, hman, hexp]
      congr 1
      exact Int.add_sub_cancel ..
    · -- A mantissa with fewer bits is packed as it is.
      have hlog : m.log2 < 52 := (Nat.log2_lt hm.ne').2 (by omega)
      have he : e = -1074 := hnormal.resolve_left hbits
      have hman : (BitVec.ofNat 52 m).toNat = m := by
        rw [BitVec.toNat_ofNat]
        omega
      have hzero : BitVec.ofNat 52 m ≠ 0#52 := fun h => by
        rw [h] at hman
        exact hm.ne hman
      rw [if_neg (by omega), UnpackedFloat.unpack]
      simp only [unpackMantissa_packComponents, unpackExponent_packComponents,
        unpackSign_packComponents, Sign.ofBitVec_toBitVec, hzero, hman, he]
      rfl
  · rw [if_pos (by omega), if_neg hbig, unpack_packedInfinity]

/-! ## Numbers -/

/-- A number with a sign. -/
def signed : Sign → ℚ → ℚ
  | .negative, q => -q
  | .positive, q => q

/-- The number that an unpacked double stands for. An infinity or a NaN stands for none,
    and counts as zero. -/
def number : UnpackedFloat → ℚ
  | .finite s m e _ => signed s (m * 2 ^ e)
  | _ => 0

/-- The number that a double stands for, if it is finite. -/
def value (x : Float) : ℚ := number x.toModel.unpack

/-- Whether an unpacked double is a zero or in canonical form. -/
def Regular : UnpackedFloat → Prop
  | .zero _ => True
  | .finite _ m e _ => Canonical m e
  | _ => False

theorem regular_of_isFinite {x : Float} (hx : x.isFinite) : Regular x.toModel.unpack := by
  change x.toModel.unpack.isFinite at hx
  cases h : x.toModel.unpack with
  | zero s => trivial
  | finite s m e hm => exact (canonical_of_unpack h).1
  | infinity s | notANumber => rw [h] at hx; cases hx

theorem two_zpow_pos (e : ℤ) : (0 : ℚ) < 2 ^ e := zpow_pos two_pos e

theorem mul_zpow_pos {m : ℕ} (hm : 0 < m) (e : ℤ) : (0 : ℚ) < m * 2 ^ e :=
  mul_pos (Nat.cast_pos.2 hm) (two_zpow_pos e)

/-- A mantissa is worth less than the power of two behind its bits. -/
theorem Canonical.mul_zpow_lt {m : ℕ} {e : ℤ} (h : Canonical m e) :
    (m : ℚ) * 2 ^ e < 2 ^ (e + 53) := by
  have hlt : (m : ℚ) < 2 ^ (53 : ℤ) := by exact_mod_cast h.mantissa_lt
  rw [add_comm, zpow_add₀ two_ne_zero]
  exact mul_lt_mul_of_pos_right hlt (two_zpow_pos e)

/-- A mantissa with all of its bits is worth at least the power of two of the first one. -/
theorem zpow_le_mul_zpow {m : ℕ} (h : 2 ^ 52 ≤ m) (e : ℤ) : (2 : ℚ) ^ (e + 52) ≤ m * 2 ^ e := by
  have hle : (2 : ℚ) ^ (52 : ℤ) ≤ m := by exact_mod_cast h
  rw [add_comm, zpow_add₀ two_ne_zero]
  exact mul_le_mul_of_nonneg_right hle (two_zpow_pos e).le

/-- Of two canonical forms the one with the greater exponent is greater. -/
theorem Canonical.lt_of_exponent_lt {m n : ℕ} {e f : ℤ} (hm : Canonical m e)
    (hn : Canonical n f) (h : e < f) : (m : ℚ) * 2 ^ e < n * 2 ^ f := by
  -- The mantissa of the greater exponent, not being the least one, is full.
  have hfull : 2 ^ 52 ≤ n := hn.normal.resolve_right (by have := hm.le_exponent; omega)
  calc (m : ℚ) * 2 ^ e < 2 ^ (e + 53) := hm.mul_zpow_lt
    _ ≤ 2 ^ (f + 52) := zpow_le_zpow_right₀ one_le_two (by omega)
    _ ≤ n * 2 ^ f := zpow_le_mul_zpow hfull f

/-- Canonical forms are compared by their exponents first. -/
theorem Canonical.compare_eq {m n : ℕ} {e f : ℤ} (hm : Canonical m e) (hn : Canonical n f) :
    (compare e f).then (compare m n) = compare ((m : ℚ) * 2 ^ e) (n * 2 ^ f) := by
  rcases lt_trichotomy e f with h | rfl | h
  · rw [Int.compare_eq_lt.2 h, compare_lt_iff_lt.2 (hm.lt_of_exponent_lt hn h)]
    rfl
  · rw [Int.compare_eq_eq.2 rfl]
    have hpos := two_zpow_pos e
    rcases lt_trichotomy m n with h | rfl | h
    · rw [Nat.compare_eq_lt.2 h,
        compare_lt_iff_lt.2 (mul_lt_mul_of_pos_right (Nat.cast_lt.2 h) hpos)]
      rfl
    · rw [Nat.compare_eq_eq.2 rfl, compare_eq_iff_eq.2 rfl]
      rfl
    · rw [Nat.compare_eq_gt.2 h,
        compare_gt_iff_gt.2 (mul_lt_mul_of_pos_right (Nat.cast_lt.2 h) hpos)]
      rfl
  · rw [Int.compare_eq_gt.2 h, compare_gt_iff_gt.2 (hn.lt_of_exponent_lt hm h)]
    rfl

theorem compare_neg_neg (a b : ℚ) : compare (-a) (-b) = (compare a b).swap := by
  rcases lt_trichotomy a b with h | rfl | h
  · rw [compare_lt_iff_lt.2 h, compare_gt_iff_gt.2 (neg_lt_neg h)]
    rfl
  · rw [compare_eq_iff_eq.2 rfl, compare_eq_iff_eq.2 rfl]
    rfl
  · rw [compare_gt_iff_gt.2 h, compare_lt_iff_lt.2 (neg_lt_neg h)]
    rfl

/-- Regular doubles are compared as their numbers are. -/
theorem compare_eq {u v : UnpackedFloat} (hu : Regular u) (hv : Regular v) :
    u.compare v = some (compare (number u) (number v)) := by
  cases u with
  | infinity s | notANumber => cases hu
  | zero s =>
    cases v with
    | infinity t | notANumber => cases hv
    | zero t => exact congrArg some (compare_eq_iff_eq.2 rfl).symm
    | finite t n f hn =>
      have hpos := mul_zpow_pos hn f
      cases t with
      | positive => exact congrArg some (compare_lt_iff_lt.2 hpos).symm
      | negative => exact congrArg some (compare_gt_iff_gt.2 (neg_lt_zero.2 hpos)).symm
  | finite s m e hm =>
    have hpos := mul_zpow_pos hm e
    cases v with
    | infinity t | notANumber => cases hv
    | zero t =>
      cases s with
      | positive => exact congrArg some (compare_gt_iff_gt.2 hpos).symm
      | negative => exact congrArg some (compare_lt_iff_lt.2 (neg_lt_zero.2 hpos)).symm
    | finite t n f hn =>
      have hpos' := mul_zpow_pos hn f
      have heq := Canonical.compare_eq hu hv
      cases s <;> cases t
      · exact congrArg some ((congrArg Ordering.swap heq).trans (compare_neg_neg ..).symm)
      · exact congrArg some (compare_lt_iff_lt.2 ((neg_lt_zero.2 hpos).trans hpos')).symm
      · exact congrArg some (compare_gt_iff_gt.2 ((neg_lt_zero.2 hpos').trans hpos)).symm
      · exact congrArg some heq

/-- An infinity is beyond all finite doubles, on either side. -/
theorem compare_infinity {v : UnpackedFloat} (hv : Regular v) :
    UnpackedFloat.compare (.infinity .positive) v = some .gt ∧
      UnpackedFloat.compare (.infinity .negative) v = some .lt ∧
      v.compare (.infinity .positive) = some .lt ∧ v.compare (.infinity .negative) = some .gt := by
  cases v with
  | infinity s | notANumber => cases hv
  | zero s | finite s m e hm => exact ⟨rfl, rfl, rfl, rfl⟩

section order

variable {x y z : Float}

theorem le_iff_isLE :
    x ≤ y ↔ (x.toModel.unpack.compare y.toModel.unpack).any Ordering.isLE = true :=
  decide_eq_true_iff

theorem lt_iff_compare : x < y ↔ x.toModel.unpack.compare y.toModel.unpack = some .lt :=
  decide_eq_true_iff.trans beq_iff_eq

theorem isLE_compare {a b : ℚ} : (some (compare a b)).any Ordering.isLE = true ↔ a ≤ b := by
  rw [Option.any_some, Ordering.isLE_iff_ne_gt, compare_gt_iff_gt, not_lt]

/-- Finite doubles are ordered as their numbers are. -/
theorem le_iff (hx : x.isFinite) (hy : y.isFinite) : x ≤ y ↔ value x ≤ value y := by
  rw [le_iff_isLE, compare_eq (regular_of_isFinite hx) (regular_of_isFinite hy)]
  exact isLE_compare

theorem lt_iff (hx : x.isFinite) (hy : y.isFinite) : x < y ↔ value x < value y := by
  rw [lt_iff_compare, compare_eq (regular_of_isFinite hx) (regular_of_isFinite hy),
    Option.some_inj, compare_lt_iff_lt]
  rfl

theorem self_le (hx : x.isFinite) : x ≤ x := (le_iff hx hx).2 le_rfl

theorem le_of_lt_of_isFinite (hx : x.isFinite) (hy : y.isFinite) (h : x < y) : x ≤ y :=
  (le_iff hx hy).2 ((lt_iff hx hy).1 h).le

theorem not_le_iff (hx : x.isFinite) (hy : y.isFinite) : ¬ x ≤ y ↔ y < x := by
  rw [le_iff hx hy, lt_iff hy hx, not_le]

theorem not_lt_iff (hx : x.isFinite) (hy : y.isFinite) : ¬ x < y ↔ y ≤ x := by
  rw [lt_iff hx hy, le_iff hy hx, not_lt]

theorem le_trans_of_isFinite (hx : x.isFinite) (hy : y.isFinite) (hz : z.isFinite)
    (hxy : x ≤ y) (hyz : y ≤ z) : x ≤ z :=
  (le_iff hx hz).2 (((le_iff hx hy).1 hxy).trans ((le_iff hy hz).1 hyz))

/-- Whatever lies between two finite doubles is finite. -/
theorem isFinite_of_le_of_le (hx : x.isFinite) (hz : z.isFinite) (hxy : x ≤ y) (hyz : y ≤ z) :
    y.isFinite := by
  rw [le_iff_isLE] at hxy hyz
  change y.toModel.unpack.isFinite
  obtain ⟨-, -, -, hx⟩ := compare_infinity (regular_of_isFinite hx)
  obtain ⟨hz, -⟩ := compare_infinity (regular_of_isFinite hz)
  cases h : y.toModel.unpack with
  | zero s | finite s m e hm => rfl
  | notANumber =>
    rw [h] at hyz
    cases hyz
  | infinity s =>
    rw [h] at hxy hyz
    cases s with
    | positive =>
      rw [hz] at hyz
      cases hyz
    | negative =>
      rw [hx] at hxy
      cases hxy

end order

/-- The largest doubles stay below the bound from which on numbers are infinite. -/
theorem abs_value_lt (x : Float) : |value x| < 2 ^ (1024 : ℤ) := by
  rw [value]
  cases h : x.toModel.unpack with
  | zero s | infinity s | notANumber => exact abs_zero.trans_lt (two_zpow_pos _)
  | finite s m e hm =>
    obtain ⟨hc, he⟩ := canonical_of_unpack h
    have hpos := mul_zpow_pos hm e
    have habs : |signed s (m * 2 ^ e)| = m * 2 ^ e := by
      cases s with
      | positive => exact abs_of_pos hpos
      | negative => exact (abs_neg _).trans (abs_of_pos hpos)
    calc |signed s (m * 2 ^ e)| = m * 2 ^ e := habs
      _ < 2 ^ (e + 53) := hc.mul_zpow_lt
      _ ≤ 2 ^ (1024 : ℤ) := zpow_le_zpow_right₀ one_le_two (by omega)

/-! ## Packing -/

/-- The double with the given unpacked form. -/
def ofUnpacked (u : UnpackedFloat) : Float := .ofModel (.pack u)

/-- A regular form is packed without loss, or becomes the infinity on its side. -/
theorem unpack_ofUnpacked {u : UnpackedFloat} (hu : Regular u) :
    (ofUnpacked u).toModel.unpack = u ∨
      (ofUnpacked u).toModel.unpack = .infinity .positive ∧ 2 ^ (1024 : ℤ) ≤ number u ∨
      (ofUnpacked u).toModel.unpack = .infinity .negative ∧ number u ≤ -2 ^ (1024 : ℤ) := by
  cases u with
  | infinity s | notANumber => cases hu
  | zero s => exact .inl unpack_packedZero
  | finite s m e hm =>
    have hunpack : (ofUnpacked (.finite s m e hm)).toModel.unpack = _ := unpack_pack_finite s hm hu
    by_cases he : e ≤ 971
    · exact .inl (hunpack.trans (if_pos he))
    · rw [hunpack, if_neg he]
      have hlarge : 2 ^ (1024 : ℤ) ≤ (m : ℚ) * 2 ^ e :=
        calc (2 : ℚ) ^ (1024 : ℤ) ≤ 2 ^ (e + 52) := zpow_le_zpow_right₀ one_le_two (by omega)
          _ ≤ m * 2 ^ e := zpow_le_mul_zpow (hu.normal.resolve_right (by omega)) e
      cases s with
      | positive => exact .inr (.inl ⟨rfl, hlarge⟩)
      | negative => exact .inr (.inr ⟨rfl, neg_le_neg hlarge⟩)

section packing

variable {u : UnpackedFloat} {z : Float}

theorem ofUnpacked_le_iff (hu : Regular u) (hz : z.isFinite) :
    ofUnpacked u ≤ z ↔ number u ≤ value z := by
  have hreg := regular_of_isFinite hz
  obtain ⟨hlow, hhigh⟩ := abs_lt.1 (abs_value_lt z)
  rw [le_iff_isLE]
  rcases unpack_ofUnpacked hu with h | ⟨h, hu⟩ | ⟨h, hu⟩
  · rw [h, compare_eq hu hreg]
    exact isLE_compare
  · rw [h, (compare_infinity hreg).1]
    exact ⟨fun h => absurd h Bool.false_ne_true, fun h => absurd (hu.trans h) (not_le.2 hhigh)⟩
  · rw [h, (compare_infinity hreg).2.1]
    exact ⟨fun _ => hu.trans hlow.le, fun _ => rfl⟩

theorem le_ofUnpacked_iff (hu : Regular u) (hz : z.isFinite) :
    z ≤ ofUnpacked u ↔ value z ≤ number u := by
  have hreg := regular_of_isFinite hz
  obtain ⟨hlow, hhigh⟩ := abs_lt.1 (abs_value_lt z)
  rw [le_iff_isLE]
  rcases unpack_ofUnpacked hu with h | ⟨h, hu⟩ | ⟨h, hu⟩
  · rw [h, compare_eq hreg hu]
    exact isLE_compare
  · rw [h, (compare_infinity hreg).2.2.1]
    exact ⟨fun _ => hhigh.le.trans hu, fun _ => rfl⟩
  · rw [h, (compare_infinity hreg).2.2.2]
    exact ⟨fun h => absurd h Bool.false_ne_true, fun h => absurd (h.trans hu) (not_le.2 hlow)⟩

end packing

end JetPlot.Double
