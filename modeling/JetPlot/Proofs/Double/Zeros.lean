import JetPlot.Proofs.Double.Equality

/-!
# The sign of a zero

There are two zeros, which are numerically equal but different doubles. Calculations go on alike
from either of them: with one zero in place of the other, the result is the same, or is a zero
again, if perhaps the other one (`Alike`).

* `alike_of_value_eq`: finite doubles with the same number are alike;
* `Alike.add`, `Alike.sub`, `Alike.neg`, `Alike.div`: so are the results of calculations.
-/

namespace JetPlot.Double

open Float.Model UnpackedFloat

/-- Whether two doubles are the same, but for the sign of a zero. -/
def Alike (x y : Float) : Prop := x = y ∨ x == 0 ∧ y == 0

/-- Whether two unpacked doubles are the same, but for the sign of a zero. -/
inductive AlikeForms : UnpackedFloat → UnpackedFloat → Prop
  | same (u : UnpackedFloat) : AlikeForms u u
  | zeros (s t : Sign) : AlikeForms (.zero s) (.zero t)

/-! ## Unpacked doubles -/

section forms

variable {u v w u' v' : UnpackedFloat}

theorem AlikeForms.trans (h : AlikeForms u v) (h' : AlikeForms v w) :
    AlikeForms u w := by
  cases h with
  | same => exact h'
  | zeros s t =>
    cases h' with
    | same => exact .zeros s t
    | zeros _ r => exact .zeros s r

theorem AlikeForms.neg (h : AlikeForms u v) : AlikeForms u.neg v.neg := by
  cases h with
  | same => exact .same _
  | zeros s t => exact .zeros _ _

/-- The sum of two zeros is a zero. -/
theorem exists_zero_add_zero (s t : Sign) :
    ∃ r, UnpackedFloat.add .binary64 (.zero s) (.zero t) = .zero r := by
  rw [UnpackedFloat.add]
  split
  · exact ⟨s, rfl⟩
  · exact ⟨.positive, rfl⟩

/-- A zero that is added to another double changes nothing, unless that is a zero, too. -/
theorem alikeForms_add_zero (s t : Sign) (u : UnpackedFloat) :
    AlikeForms (UnpackedFloat.add .binary64 u (.zero s))
      (UnpackedFloat.add .binary64 u (.zero t)) := by
  cases u with
  | infinity r | notANumber | finite r m e hm => exact .same _
  | zero r =>
    obtain ⟨a, ha⟩ := exists_zero_add_zero r s
    obtain ⟨b, hb⟩ := exists_zero_add_zero r t
    rw [ha, hb]
    exact .zeros a b

theorem alikeForms_zero_add (s t : Sign) (u : UnpackedFloat) :
    AlikeForms (UnpackedFloat.add .binary64 (.zero s) u)
      (UnpackedFloat.add .binary64 (.zero t) u) := by
  cases u with
  | infinity r | notANumber | finite r m e hm => exact .same _
  | zero r =>
    obtain ⟨a, ha⟩ := exists_zero_add_zero s r
    obtain ⟨b, hb⟩ := exists_zero_add_zero t r
    rw [ha, hb]
    exact .zeros a b

theorem AlikeForms.add (hu : AlikeForms u u') (hv : AlikeForms v v') :
    AlikeForms (UnpackedFloat.add .binary64 u v) (UnpackedFloat.add .binary64 u' v') := by
  -- One summand is replaced at a time.
  have hleft : AlikeForms (UnpackedFloat.add .binary64 u v) (UnpackedFloat.add .binary64 u' v) := by
    cases hu with
    | same => exact .same _
    | zeros s t => exact alikeForms_zero_add s t v
  have hright :
      AlikeForms (UnpackedFloat.add .binary64 u' v) (UnpackedFloat.add .binary64 u' v') := by
    cases hv with
    | same => exact .same _
    | zeros s t => exact alikeForms_add_zero s t u'
  exact hleft.trans hright

/-- A zero is divided into a zero, or into a NaN. -/
theorem AlikeForms.div (h : AlikeForms u v) (w : UnpackedFloat) :
    AlikeForms (UnpackedFloat.div .binary64 u w) (UnpackedFloat.div .binary64 v w) := by
  cases h with
  | same => exact .same _
  | zeros s t =>
    cases w with
    | notANumber | zero r => exact .same _
    | infinity r | finite r m e hm => exact .zeros _ _

theorem alike_ofUnpacked (h : AlikeForms u v) : Alike (ofUnpacked u) (ofUnpacked v) := by
  have hzero (s : Sign) : ofUnpacked (.zero s) == 0 := by cases s <;> decide
  cases h with
  | same => exact .inl rfl
  | zeros s t => exact .inr ⟨hzero s, hzero t⟩

end forms

/-! ## Doubles -/

section doubles

variable {x y x' y' : Float}

theorem exists_unpack_eq_zero (h : x == 0) : ∃ s, x.toModel.unpack = .zero s := by
  have hzero : (0 : Float).toModel.unpack = .zero .positive := rfl
  rw [beq_iff_compare, hzero] at h
  cases hu : x.toModel.unpack with
  | zero s => exact ⟨s, rfl⟩
  | notANumber => rw [hu] at h; cases h
  | infinity s | finite s m e hm => rw [hu] at h; cases s <;> cases h

theorem Alike.forms (h : Alike x y) : AlikeForms x.toModel.unpack y.toModel.unpack := by
  rcases h with rfl | ⟨hx, hy⟩
  · exact .same _
  · obtain ⟨s, hs⟩ := exists_unpack_eq_zero hx
    obtain ⟨t, ht⟩ := exists_unpack_eq_zero hy
    rw [hs, ht]
    exact .zeros s t

theorem alike_of_value_eq (hx : x.isFinite) (hy : y.isFinite) (h : value x = value y) :
    Alike x y := by
  by_cases hzero : value x = 0
  · exact .inr ⟨(beq_iff hx rfl).2 hzero, (beq_iff hy rfl).2 (h ▸ hzero)⟩
  · exact .inl (eq_of_value_eq hx hy h hzero)

theorem Alike.value_eq (h : Alike x y) : value x = value y := by
  rcases h with rfl | ⟨hx, hy⟩
  · rfl
  · exact ((beq_iff (isFinite_of_beq_zero hx) rfl).1 hx).trans
      ((beq_iff (isFinite_of_beq_zero hy) rfl).1 hy).symm

theorem Alike.isFinite_iff (h : Alike x y) : x.isFinite ↔ y.isFinite := by
  rcases h with rfl | ⟨hx, hy⟩
  · exact Iff.rfl
  · exact iff_of_true (isFinite_of_beq_zero hx) (isFinite_of_beq_zero hy)

theorem Alike.neg (h : Alike x y) : Alike (-x) (-y) := alike_ofUnpacked h.forms.neg

theorem Alike.add (hx : Alike x x') (hy : Alike y y') : Alike (x + y) (x' + y') :=
  alike_ofUnpacked (hx.forms.add hy.forms)

theorem Alike.sub (hx : Alike x x') (hy : Alike y y') : Alike (x - y) (x' - y') := by
  have h := hx.forms.add hy.forms.neg
  rw [← unpacked_sub_eq, ← unpacked_sub_eq] at h
  exact alike_ofUnpacked h

theorem Alike.div (h : Alike x y) (z : Float) : Alike (x / z) (y / z) :=
  alike_ofUnpacked (h.forms.div z.toModel.unpack)

end doubles

end JetPlot.Double
