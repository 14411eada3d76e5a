import JetPlot.Proofs.Decimal.Roundtrip
import JetPlot.Proofs.Double.Middle
import JetPlot.Proofs.Double.Zeros
import JetPlot.Proofs.Viewport.Proper

/-!
# The size of a viewport

A picture is only shown if its box has a width and a height. Two different edges never have the
distance zero, however close they are (`Double.sub_pos_iff`). But the padding need not keep the
edges apart: it may be zero, or so small next to the coordinates that it is lost in rounding.

* `Absorbs`: there is only one coordinate, and it absorbs the padding;
* `size_fit_pos_iff`: the box is flat in just that case, and otherwise has a positive width and
  height;
* `not_size_fit_pos`: there are such programs.
-/

namespace JetPlot

open Double

/-- The distance of two doubles is positive if they are different: all doubles are multiples of the
    least one, so that it is not rounded down to zero. -/
theorem Double.sub_pos_iff {a b : Float} (ha : a.isFinite) (hb : b.isFinite)
    (hfinite : (b - a).isFinite) : 0 < b - a ↔ a < b := by
  have hrounds := rounds_sub hb ha
  rw [lt_iff rfl hfinite, value_zero, lt_iff ha hb]
  constructor
  · intro hpos
    by_contra hle
    have hzero : b - a ≤ 0 := hrounds.le 0 rfl (by rw [value_zero]; linarith)
    have := (le_iff hfinite rfl).1 hzero
    rw [value_zero] at this
    linarith
  · intro hlt
    obtain ⟨k, hk⟩ := exists_int_value ha
    obtain ⟨l, hl⟩ := exists_int_value hb
    obtain ⟨least, hleast, hvalue⟩ := @exists_value_eq_mul 1 (by decide)
    rw [Nat.cast_one, one_mul] at hvalue
    have hpos := two_zpow_pos (-1074)
    have hkl : k + 1 ≤ l := by
      rw [hk, hl] at hlt
      exact Int.add_one_le_of_lt (by exact_mod_cast lt_of_mul_lt_mul_right hlt hpos.le)
    have hdistance : value least ≤ value b - value a := by
      have hcast : (k : ℚ) + 1 ≤ l := by exact_mod_cast hkl
      rw [hvalue, hk, hl, ← sub_mul]
      exact le_mul_of_one_le_left hpos.le (by linarith)
    have hle := (le_iff hleast hfinite).1 (hrounds.ge least hleast hdistance)
    rw [hvalue] at hle
    exact hpos.trans_le hle

/-- Whether the numbers of a set are all the same, and adding the padding or taking it off makes no
    difference. -/
def Absorbs (s : Set Float) (padding : Float) : Prop :=
  ∃ x ∈ s, (∀ y ∈ s, y == x) ∧ x - padding == x ∧ x + padding == x

/-- The padded ends of a set come together just if it absorbs the padding. -/
theorem absorbs_iff {s : Set Float} {low high padding : Float} (hs : ∀ x ∈ s, x.isFinite)
    (hlow : IsLeast s low) (hhigh : IsGreatest s high) (hfinite : padding.isFinite)
    (hpadding : 0 ≤ padding) (hsub : (low - padding).isFinite) (hadd : (high + padding).isFinite) :
    Absorbs s padding ↔ ¬ low - padding < high + padding := by
  have hlowfinite := hs low hlow.1
  have hhighfinite := hs high hhigh.1
  have hpos := value_nonneg hfinite hpadding
  -- Padding does not move the ends inward.
  have hdown : value (low - padding) ≤ value low :=
    (le_iff hsub hlowfinite).1 ((rounds_sub hlowfinite hfinite).le low hlowfinite (by linarith))
  have hup : value high ≤ value (high + padding) :=
    (le_iff hhighfinite hadd).1 ((rounds_add hhighfinite hfinite).ge high hhighfinite (by linarith))
  have hbetween {x : Float} (hx : x ∈ s) : value low ≤ value x ∧ value x ≤ value high :=
    ⟨(le_iff hlowfinite (hs x hx)).1 (hlow.2 hx), (le_iff (hs x hx) hhighfinite).1 (hhigh.2 hx)⟩
  rw [lt_iff hsub hadd, not_lt]
  constructor
  · rintro ⟨x, hx, hall, hxsub, hxadd⟩
    have hxfinite := hs x hx
    have hlike {y : Float} (hy : y ∈ s) : Alike y x :=
      alike_of_value_eq (hs y hy) hxfinite ((beq_iff (hs y hy) hxfinite).1 (hall y hy))
    have hlowsub : Alike (low - padding) (x - padding) := (hlike hlow.1).sub (.inl rfl)
    have hhighadd : Alike (high + padding) (x + padding) := (hlike hhigh.1).add (.inl rfl)
    rw [hlowsub.value_eq, hhighadd.value_eq,
      (beq_iff (hlowsub.isFinite_iff.1 hsub) hxfinite).1 hxsub,
      (beq_iff (hhighadd.isFinite_iff.1 hadd) hxfinite).1 hxadd]
  · intro hle
    obtain ⟨-, hends⟩ := hbetween hlow.1
    have hlike : Alike low high := alike_of_value_eq hlowfinite hhighfinite (by linarith)
    have hlowadd : Alike (low + padding) (high + padding) := hlike.add (.inl rfl)
    refine ⟨low, hlow.1, fun y hy => ?_, ?_, ?_⟩
    · obtain ⟨hlowy, hyhigh⟩ := hbetween hy
      exact (beq_iff (hs y hy) hlowfinite).2 (by linarith)
    · exact (beq_iff hsub hlowfinite).2 (by linarith)
    · rw [beq_iff (hlowadd.isFinite_iff.2 hadd) hlowfinite, hlowadd.value_eq]
      linarith

/-- A distance is written as zero just if it is not positive. -/
theorem numberText_sub_eq_iff {a b : Float} (ha : a.isFinite) (hb : b.isFinite) (hab : a ≤ b)
    (hfinite : (b - a).isFinite) : numberText (b - a) = "0" ↔ ¬ 0 < b - a := by
  have hnonneg : 0 ≤ value (b - a) := value_sub_nonneg ha hb hab hfinite
  rw [lt_iff rfl hfinite, value_zero, not_lt]
  constructor
  · intro htext
    have hzero : b - a == 0 :=
      beq_of_numberText_eq (not_isNaN_of_isFinite hfinite) (not_isNaN_of_isFinite rfl) htext
    exact ((beq_iff hfinite rfl).1 hzero).le
  · intro hle
    have hzero : value (b - a) = value 0 := (le_antisymm hle hnonneg).trans value_zero.symm
    exact if_pos ((beq_iff hfinite rfl).2 hzero)

namespace Viewport

/-- Whether the box of a viewport is flat along a coordinate: it fits the program, but all finite
    points have the same coordinate, which absorbs the padding. -/
def Flat (p : Program) (padding : Float) (coordinate : Point → Float) : Prop :=
  ¬ (Bounds.ofPoints p.points).overflows padding ∧
    Absorbs (coordinateSet coordinate p.points) padding

/-- The box is the fixed one, which is not flat, or it is the padded hull. -/
theorem fit_cases (p : Program) (padding : Float) :
    ((fit p padding).bounds = Bounds.fallback ∧ ∀ coordinate, ¬ Flat p padding coordinate) ∨
      ∃ b : Bounds, b.IsHull p.points ∧ (fit p padding).bounds = b.box.padded padding ∧
        ∀ coordinate, Flat p padding coordinate ↔
          Absorbs (coordinateSet coordinate p.points) padding := by
  rcases Bounds.ofPoints_cases p.points with ⟨hnone, hempty⟩ | hhull
  · refine .inl ⟨by rw [fit, hempty]; rfl, fun coordinate hflat => ?_⟩
    obtain ⟨-, x, hx, -⟩ := hflat
    rw [Bounds.coordinateSet_eq_empty hnone] at hx
    exact hx
  · by_cases hover : (Bounds.ofPoints p.points).overflows padding
    · refine .inl ⟨?_, fun coordinate hflat => hflat.1 hover⟩
      rw [fit, Bounds.fit, hover, Bool.not_true, Bool.and_false]
      rfl
    · refine .inr ⟨_, hhull, ?_, fun coordinate => and_iff_right hover⟩
      rw [Bool.not_eq_true] at hover
      rw [fit, Bounds.fit, hhull.valid, hover]
      rfl

end Viewport

/-- The box of a viewport has a positive width, and is written with one other than `0`, unless it
    is flat along the first coordinate; and likewise a positive height. -/
theorem size_fit_pos_iff (p : Program) {padding : Float} (hfinite : padding.isFinite)
    (hpadding : 0 ≤ padding) :
    let box := (Viewport.fit p padding).bounds
    (0 < box.width ↔ ¬ Viewport.Flat p padding Point.x) ∧
      (0 < box.height ↔ ¬ Viewport.Flat p padding Point.y) ∧
      (numberText box.width = "0" ↔ Viewport.Flat p padding Point.x) ∧
      (numberText box.height = "0" ↔ Viewport.Flat p padding Point.y) := by
  intro box
  have hproper : box.Proper := proper_fit p hfinite hpadding
  obtain ⟨⟨hminX, hmaxX⟩, hminY, hmaxY⟩ := hproper.isFinite_edges
  have hpos : (0 < box.width ↔ ¬ Viewport.Flat p padding Point.x) ∧
      (0 < box.height ↔ ¬ Viewport.Flat p padding Point.y) := by
    rcases Viewport.fit_cases p padding with ⟨hbox, hflat⟩ | ⟨b, hhull, hbox, hflat⟩
    · change box = _ at hbox
      rw [hbox]
      exact ⟨iff_of_true (by decide) (hflat _), iff_of_true (by decide) (hflat _)⟩
    · change box = _ at hbox
      rw [hflat, hflat, Box.width, Box.height, sub_pos_iff hminX hmaxX hproper.width,
        sub_pos_iff hminY hmaxY hproper.height]
      rw [hbox] at hminX hmaxX hminY hmaxY ⊢
      have hx := absorbs_iff (fun _ => Bounds.isFinite_of_mem_x) hhull.minX hhull.maxX hfinite
        hpadding hminX hmaxX
      have hy := absorbs_iff (fun _ => Bounds.isFinite_of_mem_y) hhull.minY hhull.maxY hfinite
        hpadding hminY hmaxY
      exact ⟨(not_iff_comm.1 hx.symm).symm, (not_iff_comm.1 hy.symm).symm⟩
  have htextX := numberText_sub_eq_iff hminX hmaxX hproper.minX_le hproper.width
  have htextY := numberText_sub_eq_iff hminY hmaxY hproper.minY_le hproper.height
  exact ⟨hpos.1, hpos.2, htextX.trans (not_iff_comm.1 hpos.1.symm),
    htextY.trans (not_iff_comm.1 hpos.2.symm)⟩

/-- Next to the coordinate `1e300` the padding `1` is lost, next to the coordinate `5` it is not. -/
theorem size_fit_pos_iff_point :
    let p : Program := ⟨[⟨⟨.line, some ⟨1e300, 5⟩, none, none, 1⟩, true⟩], []⟩
    let box := (Viewport.fit p 1).bounds
    numberText box.width = "0" ∧ Viewport.Flat p 1 Point.x ∧
      0 < box.height ∧ ¬ Viewport.Flat p 1 Point.y := by
  intro p box
  obtain ⟨hx, hy, htextX, -⟩ := @size_fit_pos_iff p 1 (by decide +kernel) (by decide +kernel)
  have hwidth : ¬ 0 < box.width := by decide +kernel
  have hheight : 0 < box.height := by decide +kernel
  have hflat : Viewport.Flat p 1 Point.x := not_not.1 (mt hx.2 hwidth)
  exact ⟨htextX.2 hflat, hflat, hheight, hy.1 hheight⟩

/-- The box around the point `(2, 2)` is flat without padding. -/
theorem not_size_fit_pos :
    ¬ ∀ (p : Program) (padding : Float), padding.isFinite → 0 ≤ padding →
      0 < (Viewport.fit p padding).bounds.width ∧ 0 < (Viewport.fit p padding).bounds.height := by
  intro h
  obtain ⟨hwidth, -⟩ :=
    h ⟨[⟨⟨.line, some ⟨2, 2⟩, none, none, 1⟩, true⟩], []⟩ 0 (by decide) (by decide)
  exact absurd hwidth (by decide +kernel)

end JetPlot
