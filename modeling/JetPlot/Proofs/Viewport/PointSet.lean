import JetPlot.Proofs.Double.Zeros
import JetPlot.Proofs.Viewport.Hull

/-!
# Viewports of the same points

A viewport is written in the same way for all programs that mention the same finite points, in
whatever order, how often and by which commands they do. The boxes themselves may differ: of two
points with the coordinates `0` and `-0`, the one that comes last is taken. But they differ in the
signs of zeros only (`Box.Alike`), which no calculation reveals and no text shows.

* `Bounds.IsHull.alike`: hulls of the same finite points are alike;
* `Box.Alike.viewBox_eq`, `Box.Alike.transform_eq`: alike boxes are written in the same way;
* `viewBox_transform_fit_congr`: so are the viewports of programs with the same finite points.
-/

namespace JetPlot

open Double

/-- Whether each finite one among some points coincides with a finite one among others. -/
def Point.Covered (ps qs : List Point) : Prop :=
  ∀ p ∈ ps, p.isFinite → ∃ q ∈ qs, q.isFinite ∧ p.coincides q

instance (ps qs : List Point) : Decidable (Point.Covered ps qs) :=
  inferInstanceAs (Decidable (∀ p ∈ ps, p.isFinite → ∃ q ∈ qs, q.isFinite ∧ p.coincides q))

/-- Whether two boxes have the same edges, but for the signs of zeros. -/
structure Box.Alike (b c : Box) : Prop where
  minX : Double.Alike b.minX c.minX
  minY : Double.Alike b.minY c.minY
  maxX : Double.Alike b.maxX c.maxX
  maxY : Double.Alike b.maxY c.maxY

/-! ## Texts -/

/-- Alike numbers are written in the same way. -/
theorem numberText_congr {x y : Float} (h : Alike x y) : numberText x = numberText y := by
  rcases h with rfl | ⟨hx, hy⟩
  · rfl
  · rw [numberText, numberText, if_pos hx, if_pos hy]

namespace Box.Alike

variable {b c : Box} (h : b.Alike c)

include h

theorem padded (padding : Float) : (b.padded padding).Alike (c.padded padding) where
  minX := h.minX.sub (.inl rfl)
  minY := h.minY.sub (.inl rfl)
  maxX := h.maxX.add (.inl rfl)
  maxY := h.maxY.add (.inl rfl)

theorem width : Double.Alike b.width c.width := h.maxX.sub h.minX

theorem height : Double.Alike b.height c.height := h.maxY.sub h.minY

theorem center : Double.Alike b.center.x c.center.x ∧ Double.Alike b.center.y c.center.y :=
  ⟨h.minX.add (h.width.div 2), h.minY.add (h.height.div 2)⟩

theorem tooLarge_eq : Bounds.tooLarge b = Bounds.tooLarge c := by
  have hwidth := Bool.eq_iff_iff.2 h.width.isFinite_iff
  have hheight := Bool.eq_iff_iff.2 h.height.isFinite_iff
  rw [Bounds.tooLarge, Bounds.tooLarge, hwidth, hheight]

theorem viewBox_eq : (Viewport.mk b).viewBox = (Viewport.mk c).viewBox := by
  simp only [Viewport.viewBox, List.map_cons, List.map_nil, numberText_congr h.minX,
    numberText_congr h.minY, numberText_congr h.width, numberText_congr h.height]

theorem transform_eq : (Viewport.mk b).transform = (Viewport.mk c).transform := by
  obtain ⟨hx, hy⟩ := h.center
  simp only [Viewport.transform, Viewport.translation, numberText_congr hx, numberText_congr hy,
    numberText_congr hx.neg, numberText_congr hy.neg]

end Box.Alike

/-! ## Hulls -/

namespace Bounds

section extremes

variable {s t : Set Float} {a b : Float}

theorem value_le_of_isLeast (hs : ∀ x ∈ s, x.isFinite) (ht : ∀ x ∈ t, x.isFinite)
    (hst : ∀ x ∈ s, ∃ y ∈ t, x == y) (ha : IsLeast s a) (hb : IsLeast t b) : value b ≤ value a := by
  obtain ⟨y, hy, hay⟩ := hst a ha.1
  rw [(beq_iff (hs a ha.1) (ht y hy)).1 hay]
  exact (le_iff (ht b hb.1) (ht y hy)).1 (hb.2 hy)

theorem value_le_of_isGreatest (hs : ∀ x ∈ s, x.isFinite) (ht : ∀ x ∈ t, x.isFinite)
    (hst : ∀ x ∈ s, ∃ y ∈ t, x == y) (ha : IsGreatest s a) (hb : IsGreatest t b) :
    value a ≤ value b := by
  obtain ⟨y, hy, hay⟩ := hst a ha.1
  rw [(beq_iff (hs a ha.1) (ht y hy)).1 hay]
  exact (le_iff (ht y hy) (ht b hb.1)).1 (hb.2 hy)

end extremes

variable {ps qs : List Point} {b c : Bounds}

theorem exists_beq_of_covered (h : Point.Covered ps qs) :
    (∀ x ∈ coordinateSet Point.x ps, ∃ y ∈ coordinateSet Point.x qs, x == y) ∧
      ∀ x ∈ coordinateSet Point.y ps, ∃ y ∈ coordinateSet Point.y qs, x == y := by
  constructor
  · rintro _ ⟨p, hp, hfinite, rfl⟩
    obtain ⟨q, hq, hqfinite, hpq⟩ := h p hp hfinite
    exact ⟨q.x, ⟨q, hq, hqfinite, rfl⟩, (Bool.and_eq_true_iff.1 hpq).1⟩
  · rintro _ ⟨p, hp, hfinite, rfl⟩
    obtain ⟨q, hq, hqfinite, hpq⟩ := h p hp hfinite
    exact ⟨q.y, ⟨q, hq, hqfinite, rfl⟩, (Bool.and_eq_true_iff.1 hpq).2⟩

/-- The hulls of the same finite points are alike. -/
theorem IsHull.alike (hb : b.IsHull ps) (hc : c.IsHull qs) (hpq : Point.Covered ps qs)
    (hqp : Point.Covered qs ps) : b.box.Alike c.box := by
  obtain ⟨hbminX, hbmaxX, hbminY, hbmaxY⟩ := hb.isFinite
  obtain ⟨hcminX, hcmaxX, hcminY, hcmaxY⟩ := hc.isFinite
  obtain ⟨hpqx, hpqy⟩ := exists_beq_of_covered hpq
  obtain ⟨hqpx, hqpy⟩ := exists_beq_of_covered hqp
  have hx {ps : List Point} : ∀ x ∈ coordinateSet Point.x ps, x.isFinite :=
    fun _ => isFinite_of_mem_x
  have hy {ps : List Point} : ∀ x ∈ coordinateSet Point.y ps, x.isFinite :=
    fun _ => isFinite_of_mem_y
  constructor
  · exact alike_of_value_eq hbminX hcminX (le_antisymm
      (value_le_of_isLeast hx hx hqpx hc.minX hb.minX)
      (value_le_of_isLeast hx hx hpqx hb.minX hc.minX))
  · exact alike_of_value_eq hbminY hcminY (le_antisymm
      (value_le_of_isLeast hy hy hqpy hc.minY hb.minY)
      (value_le_of_isLeast hy hy hpqy hb.minY hc.minY))
  · exact alike_of_value_eq hbmaxX hcmaxX (le_antisymm
      (value_le_of_isGreatest hx hx hpqx hb.maxX hc.maxX)
      (value_le_of_isGreatest hx hx hqpx hc.maxX hb.maxX))
  · exact alike_of_value_eq hbmaxY hcmaxY (le_antisymm
      (value_le_of_isGreatest hy hy hpqy hb.maxY hc.maxY)
      (value_le_of_isGreatest hy hy hqpy hc.maxY hb.maxY))

/-- Points that cover a hull are not all beyond the doubles. -/
theorem IsHull.exists_isFinite (h : b.IsHull ps) (hpq : Point.Covered ps qs) :
    ∃ q ∈ qs, q.isFinite := by
  obtain ⟨p, hp, hfinite, -⟩ := h.minX.1
  obtain ⟨q, hq, hqfinite, -⟩ := hpq p hp hfinite
  exact ⟨q, hq, hqfinite⟩

end Bounds

/-- The boxes that are fitted to the same finite points are alike. -/
theorem Viewport.alike_bounds_fit {p q : Program} (hpq : Point.Covered p.points q.points)
    (hqp : Point.Covered q.points p.points) (padding : Float) :
    (fit p padding).bounds.Alike (fit q padding).bounds := by
  have hsame (b : Box) : b.Alike b := ⟨.inl rfl, .inl rfl, .inl rfl, .inl rfl⟩
  -- If one of the programs mentions a finite point, so does the other, which leaves two cases.
  rcases Bounds.ofPoints_cases p.points with ⟨hp, hpempty⟩ | hp <;>
    rcases Bounds.ofPoints_cases q.points with ⟨hq, hqempty⟩ | hq
  · rw [fit, fit, hpempty, hqempty]
    exact hsame _
  · obtain ⟨r, hr, hfinite⟩ := hq.exists_isFinite hqp
    exact absurd hfinite (hp r hr)
  · obtain ⟨r, hr, hfinite⟩ := hp.exists_isFinite hpq
    exact absurd hfinite (hq r hr)
  · have hpadded := (hp.alike hq hpq hqp).padded padding
    rw [fit, fit, hp.fit, hq.fit, hpadded.tooLarge_eq]
    split
    · exact hsame _
    · exact hpadded

/-- The viewports of two programs that mention the same finite points are written in the same way,
    whatever the padding is. -/
theorem viewBox_transform_fit_congr (p q : Program) (padding : Float)
    (hpq : Point.Covered p.points q.points) (hqp : Point.Covered q.points p.points) :
    (Viewport.fit p padding).viewBox = (Viewport.fit q padding).viewBox ∧
      (Viewport.fit p padding).transform = (Viewport.fit q padding).transform := by
  have h := Viewport.alike_bounds_fit hpq hqp padding
  exact ⟨h.viewBox_eq, h.transform_eq⟩

/-- The points `(0, 3)` and `(2, -0)`, mentioned in two ways, with different boxes. -/
theorem viewBox_transform_fit_congr_zeros :
    let p : Program :=
      ⟨[⟨⟨.line, some ⟨0, 3⟩, none, none, 1⟩, true⟩,
        ⟨⟨.ends, some ⟨2, -0⟩, none, none, 2⟩, true⟩], []⟩
    let q : Program :=
      ⟨[⟨⟨.ptp, some ⟨2, 0⟩, none, none, 1⟩, false⟩,
        ⟨⟨.mseg, some ⟨1 / 0, -7⟩, none, none, 2⟩, true⟩,
        ⟨⟨.arc2, some ⟨-0, 3⟩, none, none, 3⟩, true⟩,
        ⟨⟨.ptp, some ⟨2, -0⟩, none, none, 4⟩, true⟩], []⟩
    (Viewport.fit p 0).bounds ≠ (Viewport.fit q 0).bounds ∧
      (Viewport.fit p 0).viewBox = (Viewport.fit q 0).viewBox ∧
      (Viewport.fit p 0).transform = (Viewport.fit q 0).transform := by
  intro p q
  exact ⟨by decide +kernel, viewBox_transform_fit_congr p q 0 (by decide) (by decide)⟩

end JetPlot
