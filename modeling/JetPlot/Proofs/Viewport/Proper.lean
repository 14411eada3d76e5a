import JetPlot.Proofs.Double.Middle
import JetPlot.Proofs.Viewport.Hull

/-!
# The box is a box

No number overflows in the box of a viewport: its edges are finite and in order, and its width
and its height are finite, too (`Box.Proper`).

* `Box.Proper.isFinite_center`: the middle of such a box is finite;
* `Box.contains_center_iff`: the middle is in the box and finite just if the box is not too large;
* `proper_fit`: the box of a viewport is such a box.
-/

namespace JetPlot

open Double

/-- Whether the edges of a box are in order and not too far apart. -/
structure Box.Proper (b : Box) : Prop where
  minX_le : b.minX ≤ b.maxX
  minY_le : b.minY ≤ b.maxY
  width : b.width.isFinite
  height : b.height.isFinite

namespace Box.Proper

variable {b : Box}

theorem isFinite_edges (h : b.Proper) :
    (b.minX.isFinite ∧ b.maxX.isFinite) ∧ b.minY.isFinite ∧ b.maxY.isFinite :=
  ⟨(isFinite_of_isFinite_sub h.width).symm, (isFinite_of_isFinite_sub h.height).symm⟩

/-- The middle of the box is finite, for it is between the edges. -/
theorem isFinite_center (h : b.Proper) : b.center.isFinite :=
  Bool.and_eq_true_iff.2
    ⟨(isFinite_middle_iff h.minX_le).2 h.width, (isFinite_middle_iff h.minY_le).2 h.height⟩

end Box.Proper

/-- The middle of a box with its edges in order is a finite point in the box just if the width and
    the height are finite, however far out or close together the edges lie. -/
theorem Box.contains_center_iff {b : Box} (hx : b.minX ≤ b.maxX) (hy : b.minY ≤ b.maxY) :
    b.contains b.center ∧ b.center.isFinite ↔ b.width.isFinite ∧ b.height.isFinite := by
  constructor
  · -- An extent that overflows is not lost when it is halved and added to the lower edge.
    rintro ⟨-, hcenter⟩
    obtain ⟨hcenterX, hcenterY⟩ := Bool.and_eq_true_iff.1 hcenter
    exact ⟨(isFinite_middle_iff hx).1 hcenterX, (isFinite_middle_iff hy).1 hcenterY⟩
  · rintro ⟨hwidth, hheight⟩
    have hcontains : b.contains b.center :=
      contains_iff.2 ⟨middle_mem hx hwidth, middle_mem hy hheight⟩
    exact ⟨hcontains, Proper.isFinite_center ⟨hx, hy, hwidth, hheight⟩⟩

/-- Along the first axis the edges add up to an infinity, along the second one they are among the
    least doubles, and half of their distance is not a double. -/
theorem Box.contains_center_extreme :
    let b : Box := ⟨1e308, 5e-324, 1.7e308, 2e-323⟩
    ¬ (b.minX + b.maxX).isFinite ∧ b.minX ≤ b.maxX ∧ b.minY ≤ b.maxY ∧
      b.width.isFinite ∧ b.height.isFinite ∧ b.contains b.center ∧ b.center.isFinite := by
  intro b
  have hx : b.minX ≤ b.maxX := by decide +kernel
  have hy : b.minY ≤ b.maxY := by decide +kernel
  have hwidth : b.width.isFinite := by decide +kernel
  have hheight : b.height.isFinite := by decide +kernel
  have hcenter := (contains_center_iff hx hy).2 ⟨hwidth, hheight⟩
  exact ⟨by decide +kernel, hx, hy, hwidth, hheight, hcenter⟩

theorem Bounds.proper_fallback : fallback.Proper :=
  ⟨by decide, by decide, by decide, by decide⟩

/-- A box that contains something is proper, unless it is too large. -/
theorem Box.proper_of_contains {b : Box} {q : Point} (h : b.contains q) (hq : q.isFinite)
    (hwidth : b.width.isFinite) (hheight : b.height.isFinite) : b.Proper := by
  obtain ⟨hmaxX, hminX⟩ := isFinite_of_isFinite_sub hwidth
  obtain ⟨hmaxY, hminY⟩ := isFinite_of_isFinite_sub hheight
  obtain ⟨hx, hy⟩ := Bool.and_eq_true_iff.1 hq
  obtain ⟨⟨hleft, hright⟩, hbottom, htop⟩ := contains_iff.1 h
  exact ⟨le_trans_of_isFinite hminX hx hmaxX hleft hright,
    le_trans_of_isFinite hminY hy hmaxY hbottom htop, hwidth, hheight⟩

/-- The box of a viewport has finite edges in order, with a finite width and height. -/
theorem proper_fit (p : Program) {padding : Float} (hfinite : padding.isFinite)
    (hpadding : 0 ≤ padding) : (Viewport.fit p padding).bounds.Proper := by
  rcases Bounds.ofPoints_cases p.points with ⟨-, hempty⟩ | hhull
  · rw [Viewport.fit, hempty]
    exact Bounds.proper_fallback
  · have hfit : (Viewport.fit p padding).bounds = _ := hhull.fit padding
    rw [hfit]
    split
    · exact Bounds.proper_fallback
    · next hlarge =>
      rw [Bounds.tooLarge, Bool.not_eq_true, Bool.not_eq_false', Bool.and_eq_true] at hlarge
      obtain ⟨hwidth, hheight⟩ := hlarge
      obtain ⟨q, hq, hqfinite, -⟩ := hhull.minX.1
      have hcontains := hhull.contains hfinite hpadding hq hqfinite
      exact Box.proper_of_contains hcontains hqfinite hwidth hheight

end JetPlot
