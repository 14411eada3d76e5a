import JetPlot.Geometry.Point

/-!
# Boxes

A box is a rectangle with sides along the axes, given by its extents.
-/

namespace JetPlot

/-- A rectangle with sides along the axes. -/
structure Box where
  /-- The left edge. -/
  minX : Float
  /-- The lower edge. -/
  minY : Float
  /-- The right edge. -/
  maxX : Float
  /-- The upper edge. -/
  maxY : Float
  deriving DecidableEq

namespace Box

/-- The horizontal extent. -/
def width (b : Box) : Float := b.maxX - b.minX

/-- The vertical extent. -/
def height (b : Box) : Float := b.maxY - b.minY

/-- The middle of the box. Half the extent is added to the lower end, so that
    the middle is finite whenever the extents are, however far out they lie. -/
def center (b : Box) : Point := ⟨b.minX + b.width / 2, b.minY + b.height / 2⟩

/-- The box grown by the given padding on every side. -/
def padded (b : Box) (padding : Float) : Box :=
  ⟨b.minX - padding, b.minY - padding, b.maxX + padding, b.maxY + padding⟩

/-- Whether a point lies inside of the box or on its edge. -/
def contains (b : Box) (p : Point) : Bool :=
  b.minX ≤ p.x && p.x ≤ b.maxX && b.minY ≤ p.y && p.y ≤ b.maxY

theorem contains_iff {b : Box} {p : Point} :
    b.contains p ↔ (b.minX ≤ p.x ∧ p.x ≤ b.maxX) ∧ b.minY ≤ p.y ∧ p.y ≤ b.maxY := by
  simp [contains, and_assoc]

end Box

end JetPlot
