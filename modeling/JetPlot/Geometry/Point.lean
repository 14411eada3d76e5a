import JetPlot.Decimal.Style
import JetPlot.Geometry.Hypot

/-!
# Points of the plane

Points carry program coordinates, with the `y` axis pointing up.
-/

namespace JetPlot

/-- A point in program units. -/
structure Point where
  /-- The horizontal coordinate. -/
  x : Float
  /-- The vertical coordinate, growing upward. -/
  y : Float
  deriving DecidableEq

namespace Point

/-- The point with both coordinates zero. -/
def origin : Point := ⟨0, 0⟩

/-- The straight distance between two points. -/
def distance (p q : Point) : Float := hypot (q.x - p.x) (q.y - p.y)

/-- Whether both coordinates are finite. -/
def isFinite (p : Point) : Bool := p.x.isFinite && p.y.isFinite

/-- Whether two points have numerically equal coordinates. The two zeros are
    equal; a NaN differs from everything. -/
def coincides (p q : Point) : Bool := p.x == q.x && p.y == q.y

/-- The point in parentheses. -/
def text (p : Point) : String :=
  "(" ++ Style.plain.text p.x ++ ", " ++ Style.plain.text p.y ++ ")"

end Point

end JetPlot
