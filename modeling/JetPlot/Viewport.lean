import JetPlot.Geometry.Box
import JetPlot.Log
import JetPlot.Program.Basic

/-!
# Viewports

The viewport is the part of the plane that a picture shows: the smallest box
around all points that a program mentions, padded on every side. Points with a
coordinate that is not finite are passed over. If there is no point left, or if
the padded box is too wide or too high for a double, a fixed box takes its place.

In a program the `y` axis points up, in a picture it points down, so everything
drawn is mirrored at the horizontal line through the middle of the box.
-/

namespace JetPlot

/-- The extents of the points seen so far. -/
structure Bounds where
  /-- The least first coordinate. -/
  minX : Float
  /-- The greatest first coordinate. -/
  maxX : Float
  /-- The least second coordinate. -/
  minY : Float
  /-- The greatest second coordinate. -/
  maxY : Float
  deriving DecidableEq

namespace Bounds

/-- The extents of no points. -/
def empty : Bounds := ⟨1 / 0, -1 / 0, 1 / 0, -1 / 0⟩

/-- The lesser one of a bound and a new value. If they are equal, as two zeros are,
    or if the bound is a NaN, the new value is taken. -/
def lower (bound value : Float) : Float := if bound < value then bound else value

/-- The greater one of a bound and a new value. If they are equal or if the bound is
    a NaN, the new value is taken. -/
def upper (bound value : Float) : Float := if value < bound then bound else value

/-- The extents with one more point. -/
def extend (b : Bounds) (p : Point) : Bounds :=
  if p.isFinite then ⟨lower b.minX p.x, upper b.maxX p.x, lower b.minY p.y, upper b.maxY p.y⟩
  else b

/-- The extents of some points. -/
def ofPoints (ps : List Point) : Bounds := ps.foldl extend empty

/-- Whether the extents are those of a box. -/
def valid (b : Bounds) : Bool :=
  b.minX.isFinite && b.maxX.isFinite && b.minY.isFinite && b.maxY.isFinite &&
    b.minX ≤ b.maxX && b.minY ≤ b.maxY

/-- The box with the given extents. -/
def box (b : Bounds) : Box := ⟨b.minX, b.minY, b.maxX, b.maxY⟩

/-- The box that is shown if there is nothing to fit. -/
def fallback : Box := ⟨0, 0, 100, 100⟩

/-- Whether a box is so large that its extents are not finite. -/
def tooLarge (b : Box) : Bool := !(b.width.isFinite && b.height.isFinite)

/-- Whether valid extents become too large by padding. -/
def overflows (b : Bounds) (padding : Float) : Bool :=
  b.valid && tooLarge (b.box.padded padding)

/-- The padded box around the extents. -/
def fit (b : Bounds) (padding : Float) : Box :=
  if b.valid && !b.overflows padding then b.box.padded padding else fallback

/-- An interval in brackets. -/
def interval (write : Float → String) (low high : Float) : String :=
  "[" ++ write low ++ ", " ++ write high ++ "]"

/-- What is logged about the fitting of the box. -/
def fittingLog (b : Bounds) (padding : Float) : List Log.Record :=
  if b.overflows padding then
    let x := interval Style.plain.text b.minX b.maxX
    let y := interval Style.plain.text b.minY b.maxY
    [⟨.warn, .viewport,
      s!"Bounds x={x}, y={y} overflow when padded, using fallback viewport"⟩]
  else []

end Bounds

/-- A number in a picture: its shortest decimal, and `0` for either zero. -/
def numberText (x : Float) : String := if x == 0 then "0" else Style.plain.text x

/-- The part of the plane that a picture shows. -/
structure Viewport where
  /-- The box that is shown. -/
  bounds : Box
  deriving DecidableEq

namespace Viewport

/-- The box as position and size. -/
def viewBox (v : Viewport) : String :=
  " ".intercalate ([v.bounds.minX, v.bounds.minY, v.bounds.width, v.bounds.height].map numberText)

/-- A shift by the given distances. -/
def translation (x y : Float) : String :=
  "translate(" ++ numberText x ++ ", " ++ numberText y ++ ")"

/-- The mirroring at the horizontal line through the middle of the box. -/
def transform (v : Viewport) : String :=
  let c := v.bounds.center
  translation c.x c.y ++ " scale(1, -1) " ++ translation (-c.x) (-c.y)

/-- Where a point lands in the picture. -/
def flip (v : Viewport) (p : Point) : Point :=
  let c := v.bounds.center
  ⟨p.x, c.y + (c.y - p.y)⟩

/-- The viewport around all points of a program. -/
def fit (p : Program) (padding : Float) : Viewport := ⟨(Bounds.ofPoints p.points).fit padding⟩

/-- What is logged about the fitting of the viewport of a program. -/
def fittingLog (p : Program) (padding : Float) : List Log.Record :=
  let bounds := Bounds.ofPoints p.points
  let box := (fit p padding).bounds
  let places := Decimal.fixed 2
  bounds.fittingLog padding ++ [⟨.debug, .viewport,
    if bounds.valid then
      "Bounds: x=" ++ Bounds.interval places box.minX box.maxX ++
        ", y=" ++ Bounds.interval places box.minY box.maxY
    else "Program has no points, using fallback viewport"⟩]

end Viewport

end JetPlot
