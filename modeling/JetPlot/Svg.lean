import JetPlot.Options
import JetPlot.Toolpath.Trace
import JetPlot.Viewport

/-!
# SVG documents

A picture is an SVG document with one path element for each path, in order.
Printed and rapid paths differ in colour and thickness. All numbers are written
without an exponent.
-/

namespace JetPlot

/-- How a path is stroked. -/
structure Pen where
  /-- The colour of the line. -/
  color : String
  /-- The thickness of the line, in program units. -/
  width : Float
  deriving DecidableEq

namespace Pen

/-- The colour of printed paths. -/
def printingColor : String := "#2563eb"

/-- The colour of rapid paths. -/
def rapidColor : String := "#dc2626"

/-- The thickness of a rapid path, relative to a printed one. -/
def rapidRatio : Float := 0.7

/-- The pen of a printed or a rapid path. -/
def ofPath (printing : Bool) (lineThickness : Float) : Pen :=
  if printing then ⟨printingColor, lineThickness⟩ else ⟨rapidColor, lineThickness * rapidRatio⟩

end Pen

/-- The coordinates of a point, apart. -/
def Point.coordinates (p : Point) : String := numberText p.x ++ " " ++ numberText p.y

/-- A flag of an arc. -/
def flagText (b : Bool) : String := if b then "1" else "0"

/-- A stroke as a drawing command. -/
def Stroke.data : Stroke → String
  | line target => "L " ++ target.coordinates
  | arc a =>
    "A " ++ " ".intercalate
      [numberText a.radius, numberText a.radius, "0", flagText a.large, flagText a.sweep,
        a.target.coordinates]

/-- An operation as a drawing command. -/
def PathOp.data : PathOp → String
  | move target => "M " ++ target.coordinates
  | draw s => s.data

/-- A path as a list of drawing commands. -/
def Path.data (p : Path) : String := " ".intercalate (p.ops.map PathOp.data)

namespace Svg

/-- The name space of SVG elements. -/
def nameSpace : String := "http://www.w3.org/2000/svg"

/-- An attribute of an element, with a space in front of it. -/
def attr (name value : String) : String := " " ++ name ++ "=\"" ++ value ++ "\""

/-- The opening tag of the document. -/
def opening (v : Viewport) (o : Options) : String :=
  "<svg" ++ attr "viewBox" v.viewBox ++ attr "width" (toString o.width.toNat) ++
    attr "height" (toString o.height.toNat) ++ attr "xmlns" nameSpace ++ ">\n"

/-- The element of a path. -/
def element (lineThickness : Float) (p : Path) : String :=
  let pen := Pen.ofPath p.printing lineThickness
  "    <path" ++ attr "d" p.data ++ attr "stroke" pen.color ++
    attr "stroke-width" (numberText pen.width) ++ attr "fill" "none" ++
    attr "stroke-linecap" "round" ++ attr "stroke-linejoin" "round" ++ " />\n"

/-- The document that shows a toolpath in a viewport. -/
def document (t : Toolpath) (v : Viewport) (o : Options) : String :=
  opening v o ++ "  <g" ++ attr "transform" v.transform ++ ">\n" ++
    String.join (t.paths.map (element o.lineThickness)) ++ "  </g>\n</svg>\n"

/-- The document that shows a program, fitted to all its points. -/
def render (p : Program) (o : Options) : String :=
  document (Toolpath.trace p) (Viewport.fit p o.padding) o

/-- What is logged about the rendering of a program. -/
def renderingLog (p : Program) (o : Options) : List Log.Record :=
  let paths := (Toolpath.trace p).paths.length
  Viewport.fittingLog p o.padding ++ Toolpath.tracingLog p ++
    [⟨.debug, .markup, s!"Rendered {paths} paths into {(render p o).utf8ByteSize} bytes of SVG"⟩]

end Svg

end JetPlot
