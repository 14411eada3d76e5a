import JetPlot.Svg
import Mathlib.Data.List.Basic

/-!
# Pieces of a document

A document is put together from fixed markup and from numbers. Its pieces, in order, tell
which numbers it writes and where (`Svg.pieces`): those of the `viewBox`, of the transform, of
the drawing commands of all paths, and the thickness of every path.

* `join_pieces`: the pieces of a document make up the document.
-/

namespace JetPlot

/-- A piece of a document. -/
inductive Piece
  /-- Fixed markup. -/
  | markup (text : String)
  /-- A number. -/
  | number (value : Float)

namespace Piece

/-- The text of a piece. -/
def text : Piece → String
  | markup text => text
  | number value => numberText value

/-- The text that some pieces make up. -/
def join (ps : List Piece) : String := String.join (ps.map text)

@[simp] theorem join_nil : join [] = "" := rfl

@[simp] theorem join_cons (p : Piece) (ps : List Piece) : join (p :: ps) = p.text ++ join ps :=
  String.join_cons

@[simp] theorem join_append (ps qs : List Piece) : join (ps ++ qs) = join ps ++ join qs := by
  rw [join, List.map_append, String.join_append]
  rfl

theorem join_intercalate (separator : List Piece) (pss : List (List Piece)) :
    join (separator.intercalate pss) = (join separator).intercalate (pss.map join) := by
  induction pss with
  | nil => rfl
  | cons ps pss ih =>
    cases pss with
    | nil =>
      rw [List.intercalate_singleton]
      exact String.intercalate_singleton.symm
    | cons qs pss =>
      rw [List.intercalate_cons_cons, join_append, join_append, ih]
      exact String.intercalate_cons_cons.symm

theorem join_flatMap {α : Type} (f : α → List Piece) (l : List α) :
    join (l.flatMap f) = String.join (l.map fun a => join (f a)) := by
  induction l with
  | nil => rfl
  | cons a l ih => rw [List.flatMap_cons, join_append, ih, List.map_cons, String.join_cons]

end Piece

open Piece

/-! ## Drawing commands -/

/-- The pieces of the coordinates of a point. -/
def Point.pieces (p : Point) : List Piece := [.number p.x, .markup " ", .number p.y]

/-- The pieces of a stroke as a drawing command. -/
def Stroke.pieces : Stroke → List Piece
  | line target => .markup "L " :: target.pieces
  | arc a =>
    .markup "A " :: [.markup " "].intercalate
      [[.number a.radius], [.number a.radius], [.markup "0"], [.markup (flagText a.large)],
        [.markup (flagText a.sweep)], a.target.pieces]

/-- The pieces of an operation as a drawing command. -/
def PathOp.pieces : PathOp → List Piece
  | move target => .markup "M " :: target.pieces
  | draw s => s.pieces

/-- The pieces of the drawing commands of a path. -/
def Path.pieces (p : Path) : List Piece := [.markup " "].intercalate (p.ops.map PathOp.pieces)

@[simp] theorem Point.join_pieces (p : Point) : join p.pieces = p.coordinates := by
  simp [Point.pieces, Point.coordinates, Piece.text, String.append_assoc]

@[simp] theorem Stroke.join_pieces (s : Stroke) : join s.pieces = s.data := by
  cases s with
  | line target => simp [Stroke.pieces, Stroke.data, Piece.text]
  | arc a =>
    rw [Stroke.pieces, join_cons, join_intercalate]
    simp only [List.map_cons, List.map_nil, join_cons, join_nil, Piece.text, String.append_empty,
      Point.join_pieces]
    rfl

@[simp] theorem PathOp.join_pieces (op : PathOp) : join op.pieces = op.data := by
  cases op with
  | move target => simp [PathOp.pieces, PathOp.data, Piece.text]
  | draw s => simp [PathOp.pieces, PathOp.data]

@[simp] theorem Path.join_pieces (p : Path) : join p.pieces = p.data := by
  simp [Path.pieces, Path.data, join_intercalate, Piece.text, Function.comp_def]

/-! ## Elements -/

namespace Svg

/-- The pieces of an attribute. -/
def attrPieces (name : String) (value : List Piece) : List Piece :=
  .markup (" " ++ name ++ "=\"") :: value ++ [.markup "\""]

/-- The pieces of the box of a viewport. -/
def viewBoxPieces (v : Viewport) : List Piece :=
  [.markup " "].intercalate
    ([v.bounds.minX, v.bounds.minY, v.bounds.width, v.bounds.height].map ([.number ·]))

/-- The pieces of a shift. -/
def translationPieces (x y : Float) : List Piece :=
  [.markup "translate(", .number x, .markup ", ", .number y, .markup ")"]

/-- The pieces of the mirroring of a viewport. -/
def transformPieces (v : Viewport) : List Piece :=
  let c := v.bounds.center
  translationPieces c.x c.y ++ .markup " scale(1, -1) " :: translationPieces (-c.x) (-c.y)

/-- The pieces of the opening tag. -/
def openingPieces (v : Viewport) (o : Options) : List Piece :=
  .markup "<svg" :: attrPieces "viewBox" (viewBoxPieces v) ++
    [.markup (attr "width" (toString o.width.toNat) ++ attr "height" (toString o.height.toNat) ++
      attr "xmlns" nameSpace ++ ">\n")]

/-- The pieces of the element of a path. -/
def elementPieces (lineThickness : Float) (p : Path) : List Piece :=
  let pen := Pen.ofPath p.printing lineThickness
  .markup "    <path" :: attrPieces "d" p.pieces ++ .markup (attr "stroke" pen.color) ::
    attrPieces "stroke-width" [.number pen.width] ++
    [.markup (attr "fill" "none" ++ attr "stroke-linecap" "round" ++
      attr "stroke-linejoin" "round" ++ " />\n")]

/-- The pieces of the document that shows a toolpath in a viewport. -/
def documentPieces (t : Toolpath) (v : Viewport) (o : Options) : List Piece :=
  openingPieces v o ++ .markup "  <g" :: attrPieces "transform" (transformPieces v) ++
    .markup ">\n" :: t.paths.flatMap (elementPieces o.lineThickness) ++
    [.markup "  </g>\n</svg>\n"]

/-- The pieces of the document that shows a program. -/
def pieces (p : Program) (o : Options) : List Piece :=
  documentPieces (Toolpath.trace p) (Viewport.fit p o.padding) o

@[simp] theorem join_attrPieces (name : String) (value : List Piece) :
    join (attrPieces name value) = attr name (join value) := by
  simp [attrPieces, attr, Piece.text, String.append_assoc]

@[simp] theorem join_viewBoxPieces (v : Viewport) : join (viewBoxPieces v) = v.viewBox := by
  rw [viewBoxPieces, join_intercalate]
  simp only [List.map_cons, List.map_nil, join_cons, join_nil, Piece.text, String.append_empty]
  rfl

@[simp] theorem join_translationPieces (x y : Float) :
    join (translationPieces x y) = Viewport.translation x y := by
  simp [translationPieces, Viewport.translation, Piece.text, String.append_assoc]

@[simp] theorem join_transformPieces (v : Viewport) : join (transformPieces v) = v.transform := by
  simp [transformPieces, Viewport.transform, Piece.text, String.append_assoc]

@[simp] theorem join_openingPieces (v : Viewport) (o : Options) :
    join (openingPieces v o) = opening v o := by
  simp [openingPieces, opening, Piece.text, String.append_assoc]

@[simp] theorem join_elementPieces (lineThickness : Float) (p : Path) :
    join (elementPieces lineThickness p) = element lineThickness p := by
  simp [elementPieces, element, Piece.text, String.append_assoc]

theorem join_documentPieces (t : Toolpath) (v : Viewport) (o : Options) :
    join (documentPieces t v o) = document t v o := by
  simp [documentPieces, document, join_flatMap, Piece.text, String.append_assoc]

/-- The pieces of a document make up the document. -/
theorem join_pieces (p : Program) (o : Options) : join (pieces p o) = render p o :=
  join_documentPieces _ _ _

end Svg

end JetPlot
