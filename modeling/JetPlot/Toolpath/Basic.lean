import JetPlot.Geometry.Point

/-!
# Toolpaths

A toolpath is what a program draws: a list of paths. A path begins at a point and
continues with strokes, each a straight line or a circular arc from where the one
before it ended. Paths drawn with the shutter open are printed, the others are
rapid moves. A toolpath also counts what became of the commands it comes from.
-/

namespace JetPlot

/-- A circular arc, as it is drawn from a given point. -/
structure Arc where
  /-- The radius of the circle. -/
  radius : Float
  /-- Whether the arc is longer than half of the circle. -/
  large : Bool
  /-- Whether the arc runs in the direction of positive angles. -/
  sweep : Bool
  /-- Where the arc ends. -/
  target : Point
  deriving DecidableEq

/-- One stroke of a path. -/
inductive Stroke
  /-- A straight line to a point. -/
  | line (target : Point)
  /-- A circular arc. -/
  | arc (arc : Arc)
  deriving DecidableEq

/-- Where a stroke ends. -/
def Stroke.target : Stroke → Point
  | line target => target
  | arc a => a.target

/-- A path. -/
structure Path where
  /-- Where the path begins. -/
  start : Point
  /-- The strokes in the order in which they are drawn. -/
  strokes : List Stroke
  /-- Whether the path is printed, with the shutter open. -/
  printing : Bool
  deriving DecidableEq

/-- One operation of a path as it is written down. -/
inductive PathOp
  /-- The pen moves to a point without drawing. -/
  | move (target : Point)
  /-- A stroke is drawn. -/
  | draw (stroke : Stroke)
  deriving DecidableEq

namespace PathOp

/-- Where an operation ends. -/
def target : PathOp → Point
  | move target => target
  | draw s => s.target

/-- Whether an operation only moves the pen. -/
def isMove : PathOp → Bool
  | move _ => true
  | draw _ => false

end PathOp

namespace Path

/-- The operations of a path: the move to where it begins, then its strokes. -/
def ops (p : Path) : List PathOp := .move p.start :: p.strokes.map .draw

/-- The ends of the operations: the beginning of the path and the ends of its
    strokes. -/
def points (p : Path) : List Point := p.ops.map PathOp.target

end Path

/-- What became of the commands of a program. -/
@[ext] structure Stats where
  /-- The number of printed paths. -/
  printing : Nat
  /-- The number of rapid paths. -/
  rapid : Nat
  /-- The number of paths that were closed before anything was drawn. -/
  discarded : Nat
  /-- The number of single strokes outside of a segment that gave way to the next
      one. -/
  replaced : Nat
  /-- The number of arcs with a usable angle. -/
  arcs : Nat
  /-- The number of arcs drawn as straight lines, for want of a radius. -/
  degenerate : Nat
  /-- The number of arcs left out, for want of a usable angle. -/
  skippedArcs : Nat
  deriving DecidableEq

namespace Stats

/-- Nothing counted yet. -/
def zero : Stats := ⟨0, 0, 0, 0, 0, 0, 0⟩

/-- Adds all counts. -/
def add (s t : Stats) : Stats :=
  ⟨s.printing + t.printing, s.rapid + t.rapid, s.discarded + t.discarded,
    s.replaced + t.replaced, s.arcs + t.arcs, s.degenerate + t.degenerate,
    s.skippedArcs + t.skippedArcs⟩

instance : Add Stats := ⟨add⟩

section add

variable (s t : Stats)

@[simp] theorem printing_add : (s + t).printing = s.printing + t.printing := rfl
@[simp] theorem rapid_add : (s + t).rapid = s.rapid + t.rapid := rfl
@[simp] theorem discarded_add : (s + t).discarded = s.discarded + t.discarded := rfl
@[simp] theorem replaced_add : (s + t).replaced = s.replaced + t.replaced := rfl
@[simp] theorem arcs_add : (s + t).arcs = s.arcs + t.arcs := rfl
@[simp] theorem degenerate_add : (s + t).degenerate = s.degenerate + t.degenerate := rfl
@[simp] theorem skippedArcs_add : (s + t).skippedArcs = s.skippedArcs + t.skippedArcs := rfl

@[simp] theorem zero_add : zero + s = s := by
  ext <;> simp [zero]

end add

/-- The counts with their names, in the order in which they are reported. -/
def entries (s : Stats) : List (String × Nat) :=
  [("printing_paths", s.printing), ("rapid_paths", s.rapid), ("discarded_paths", s.discarded),
   ("replaced_paths", s.replaced), ("arcs", s.arcs), ("degenerate_arcs", s.degenerate),
   ("skipped_arcs", s.skippedArcs)]

end Stats

/-- What a program draws. -/
structure Toolpath where
  /-- The paths in the order in which they are drawn. -/
  paths : List Path
  /-- What became of the commands. -/
  stats : Stats
  deriving DecidableEq

end JetPlot
