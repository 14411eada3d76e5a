import JetPlot.Program.Json
import JetPlot.Toolpath.Basic

/-!
# Toolpaths in JSON

A toolpath is a record of its paths and its counts. A path is written as its
operations, each a choice; the first one moves to where the path begins.
-/

namespace JetPlot

/-- A stroke as a choice. -/
def Stroke.toJson : Stroke → Json
  | line target => .ofEntries [("LineTo", target.toJson)]
  | arc a => .ofEntries [("ArcTo", .ofEntries [("radius", .ofFloat a.radius),
      ("large_arc", .bool a.large), ("sweep", .bool a.sweep), ("to", a.target.toJson)])]

/-- An operation as a choice. -/
def PathOp.toJson : PathOp → Json
  | move target => .ofEntries [("MoveTo", target.toJson)]
  | draw s => s.toJson

/-- A path as a record. -/
def Path.toJson (p : Path) : Json :=
  .ofEntries [("ops", .ofList PathOp.toJson p.ops), ("printing", .bool p.printing)]

/-- The counts as a record. -/
def Stats.toJson (s : Stats) : Json :=
  .ofEntries (s.entries.map fun entry => (entry.1, .ofNat entry.2))

/-- A toolpath as a record. -/
def Toolpath.toJson (t : Toolpath) : Json :=
  .ofEntries [("paths", .ofList Path.toJson t.paths), ("stats", t.stats.toJson)]

end JetPlot
