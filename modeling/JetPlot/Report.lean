import JetPlot.Program.Reading
import JetPlot.Svg
import JetPlot.Toolpath.Json

/-!
# Reports

A report describes a rendered program: how much was read, what is shown, what
became of the commands and which lines were skipped.
-/

namespace JetPlot

/-- A description of a rendered program. -/
structure Report where
  /-- The number of commands. -/
  commands : Nat
  /-- The part of the plane that is shown. -/
  viewBox : String
  /-- What became of the commands. -/
  toolpath : Stats
  /-- The lines without a command. -/
  skippedLines : List SkippedLine
  deriving DecidableEq

namespace Report

/-- The report in one sentence. -/
def summary (r : Report) : String :=
  let s := r.toolpath
  s!"Rendered {r.commands} commands into {s.printing + s.rapid} paths " ++
    s!"({s.printing} printing, {s.rapid} rapid), {r.skippedLines.length} lines skipped"

/-- The report as a record. -/
def toJson (r : Report) : Json :=
  .ofEntries [("commands", .ofNat r.commands), ("view_box", .ofString r.viewBox),
    ("toolpath", r.toolpath.toJson), ("skipped_lines", .ofList SkippedLine.toJson r.skippedLines)]

end Report

/-- A document with the report on it. -/
structure Rendered where
  /-- The SVG document. -/
  svg : String
  /-- The description of it. -/
  report : Report
  deriving DecidableEq

namespace Rendered

/-- Reads and renders a program text. -/
def ofText (text : String) (o : Options) : Rendered :=
  let p := Program.ofText text
  let viewport := Viewport.fit p o.padding
  let toolpath := Toolpath.trace p
  ⟨Svg.document toolpath viewport o,
    ⟨p.steps.length, viewport.viewBox, toolpath.stats, p.skipped⟩⟩

/-- What is logged about the reading and rendering of a text. -/
def renderingLog (text : String) (o : Options) : List Log.Record :=
  let p := Program.ofText text
  Program.readingLog text ++ Viewport.fittingLog p o.padding ++ Toolpath.tracingLog p

end Rendered

end JetPlot
