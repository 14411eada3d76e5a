import JetPlot.Log
import JetPlot.Program.Basic
import JetPlot.Toolpath.Arc

/-!
# Tracing programs

The tracer carries out the steps of a program one by one. Its state is the
cursor, where the nozzle is, and at most one open path. Every step yields an
`Outcome`: the paths it finishes, what it counts, and what there is to report.
The outcomes of the steps follow each other (`Outcome.ofSteps`) and make up the
toolpath (`Toolpath.trace`).

* `MSEG` closes the open path as a rapid one and opens a segment at its point;
* `ENDS` and `PTP` close the open path, printed if the shutter is open; `PTP` then
  moves the cursor;
* `LINE` and `ARC2` add a stroke to an open segment. Outside of a segment a stroke
  opens a path of its own at the cursor, and the next one takes its place;
* the end of the program closes the open path as a rapid one.

A path that is closed without any stroke is dropped.
-/

namespace JetPlot

/-- A path that is still open. -/
structure OpenPath where
  /-- Where the path begins. -/
  start : Point
  /-- The strokes so far, the last one first. -/
  drawn : List Stroke
  /-- Whether the path is a segment opened by a command of its own. -/
  segment : Bool
  deriving DecidableEq

namespace OpenPath

/-- The number of points that the path names so far. -/
def size (p : OpenPath) : Nat := p.drawn.length + 1

/-- The path as it is when closed. -/
def close (p : OpenPath) (printing : Bool) : Path := ⟨p.start, p.drawn.reverse, printing⟩

end OpenPath

/-- Where the tracer is. -/
structure Tracer where
  /-- Where the nozzle is. -/
  cursor : Point
  /-- The path that is open, if any. -/
  pending : Option OpenPath
  deriving DecidableEq

/-- What happens while a program is traced. -/
inductive TraceEvent
  /-- A step is carried out. -/
  | step (index : Nat) (step : Step)
  /-- An arc without a usable angle is left out. -/
  | arcSkipped (index : Nat) (target cursor : Point)
  /-- An arc is drawn with the given radius. -/
  | arcDrawn (index : Nat) (radius : Float)
  /-- An arc without a radius is drawn as a line. -/
  | arcFlattened (index : Nat) (angle : Float)
  /-- A stroke outside of a segment takes the place of the open path. -/
  | replaced (size : Nat)
  /-- A path is finished. -/
  | finished (segment : Bool) (size : Nat) (printing : Bool)
  deriving DecidableEq

namespace TraceEvent

/-- An event in words. -/
def message : TraceEvent → String
  | step index s => s!"Cmd[{index}]: {s.command.text} shutter={s.shutterOpen}"
  | arcSkipped index target cursor =>
    s!"Arc[{index}]: no usable angle, skipping arc to {target.text} and holding cursor at " ++
      cursor.text
  | arcDrawn index radius => s!"Arc[{index}]: radius=" ++ Decimal.fixed 4 radius
  | arcFlattened index angle =>
    s!"Arc[{index}]: undefined radius for angle={Style.plain.text angle}, " ++
      "treating as line segment"
  | replaced size => s!"Dropping open implicit path with {size} ops"
  | finished segment size printing =>
    "Finalize " ++ (if segment then "explicit" else "implicit") ++ s!" path with {size} ops as " ++
      if printing then "printing" else "rapid"

/-- How important an event is. -/
def level : TraceEvent → Log.Level
  | arcSkipped .. => .warn
  | _ => .trace

/-- The log record of an event. -/
def record (e : TraceEvent) : Log.Record := ⟨e.level, .toolpath, e.message⟩

end TraceEvent

/-- What some steps of a program yield. -/
structure Outcome where
  /-- The finished paths. -/
  paths : List Path
  /-- What is counted. -/
  stats : Stats
  /-- What happened, in order. -/
  events : List TraceEvent
  deriving DecidableEq

namespace Outcome

/-- The outcome of nothing. -/
def empty : Outcome := ⟨[], .zero, []⟩

/-- One outcome followed by another one. -/
def append (o p : Outcome) : Outcome :=
  ⟨o.paths ++ p.paths, o.stats + p.stats, o.events ++ p.events⟩

instance : Append Outcome := ⟨append⟩

section append

variable (o p : Outcome)

@[simp] theorem paths_append : (o ++ p).paths = o.paths ++ p.paths := rfl
@[simp] theorem stats_append : (o ++ p).stats = o.stats + p.stats := rfl
@[simp] theorem events_append : (o ++ p).events = o.events ++ p.events := rfl

@[simp] theorem empty_append : empty ++ o = o := by
  obtain ⟨paths, stats, events⟩ := o
  exact congrArg (Outcome.mk paths · events) (Stats.zero_add stats)

end append

/-- The outcome that consists of one event. -/
def event (e : TraceEvent) : Outcome := ⟨[], .zero, [e]⟩

@[simp] theorem paths_event (e : TraceEvent) : (event e).paths = [] := rfl
@[simp] theorem stats_event (e : TraceEvent) : (event e).stats = .zero := rfl

/-- The outcome of closing a path. -/
def ofClosing (printing : Bool) : Option OpenPath → Outcome
  | none => empty
  | some p =>
    if p.drawn.isEmpty then ⟨[], { Stats.zero with discarded := 1 }, []⟩
    else
      ⟨[p.close printing],
        if printing then { Stats.zero with printing := 1 } else { Stats.zero with rapid := 1 },
        [.finished p.segment p.size printing]⟩

end Outcome

namespace Tracer

/-- The tracer before the first step. -/
def initial : Tracer := ⟨.origin, none⟩

/-- Draws a stroke from the cursor. -/
def draw (t : Tracer) (s : Stroke) : Tracer × Outcome :=
  match t.pending with
  | none => (⟨s.target, some ⟨t.cursor, [s], false⟩⟩, .empty)
  | some p =>
    if p.segment then (⟨s.target, some { p with drawn := s :: p.drawn }⟩, .empty)
    else (⟨s.target, some ⟨t.cursor, [s], false⟩⟩,
      ⟨[], { Stats.zero with replaced := 1 }, [.replaced p.size]⟩)

/-- Draws an arc, or a line if it has no radius. -/
def drawArc (t : Tracer) (index : Nat) (target : Point) (angle : Float) : Tracer × Outcome :=
  match Arc.ofAngle? t.cursor target angle with
  | some arc =>
    let (t, outcome) := t.draw (.arc arc)
    (t, ⟨[], { Stats.zero with arcs := 1 }, [.arcDrawn index arc.radius]⟩ ++ outcome)
  | none =>
    let (t, outcome) := t.draw (.line target)
    (t, ⟨[], { Stats.zero with arcs := 1, degenerate := 1 }, [.arcFlattened index angle]⟩ ++
      outcome)

/-- Carries out a command. -/
def command (t : Tracer) (index : Nat) (shutterOpen : Bool) (c : Command) : Tracer × Outcome :=
  match c.keyword, c.point with
  | .mseg, some p => (⟨p, some ⟨p, [], true⟩⟩, .ofClosing false t.pending)
  | .mseg, none => ({ t with pending := none }, .ofClosing false t.pending)
  | .ends, _ => ({ t with pending := none }, .ofClosing shutterOpen t.pending)
  | .ptp, p => (⟨p.getD t.cursor, none⟩, .ofClosing shutterOpen t.pending)
  | .line, some p => t.draw (.line p)
  | .arc2, some p =>
    match c.angle.filter Float.isFinite with
    | some angle => t.drawArc index p angle
    | none =>
      (t, ⟨[], { Stats.zero with skippedArcs := 1 }, [.arcSkipped index p t.cursor]⟩)
  | .line, none | .arc2, none => (t, .empty)

/-- Carries out a step. -/
def step (t : Tracer) (index : Nat) (s : Step) : Tracer × Outcome :=
  let (t, outcome) := t.command index s.shutterOpen s.command
  (t, .event (.step index s) ++ outcome)

theorem fst_step (t : Tracer) (index : Nat) (s : Step) :
    (t.step index s).1 = (t.command index s.shutterOpen s.command).1 := rfl

theorem snd_step (t : Tracer) (index : Nat) (s : Step) :
    (t.step index s).2 =
      .event (.step index s) ++ (t.command index s.shutterOpen s.command).2 := rfl

end Tracer

/-- The outcome of the steps from the given index on. -/
def Outcome.ofSteps (t : Tracer) (index : Nat) : List Step → Outcome
  | [] => .ofClosing false t.pending
  | s :: rest =>
    let (t, outcome) := t.step index s
    outcome ++ ofSteps t (index + 1) rest

theorem Outcome.ofSteps_cons (t : Tracer) (index : Nat) (s : Step) (rest : List Step) :
    ofSteps t index (s :: rest) =
      (t.step index s).2 ++ ofSteps (t.step index s).1 (index + 1) rest := rfl

/-- The outcome of a program. -/
def Outcome.ofProgram (p : Program) : Outcome := .ofSteps .initial 0 p.steps

namespace Toolpath

/-- The toolpath of a program. -/
def trace (p : Program) : Toolpath :=
  let outcome := Outcome.ofProgram p
  ⟨outcome.paths, outcome.stats⟩

/-- The counts of a traced program in words. -/
def summary (s : Stats) : String :=
  s!"Trace complete: {s.printing} printing, {s.rapid} rapid, {s.discarded} discarded, " ++
    s!"{s.replaced} replaced, {s.arcs} arcs ({s.degenerate} degenerate, {s.skippedArcs} skipped)"

/-- What is logged about the tracing of a program. -/
def tracingLog (p : Program) : List Log.Record :=
  let outcome := Outcome.ofProgram p
  outcome.events.map TraceEvent.record ++ [⟨.debug, .toolpath, summary outcome.stats⟩]

end Toolpath

end JetPlot
