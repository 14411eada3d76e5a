import Mathlib.Algebra.GroupWithZero.Nat
import JetPlot.Proofs.Toolpath.Segmentation

/-!
# Accounts of a traced program

The counts of a toolpath leave nothing out. Every stroke that is drawn ends up in a
path or gives way to another one, and every path that is opened is finished,
discarded or replaced. Each account is kept by every step, if what the tracer holds
open is counted in: `strokes_step`, `openings_step` and `arcs_step`.

* `accounts_trace`: all accounts of a program.

The account of the strokes rests on the open path being a single stroke whenever it is
replaced (`Tracer.Alone`).
-/

namespace JetPlot

namespace Command

/-- Whether a command is a line to a point. -/
def isLine (c : Command) : Bool := c.keyword = .line && c.point.isSome

/-- Whether a command is an arc to a point, with whatever angle. -/
def isArc (c : Command) : Bool := c.keyword = .arc2 && c.point.isSome

/-- Whether a command opens a segment. -/
def opensSegment (c : Command) : Bool := c.keyword = .mseg && c.point.isSome

theorem isSome_segmentStart? (c : Command) : c.segmentStart?.isSome = c.opensSegment := by
  rw [segmentStart?, opensSegment]
  by_cases h : c.keyword = .mseg <;> simp [h]

/-- Only a boundary opens a segment. -/
theorem opensSegment_eq_false {c : Command} (h : c.isBoundary = false) :
    c.opensSegment = false := by
  obtain ⟨keyword, point, angle, speed, number⟩ := c
  cases keyword with
  | ptp | mseg | ends => cases h
  | line | arc2 => rfl

end Command

namespace Program

/-- Whether the command at a position draws outside of a segment: the latest
    boundary before it, if there is any, opens none. -/
def drawsAlone (p : Program) (i : Nat) : Bool :=
  p.commands[i]?.any Command.draws && !(p.boundaryBefore? i).any Command.opensSegment

end Program

/-- What the counts of a toolpath say about its paths and its program. -/
structure Toolpath.Accounts (p : Program) (t : Toolpath) : Prop where
  /-- The printed paths are counted. -/
  printing : t.stats.printing = t.paths.countP fun path => path.printing
  /-- The rapid paths are counted. -/
  rapid : t.stats.rapid = t.paths.countP fun path => !path.printing
  /-- Every path begins with a move, has no other one, and draws something. -/
  shape : ∀ path ∈ t.paths, (∃ start, path.ops.head? = some (.move start)) ∧
    (∀ op ∈ path.ops.tail, op.isMove = false) ∧ 2 ≤ path.ops.length
  /-- Every arc to a point is drawn or left out. -/
  arcs : t.stats.arcs + t.stats.skippedArcs = p.commands.countP Command.isArc
  /-- Only arcs that are drawn become lines. -/
  degenerate : t.stats.degenerate ≤ t.stats.arcs
  /-- Every stroke that is drawn is in a path or replaced. -/
  strokes : p.commands.countP Command.isLine + t.stats.arcs =
    (t.paths.map fun path => path.ops.length - 1).sum + t.stats.replaced
  /-- Every path that is opened, by a segment or by a stroke outside of one, is
      finished, discarded or replaced. -/
  openings : p.commands.countP Command.opensSegment +
      (List.range p.commands.length).countP p.drawsAlone =
    t.paths.length + t.stats.discarded + t.stats.replaced

/-! ## What a step counts -/

namespace Outcome

/-- The number of strokes in the finished paths. -/
def strokes (o : Outcome) : Nat := (o.paths.map fun path => path.ops.length - 1).sum

@[simp] theorem strokes_append (o p : Outcome) : (o ++ p).strokes = o.strokes + p.strokes := by
  rw [strokes, paths_append, List.map_append, List.sum_append]
  rfl

@[simp] theorem strokes_event (e : TraceEvent) : (event e).strokes = 0 := rfl

theorem strokes_of_paths_nil {o : Outcome} (h : o.paths = []) : o.strokes = 0 := by
  rw [strokes, h]
  rfl

/-- What is true of every part of an outcome on its own. -/
structure Sound (o : Outcome) : Prop where
  printing : o.stats.printing = o.paths.countP fun path => path.printing
  rapid : o.stats.rapid = o.paths.countP fun path => !path.printing
  drawn : ∀ path ∈ o.paths, path.isDrawn
  degenerate : o.stats.degenerate ≤ o.stats.arcs

theorem sound_event (e : TraceEvent) : (event e).Sound :=
  ⟨rfl, rfl, List.forall_mem_nil _, Nat.le_refl _⟩

theorem Sound.append {o p : Outcome} (ho : o.Sound) (hp : p.Sound) : (o ++ p).Sound where
  printing := by simp [ho.printing, hp.printing]
  rapid := by simp [ho.rapid, hp.rapid]
  drawn path h := by
    rcases List.mem_append.1 h with h | h
    · exact ho.drawn path h
    · exact hp.drawn path h
  degenerate := Nat.add_le_add ho.degenerate hp.degenerate

theorem sound_of_nil {stats : Stats} {events : List TraceEvent} (hp : stats.printing = 0)
    (hr : stats.rapid = 0) (hd : stats.degenerate ≤ stats.arcs) : Sound ⟨[], stats, events⟩ :=
  ⟨hp, hr, List.forall_mem_nil _, hd⟩

theorem sound_ofClosing (printing : Bool) (o : Option OpenPath) :
    (ofClosing printing o).Sound := by
  have hdrawn : ∀ path ∈ (ofClosing printing o).paths, path.isDrawn := by
    intro path h
    rw [paths_ofClosing] at h
    exact (List.mem_filter.1 h).2
  obtain _ | ⟨start, _ | ⟨stroke, drawn⟩, segment⟩ := o
  · exact ⟨rfl, rfl, hdrawn, Nat.le_refl _⟩
  · exact ⟨rfl, rfl, hdrawn, Nat.le_refl _⟩
  · cases printing <;> exact ⟨rfl, rfl, hdrawn, Nat.le_refl _⟩

/-- Closing accounts for all strokes of the open path: if there are any, it is
    finished. -/
theorem strokes_ofClosing (printing : Bool) (o : Option OpenPath) :
    (ofClosing printing o).strokes = o.elim 0 (·.drawn.length) := by
  obtain _ | ⟨start, _ | ⟨stroke, drawn⟩, segment⟩ := o
  · rfl
  · rfl
  · simp [strokes, ofClosing, OpenPath.close, Path.ops]

/-- Closing finishes the open path or discards it. -/
theorem length_paths_ofClosing (printing : Bool) (o : Option OpenPath) :
    (ofClosing printing o).paths.length + (ofClosing printing o).stats.discarded =
      o.elim 0 fun _ => 1 := by
  obtain _ | ⟨start, _ | ⟨stroke, drawn⟩, segment⟩ := o
  · rfl
  · rfl
  · cases printing <;> rfl

/-- Closing has nothing to do with arcs and replaces nothing. -/
@[simp] theorem arcs_ofClosing (printing : Bool) (o : Option OpenPath) :
    (ofClosing printing o).stats.arcs = 0 ∧ (ofClosing printing o).stats.skippedArcs = 0 ∧
      (ofClosing printing o).stats.replaced = 0 := by
  obtain _ | ⟨start, _ | ⟨stroke, drawn⟩, segment⟩ := o
  · exact ⟨rfl, rfl, rfl⟩
  · exact ⟨rfl, rfl, rfl⟩
  · cases printing <;> exact ⟨rfl, rfl, rfl⟩

end Outcome

namespace Command

/-- An arc to a point is counted as drawn or as left out. -/
theorem arcs_arcOutcome (index : Nat) (cursor : Point) (c : Command) :
    (c.arcOutcome index cursor).stats.arcs + (c.arcOutcome index cursor).stats.skippedArcs =
      c.isArc.toNat := by
  obtain ⟨keyword, point, angle, speed, number⟩ := c
  cases keyword with
  | arc2 =>
    cases point with
    | none => rfl
    | some target =>
      obtain ⟨_, _, -, h⟩ :=
        Outcome.ofArc_eq index cursor target (angle.filter Float.isFinite)
      simp only [arcOutcome, h]
      cases angle.filter Float.isFinite <;> rfl
  | ptp | line | mseg | ends => rfl

theorem arcOutcome_of_isBoundary {index : Nat} {cursor : Point} {c : Command}
    (h : c.isBoundary) : c.arcOutcome index cursor = .empty := by
  obtain ⟨keyword, point, angle, speed, number⟩ := c
  cases keyword with
  | ptp | mseg | ends => rfl
  | line | arc2 => cases h

/-- A command that draws is a line, or an arc that is counted as drawn. -/
theorem isLine_add_arcs (index : Nat) (cursor : Point) (c : Command) :
    c.isLine.toNat + (c.arcOutcome index cursor).stats.arcs = c.draws.toNat := by
  rw [← c.isSome_stroke? cursor]
  obtain ⟨keyword, point, angle, speed, number⟩ := c
  cases keyword with
  | arc2 =>
    cases point with
    | none => rfl
    | some target =>
      obtain ⟨_, _, -, h⟩ :=
        Outcome.ofArc_eq index cursor target (angle.filter Float.isFinite)
      simp only [arcOutcome, h, stroke?, Option.isSome_map]
      exact Nat.zero_add _
  | line => cases point <;> rfl
  | ptp | mseg | ends => rfl

theorem sound_arcOutcome (index : Nat) (cursor : Point) (c : Command) :
    (c.arcOutcome index cursor).Sound := by
  obtain ⟨_, _, _, _, hle, h⟩ := c.arcOutcome_eq index cursor
  rw [h]
  exact Outcome.sound_of_nil rfl rfl hle

/-- An arc on its own neither discards nor replaces a path. -/
@[simp] theorem openings_arcOutcome (index : Nat) (cursor : Point) (c : Command) :
    (c.arcOutcome index cursor).stats.discarded = 0 ∧
      (c.arcOutcome index cursor).stats.replaced = 0 := by
  obtain ⟨_, _, _, _, -, h⟩ := c.arcOutcome_eq index cursor
  rw [h]
  exact ⟨rfl, rfl⟩

end Command

namespace Tracer

/-- Whether the open path of the tracer is a segment. -/
def inSegment (t : Tracer) : Bool := t.pending.any (·.segment)

/-- The number of strokes in the open path. -/
def openStrokes (t : Tracer) : Nat := t.pending.elim 0 (·.drawn.length)

/-- The number of open paths. -/
def openPaths (t : Tracer) : Nat := t.pending.elim 0 fun _ => 1

/-- Outside of a segment the open path is a single stroke. -/
def Alone (t : Tracer) : Prop :=
  ∀ o, t.pending = some o → o.segment = false → o.drawn.length = 1

theorem sound_draw (t : Tracer) (s : Stroke) : (t.draw s).2.Sound := by
  obtain ⟨_, _, h⟩ := t.draw_eq s
  rw [h]
  exact Outcome.sound_of_nil rfl rfl (Nat.le_refl _)

/-- Drawing has nothing to do with arcs and discards nothing. -/
@[simp] theorem arcs_draw (t : Tracer) (s : Stroke) :
    (t.draw s).2.stats.arcs = 0 ∧ (t.draw s).2.stats.skippedArcs = 0 ∧
      (t.draw s).2.stats.discarded = 0 := by
  obtain ⟨_, _, h⟩ := t.draw_eq s
  rw [h]
  exact ⟨rfl, rfl, rfl⟩

/-- A stroke is added to those of the open path, or takes the place of a single one. -/
theorem strokes_draw {t : Tracer} (h : t.Alone) (s : Stroke) :
    t.openStrokes + 1 = (t.draw s).1.openStrokes + (t.draw s).2.stats.replaced := by
  obtain ⟨cursor, _ | ⟨start, drawn, segment⟩⟩ := t
  · rfl
  · cases segment with
    | true => rfl
    | false =>
      have hone : drawn.length = 1 := h _ rfl rfl
      rw [openStrokes, Option.elim_some, hone]
      rfl

/-- Outside of a segment a stroke opens a path, which may replace the open one. -/
theorem openPaths_draw (t : Tracer) (s : Stroke) :
    t.openPaths + (!t.inSegment).toNat =
      (t.draw s).1.openPaths + (t.draw s).2.stats.replaced := by
  obtain ⟨cursor, _ | ⟨start, drawn, segment⟩⟩ := t
  · rfl
  · cases segment <;> rfl

end Tracer

/-! ## The accounts of a run -/

namespace Program

variable {p : Program} {i : Nat} {s : Step}

theorem alone_tracerAt (p : Program) (i : Nat) : (p.tracerAt i).Alone :=
  fun _ h ho => length_drawn_of_openPathAt h ho

/-- The tracer is in a segment if the latest boundary opened one. -/
theorem inSegment_tracerAt (p : Program) (i : Nat) :
    (p.tracerAt i).inSegment = (p.boundaryBefore? i).any Command.opensSegment := by
  have hany : (p.boundaryBefore? i).any Command.opensSegment =
      ((p.boundaryBefore? i).bind Command.segmentStart?).isSome := by
    cases p.boundaryBefore? i with
    | none => rfl
    | some c => exact c.isSome_segmentStart?.symm
  rw [hany, Tracer.inSegment, tracerAt, openPathAt]
  cases (p.boundaryBefore? i).bind Command.segmentStart? with
  | some start => rfl
  | none => cases (p.drawnBefore i).getLast? <;> rfl

theorem sound_step (h : p.steps[i]? = some s) : ((p.tracerAt i).step i s).2.Sound := by
  have hevent := Outcome.sound_event (.step i s)
  obtain ⟨-, hstep, -⟩ | ⟨stroke, -, hstep, -⟩ | ⟨-, -, hstep, -⟩ := step_cases h
  · rw [hstep]
    exact hevent.append (Outcome.sound_ofClosing ..)
  · rw [hstep]
    exact hevent.append ((Command.sound_arcOutcome ..).append (Tracer.sound_draw ..))
  · rw [hstep]
    exact hevent.append (Command.sound_arcOutcome ..)

/-- The account of the arcs in a step. -/
theorem arcs_step (h : p.steps[i]? = some s) :
    ((p.tracerAt i).step i s).2.stats.arcs + ((p.tracerAt i).step i s).2.stats.skippedArcs =
      s.command.isArc.toNat := by
  have harc := s.command.arcs_arcOutcome i (p.cursorAt i)
  obtain ⟨hb, hstep, -⟩ | ⟨stroke, -, hstep, -⟩ | ⟨-, -, hstep, -⟩ := step_cases h
  · rw [Command.arcOutcome_of_isBoundary hb] at harc
    rw [hstep, ← harc]
    simp [Outcome.empty, Stats.zero]
  · rw [hstep, ← harc]
    simp
  · rw [hstep, ← harc]
    simp

/-- The account of the strokes in a step. -/
theorem strokes_step (h : p.steps[i]? = some s) :
    (p.tracerAt i).openStrokes + s.command.isLine.toNat +
        ((p.tracerAt i).step i s).2.stats.arcs =
      (p.tracerAt (i + 1)).openStrokes + ((p.tracerAt i).step i s).2.strokes +
        ((p.tracerAt i).step i s).2.stats.replaced := by
  have hline := s.command.isLine_add_arcs i (p.cursorAt i)
  rw [← s.command.isSome_stroke? (p.cursorAt i)] at hline
  obtain ⟨hb, hstep, hnext⟩ | ⟨stroke, hs, hstep, hnext⟩ | ⟨-, hs, hstep, hnext⟩ := step_cases h
  · -- The strokes that were open are those of the finished path, and none is open now.
    have hopen : (p.tracerAt (i + 1)).openStrokes = 0 := by
      rw [Tracer.openStrokes, tracerAt, hnext]
      cases s.command.segmentStart? <;> rfl
    rw [s.command.isSome_stroke?, Command.draws_of_isBoundary hb, Bool.toNat_false] at hline
    rw [hstep, hopen, (Nat.add_eq_zero_iff.1 hline).1, Tracer.openStrokes, tracerAt]
    simp [Outcome.strokes_ofClosing]
  · -- The stroke joins those that are open, or takes the place of the only one.
    have hdraw := Tracer.strokes_draw (p.alone_tracerAt i) stroke
    rw [hs, Option.isSome_some, Bool.toNat_true] at hline
    rw [← hnext] at hdraw
    rw [hstep]
    simp [Outcome.strokes_of_paths_nil]
    omega
  · rw [hs, Option.isSome_none, Bool.toNat_false] at hline
    rw [hstep, hnext]
    simp [Outcome.strokes_of_paths_nil]
    omega

/-- The account of the openings in a step. -/
theorem openings_step (h : p.steps[i]? = some s) :
    (p.tracerAt i).openPaths + s.command.opensSegment.toNat + (p.drawsAlone i).toNat =
      (p.tracerAt (i + 1)).openPaths + ((p.tracerAt i).step i s).2.paths.length +
        ((p.tracerAt i).step i s).2.stats.discarded +
        ((p.tracerAt i).step i s).2.stats.replaced := by
  have halone : p.drawsAlone i =
      ((s.command.stroke? (p.cursorAt i)).isSome && !(p.tracerAt i).inSegment) := by
    rw [drawsAlone, commands_getElem? h, Option.any_some, p.inSegment_tracerAt,
      s.command.isSome_stroke?]
  obtain ⟨hb, hstep, hnext⟩ | ⟨stroke, hs, hstep, hnext⟩ | ⟨hb, hs, hstep, hnext⟩ := step_cases h
  · -- The open path is finished or discarded, and a segment may be open now.
    have hopen : (p.tracerAt (i + 1)).openPaths = s.command.opensSegment.toNat := by
      rw [Tracer.openPaths, tracerAt, hnext, ← s.command.isSome_segmentStart?]
      cases s.command.segmentStart? <;> rfl
    rw [hstep, hopen, halone, s.command.isSome_stroke?, Command.draws_of_isBoundary hb,
      Tracer.openPaths, tracerAt,
      ← Outcome.length_paths_ofClosing (s.shutterOpen && s.command.keyword ≠ .mseg)]
    simp
    omega
  · -- Outside of a segment the stroke opens a path, which may replace the open one.
    have hdraw := (p.tracerAt i).openPaths_draw stroke
    rw [← hnext] at hdraw
    have hnone := Command.opensSegment_eq_false (Command.isBoundary_of_stroke? hs)
    rw [hstep, halone, hs, hnone]
    simp
    omega
  · rw [hstep, hnext, halone, hs, Command.opensSegment_eq_false hb]
    simp

end Program

theorem countP_cons_eq {α : Type} (q : α → Bool) (a : α) (l : List α) :
    (a :: l).countP q = (q a).toNat + l.countP q := by
  rw [List.countP_cons]
  cases q a <;> simp [Nat.add_comm]

namespace Outcome

/-- Every part of the outcome of a program is accounted for on its own. -/
theorem sound_ofProgram (p : Program) : (ofProgram p).Sound :=
  ofProgram_induction (motive := fun _ o => o.Sound) (sound_ofClosing ..)
    fun _ _ _ hs ho => (Program.sound_step hs).append ho

/-- Every arc of a program is drawn or left out. -/
theorem arcs_ofProgram (p : Program) :
    (ofProgram p).stats.arcs + (ofProgram p).stats.skippedArcs =
      p.commands.countP Command.isArc := by
  refine ofProgram_induction
    (motive := fun i o => o.stats.arcs + o.stats.skippedArcs =
      (p.commands.drop i).countP Command.isArc) ?_ ?_
  · simp [p.commands_drop_length]
  · intro i s o hs ih
    have hstep := Program.arcs_step hs
    rw [Program.commands_drop_eq hs, countP_cons_eq, stats_append, Stats.arcs_add,
      Stats.skippedArcs_add]
    omega

/-- Every stroke that a program draws is in a path or replaced. -/
theorem strokes_ofProgram (p : Program) :
    p.commands.countP Command.isLine + (ofProgram p).stats.arcs =
      (ofProgram p).strokes + (ofProgram p).stats.replaced := by
  have h := ofProgram_induction (p := p)
    (motive := fun i o => (p.tracerAt i).openStrokes + (p.commands.drop i).countP Command.isLine +
      o.stats.arcs = o.strokes + o.stats.replaced) ?_ ?_
  · -- Nothing is open before the first step.
    simpa [p.tracerAt_zero, Tracer.openStrokes, Tracer.initial] using h
  · -- The strokes that are open after the last step end up in the path that is closed.
    simp [p.commands_drop_length, strokes_ofClosing, Tracer.openStrokes, Program.tracerAt]
  · intro i s o hs ih
    have hstep := Program.strokes_step hs
    rw [Program.commands_drop_eq hs, countP_cons_eq, stats_append, Stats.arcs_add,
      Stats.replaced_add, strokes_append]
    omega

/-- Every path that a program opens is finished, discarded or replaced. -/
theorem openings_ofProgram (p : Program) :
    p.commands.countP Command.opensSegment +
        (List.range p.commands.length).countP p.drawsAlone =
      (ofProgram p).paths.length + (ofProgram p).stats.discarded +
        (ofProgram p).stats.replaced := by
  have h := ofProgram_induction (p := p)
    (motive := fun i o => (p.tracerAt i).openPaths +
        (p.commands.drop i).countP Command.opensSegment +
        (p.positionsFrom i).countP p.drawsAlone =
      o.paths.length + o.stats.discarded + o.stats.replaced) ?_ ?_
  · -- Nothing is open before the first step.
    rw [← p.positionsFrom_zero]
    simpa [p.tracerAt_zero, Tracer.openPaths, Tracer.initial] using h
  · -- The path that is open after the last step is finished or discarded.
    simp [p.commands_drop_length, p.positionsFrom_length, length_paths_ofClosing, Tracer.openPaths,
      Program.tracerAt]
  · intro i s o hs ih
    have hstep := Program.openings_step hs
    rw [Program.commands_drop_eq hs, Program.positionsFrom_eq hs, countP_cons_eq, countP_cons_eq,
      paths_append, List.length_append, stats_append, Stats.discarded_add, Stats.replaced_add]
    omega

end Outcome

/-- The counts of a traced program account for everything. -/
theorem accounts_trace (p : Program) : (Toolpath.trace p).Accounts p where
  printing := (Outcome.sound_ofProgram p).printing
  rapid := (Outcome.sound_ofProgram p).rapid
  shape path h := ⟨⟨path.start, rfl⟩, by simp [Path.ops, PathOp.isMove],
    by simpa [Path.isDrawn] using (Outcome.sound_ofProgram p).drawn path h⟩
  arcs := Outcome.arcs_ofProgram p
  degenerate := (Outcome.sound_ofProgram p).degenerate
  strokes := Outcome.strokes_ofProgram p
  openings := Outcome.openings_ofProgram p

end JetPlot
