import Mathlib.Data.List.Forall2
import JetPlot.Proofs.Log.Markers
import JetPlot.Proofs.Reading.Fates
import JetPlot.Proofs.Toolpath.Run
import JetPlot.Proofs.Viewport.Hull

/-!
# Logs and results

What is logged can be relied on: it agrees with what comes out.

* Every line that is not blank has one record when a text is read (`numbers_events_ofLines`).
* Every command has one record when a program is traced, in order, and there are as many records
  about paths and arcs as are finished, replaced and counted. Each step adds as much to the log as
  to the result (`Outcome.Reported`, `reported_command`), so that the whole run does
  (`reported_ofSteps`).
* The fitting of a viewport warns if it falls back although there are points to fit
  (`warnings_fittingLog`).

`log_agrees` puts the three together, on the level of the records as they are written.
-/

namespace JetPlot

/-! ## Reading -/

/-- The lines that are not blank, with their numbers, are the ones that are reported. -/
theorem Reading.numbers_events_ofLines (shutterOpen : Bool) (first : Nat)
    (lines : List (List Char)) :
    (ofLines shutterOpen first lines).events.map ReadingEvent.number =
      Text.numbersWhere (fun raw => !(Text.trim raw).isEmpty) first lines := by
  induction lines generalizing shutterOpen first with
  | nil => rfl
  | cons raw rest ih =>
    have hline : (ofLine shutterOpen first (Text.trim raw)
        (Line.classify (Text.trim raw))).events.map ReadingEvent.number =
          if !(Text.trim raw).isEmpty then [first] else [] := by
      rw [Line.isEmpty_eq_decide]
      cases Line.classify (Text.trim raw) with
      | blank | skip | shutter => rfl
      | motion keyword =>
        rw [ofLine]
        cases command? first keyword (Text.trim raw) <;> rfl
    rw [ofLines_cons, events_append, List.map_append, ih, hline, Text.numbersWhere_cons,
      Text.numbersWhere_singleton]

/-- Whether a record is about the line with the given number. -/
def Log.Record.TellsLine (r : Record) (number : Nat) : Prop :=
  r.level = .trace ∧ r.source = .reader ∧ s!"Line {number}: ".toList <+: r.message.toList

theorem ReadingEvent.tellsLine_record (e : ReadingEvent) : e.record.TellsLine e.number := by
  have hline (number : Nat) {mark : String} (h : ": ".toList <+: mark.toList) :
      s!"Line {number}: ".toList <+: ("Line " ++ toString number ++ mark).toList := by
    simp only [String.toList_append]
    exact (List.prefix_append_right_inj _).2 h
  have hmore {start line : String} (h : start.toList <+: line.toList) (rest : String) :
      start.toList <+: (line ++ rest).toList := by
    rw [String.toList_append]
    exact h.trans (List.prefix_append _ _)
  refine ⟨rfl, rfl, ?_⟩
  cases e with
  | skipped number reason =>
    have hmark : ": ".toList <+: ": skipped (".toList := by decide
    exact hmore (hmore (hline number hmark) _) _
  | shutter number opens =>
    have hmark : ": ".toList <+: ": shutter ".toList := by decide
    exact hmore (hline number hmark) _
  | command number c => exact hmore (hline number (List.prefix_refl _)) _
  | pointMissing number keyword => exact hmore (hmore (hline number (List.prefix_refl _)) _) _

theorem Program.traces_readingLog (text : String) :
    List.Forall₂ Log.Record.TellsLine ((readingLog text).filter (·.level = .trace))
      (Text.numbersWhere (fun raw => !(Text.trim raw).isEmpty) 1 (Text.lines text.toList)) := by
  have htraces : (readingLog text).filter (·.level = .trace) =
      (Reading.ofText text).events.map ReadingEvent.record := by
    have hevents : ((Reading.ofText text).events.map ReadingEvent.record).filter
        (·.level = .trace) = (Reading.ofText text).events.map ReadingEvent.record :=
      List.filter_eq_self.2 <| List.forall_mem_map.2 fun _ _ => rfl
    simp only [readingLog]
    rw [List.filter_append, List.filter_append, hevents]
    exact List.append_nil _
  have hnumbers : (Reading.ofText text).events.map ReadingEvent.number = _ :=
    Reading.numbers_events_ofLines false 1 (Text.lines text.toList)
  rw [htraces, ← hnumbers, List.forall₂_map_left_iff, List.forall₂_map_right_iff, List.forall₂_same]
  exact fun e _ => e.tellsLine_record

/-! ## Tracing -/

namespace Outcome

/-- What the events of an outcome say: the steps that are carried out, its paths and its counts. -/
structure Reported (steps : List (Step × Nat)) (o : Outcome) : Prop where
  commands : o.events.filter (·.topic? = some .command) = steps.map fun s => .step s.2 s.1
  replaced : o.events.countP (·.topic? = some .replaced) = o.stats.replaced
  finished : List.Forall₂
    (fun e path => ∃ segment, e = .finished segment path.ops.length path.printing)
    (o.events.filter (·.topic? = some .finished)) o.paths
  flattened : o.events.countP (·.topic? = some .flattened) = o.stats.degenerate
  drawn : o.events.countP (·.topic? = some .drawn) + o.stats.degenerate = o.stats.arcs
  skipped : o.events.countP (·.level = .warn) = o.stats.skippedArcs

variable {o o' : Outcome} {steps steps' : List (Step × Nat)}

theorem Reported.append (h : o.Reported steps) (h' : o'.Reported steps') :
    (o ++ o').Reported (steps ++ steps') where
  commands := by rw [events_append, List.filter_append, h.commands, h'.commands, List.map_append]
  replaced := by simp [h.replaced, h'.replaced]
  finished := by
    rw [events_append, List.filter_append, paths_append]
    exact List.rel_append h.finished h'.finished
  flattened := by simp [h.flattened, h'.flattened]
  drawn := by
    simp only [events_append, List.countP_append, stats_append, Stats.degenerate_add,
      Stats.arcs_add]
    have := h.drawn
    have := h'.drawn
    omega
  skipped := by simp [h.skipped, h'.skipped]

theorem reported_empty : empty.Reported [] := ⟨rfl, rfl, .nil, rfl, rfl, rfl⟩

theorem reported_step (index : Nat) (s : Step) : (event (.step index s)).Reported [(s, index)] :=
  ⟨rfl, rfl, .nil, rfl, rfl, rfl⟩

theorem reported_ofClosing (printing : Bool) (o : Option OpenPath) :
    (ofClosing printing o).Reported [] := by
  obtain _ | ⟨start, _ | ⟨stroke, drawn⟩, segment⟩ := o
  · exact reported_empty
  · exact ⟨rfl, rfl, .nil, rfl, rfl, rfl⟩
  · have hsize : (OpenPath.close ⟨start, stroke :: drawn, segment⟩ printing).ops.length =
        drawn.length + 2 := by simp [OpenPath.close, Path.ops]
    cases printing <;> exact ⟨rfl, rfl, .cons ⟨segment, by rw [hsize]; rfl⟩ .nil, rfl, rfl, rfl⟩

theorem reported_arcOutcome (index : Nat) (cursor : Point) (c : Command) :
    (c.arcOutcome index cursor).Reported [] := by
  rw [Command.arcOutcome]
  split
  · cases c.angle.filter Float.isFinite with
    | none => exact ⟨rfl, rfl, .nil, rfl, rfl, rfl⟩
    | some angle =>
      rw [ofArc]
      split <;> exact ⟨rfl, rfl, .nil, rfl, rfl, rfl⟩
  · exact reported_empty

theorem reported_draw (t : Tracer) (s : Stroke) : (t.draw s).2.Reported [] := by
  rw [Tracer.draw]
  split
  · exact reported_empty
  · split
    · exact reported_empty
    · exact ⟨rfl, rfl, .nil, rfl, rfl, rfl⟩

/-- A command is reported with all that comes of it. -/
theorem reported_command (t : Tracer) (index : Nat) (shutterOpen : Bool) (c : Command) :
    (t.command index shutterOpen c).2.Reported [] := by
  rw [Tracer.snd_command]
  split
  · exact reported_ofClosing _ _
  · have hdraw : ((c.stroke? t.cursor).elim empty fun s => (t.draw s).2).Reported [] := by
      cases c.stroke? t.cursor with
      | none => exact reported_empty
      | some stroke => exact reported_draw t stroke
    exact (reported_arcOutcome index t.cursor c).append hdraw

/-- A run is reported step by step. -/
theorem reported_ofSteps (t : Tracer) (index : Nat) (steps : List Step) :
    (ofSteps t index steps).Reported (steps.zipIdx index) := by
  induction steps generalizing t index with
  | nil => exact reported_ofClosing false t.pending
  | cons s rest ih =>
    have hstep : (t.step index s).2.Reported [(s, index)] :=
      (reported_step index s).append (reported_command t index s.shutterOpen s.command)
    exact hstep.append (ih _ _)

end Outcome

/-- What the log of a trace says about the program and its toolpath. -/
structure Toolpath.Logged (p : Program) (t : Toolpath) (log : List Log.Record) : Prop where
  /-- Every command has a record, in the order in which they are carried out. -/
  commands : log.filter (·.mentions "Cmd[") = (p.steps.zipIdx 0).map fun s =>
    ⟨.trace, .toolpath, s!"Cmd[{s.2}]: {s.1.command.text} shutter={s.1.shutterOpen}"⟩
  /-- Every path that is replaced has a record. -/
  replaced : log.countP (·.mentions "Dropping") = t.stats.replaced
  /-- Every path has a record, in order, which tells whether it is printed. -/
  paths : List.Forall₂
    (fun r path => r.level = .trace ∧ ∃ kind ∈ ["explicit", "implicit"],
      r.message = "Finalize " ++ kind ++ s!" path with {path.ops.length} ops as " ++
        if path.printing then "printing" else "rapid")
    (log.filter (·.mentions "Finalize")) t.paths
  /-- Every arc that is left out has a warning, and nothing else has one. -/
  warnings : log.countP (·.level = .warn) = t.stats.skippedArcs
  /-- Every arc that is drawn as a line has a record. -/
  degenerate : log.countP (·.mentions "undefined radius") = t.stats.degenerate
  /-- Every other arc that is drawn has a record. -/
  arcs : log.countP (·.mentions "radius=") + t.stats.degenerate = t.stats.arcs

theorem Toolpath.logged_trace (p : Program) :
    (Toolpath.trace p).Logged p (Toolpath.tracingLog p) := by
  have hreported : (Outcome.ofProgram p).Reported (p.steps.zipIdx 0) :=
    Outcome.reported_ofSteps .initial 0 p.steps
  have hcount (k : Topic) : (Toolpath.tracingLog p).countP (·.mentions k.marker) =
      (Outcome.ofProgram p).events.countP (·.topic? = some k) := by
    rw [List.countP_eq_length_filter, k.filter_tracingLog, List.length_map,
      List.countP_eq_length_filter]
  refine ⟨?_, ?_, ?_, ?_, ?_, ?_⟩
  · refine (Topic.command.filter_tracingLog p).trans ?_
    rw [hreported.commands, List.map_map]
    exact List.map_congr_left fun s _ => rfl
  · exact (hcount .replaced).trans hreported.replaced
  · have hfilter := Topic.finished.filter_tracingLog p
    rw [Topic.marker] at hfilter
    rw [hfilter, List.forall₂_map_left_iff]
    refine hreported.finished.imp ?_
    rintro _ path ⟨segment, rfl⟩
    refine ⟨rfl, if segment then "explicit" else "implicit", ?_, rfl⟩
    cases segment <;> decide
  · -- The counts at the end are no warning.
    refine Eq.trans ?_ hreported.skipped
    simp only [Toolpath.tracingLog]
    rw [List.countP_append, List.countP_map]
    rfl
  · exact (hcount .flattened).trans hreported.flattened
  · exact (congrArg (· + _) (hcount .drawn)).trans hreported.drawn

/-! ## Fitting -/

/-- The extents of some points are those of a box if there is a finite point among them. -/
theorem Bounds.valid_ofPoints_iff (ps : List Point) :
    (ofPoints ps).valid ↔ ∃ q ∈ ps, q.isFinite := by
  rcases ofPoints_cases ps with ⟨hnone, hempty⟩ | hhull
  · rw [hempty]
    refine ⟨fun hvalid => absurd hvalid (by decide), fun ⟨q, hq, hfinite⟩ => ?_⟩
    exact absurd hfinite (hnone q hq)
  · obtain ⟨q, hq, hfinite, -⟩ := hhull.minX.1
    exact ⟨fun _ => ⟨q, hq, hfinite⟩, fun _ => hhull.valid⟩

namespace Viewport

/-- The padded box around all finite points of a program. -/
def paddedBox (p : Program) (padding : Float) : Box := (Bounds.ofPoints p.points).box.padded padding

/-- Whether there are points to fit, but no finite box around them. -/
def Overflows (p : Program) (padding : Float) : Prop :=
  (∃ q ∈ p.points, q.isFinite) ∧
    ¬ ((paddedBox p padding).width.isFinite ∧ (paddedBox p padding).height.isFinite)

instance (p : Program) (padding : Float) : Decidable (Overflows p padding) :=
  inferInstanceAs (Decidable (_ ∧ _))

theorem overflows_iff (p : Program) (padding : Float) :
    (Bounds.ofPoints p.points).overflows padding ↔ Overflows p padding := by
  rw [Bounds.overflows, Overflows, Bool.and_eq_true, Bounds.valid_ofPoints_iff, Bounds.tooLarge,
    ← Bool.and_eq_true, Bool.not_eq_true', ← Bool.not_eq_true]
  rfl

/-- What the log of the fitting of a viewport says about the viewport. -/
structure Logged (p : Program) (padding : Float) (v : Viewport) (log : List Log.Record) :
    Prop where
  /-- There is a warning if there are points to fit, but no finite box around them, and none
      otherwise. -/
  warnings : log.countP (·.level = .warn) = if Overflows p padding then 1 else 0
  /-- The fixed box takes the place of one that is not finite, or if there is nothing to fit. -/
  bounds : v.bounds = if (∃ q ∈ p.points, q.isFinite) ∧ ¬ Overflows p padding
    then paddedBox p padding else Bounds.fallback

theorem logged_fit (p : Program) (padding : Float) :
    (fit p padding).Logged p padding (fittingLog p padding) where
  warnings := by
    simp only [fittingLog, Bounds.fittingLog, overflows_iff]
    split <;> rfl
  bounds := by
    have hfit : ((Bounds.ofPoints p.points).valid &&
        !(Bounds.ofPoints p.points).overflows padding) ↔
          (∃ q ∈ p.points, q.isFinite) ∧ ¬ Overflows p padding := by
      rw [Bool.and_eq_true, Bounds.valid_ofPoints_iff, Bool.not_eq_true', ← Bool.not_eq_true,
        overflows_iff]
    simp only [fit, Bounds.fit, hfit]
    rfl

end Viewport

/-- Logs agree with results. Reading a text logs one trace record for every line that is not blank,
    in order. Tracing a program logs one record for every command, in order, and as many records
    about paths and arcs as there are paths, replaced ones, arcs left out, arcs drawn as lines and
    other arcs; those about paths come in their order and tell the printed ones. Fitting a viewport
    logs a warning if and only if there are points to fit, but the fixed box is taken because that
    around them is not finite when padded. -/
theorem log_agrees (text : String) (p : Program) (padding : Float) :
    List.Forall₂ Log.Record.TellsLine ((Program.readingLog text).filter (·.level = .trace))
      (Text.numbersWhere (fun raw => !(Text.trim raw).isEmpty) 1 (Text.lines text.toList)) ∧
    (Toolpath.trace p).Logged p (Toolpath.tracingLog p) ∧
    (Viewport.fit p padding).Logged p padding (Viewport.fittingLog p padding) :=
  ⟨Program.traces_readingLog text, Toolpath.logged_trace p, Viewport.logged_fit p padding⟩

end JetPlot
