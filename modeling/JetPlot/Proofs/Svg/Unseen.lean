import JetPlot.Proofs.Toolpath.Accounts
import JetPlot.Proofs.Toolpath.Erasure
import JetPlot.Svg

/-!
# What is never seen

Much of a program never shows in a picture: speeds, numbers of lines, the angle of a command
that is no arc (`Command.drawn`). The point where a segment ends is not drawn either, but
the viewport is fitted to it (`Command.traced`). An arc without a finite angle might as well
not be there; only the count of such arcs tells (`Erasure.skippedArcs`).

* `Svg.render_eq_of_drawn`: the picture shows what can be seen of the commands, and where the
  shutter is open;
* `trace_drawn`: what is left of a program, as long as its drawing stays the same.
-/

namespace JetPlot

/-! ## Commands -/

namespace Program

variable {p q : Program}

theorem map_traced_eq (p : Program) :
    p.steps.map Step.traced = List.zipWith (fun c b => ⟨c, b && c.readsShutter⟩)
      (p.commands.map Command.traced) p.flags := by
  rw [commands, flags, List.map_map, List.zipWith_map, List.zipWith_self]
  rfl

/-- The tracer reads alike two programs in which it reads the commands alike. -/
theorem map_traced_of_commands (hflags : p.flags = q.flags)
    (h : p.commands.map Command.traced = q.commands.map Command.traced) :
    p.steps.map Step.traced = q.steps.map Step.traced := by
  rw [map_traced_eq, map_traced_eq, h, hflags]

theorem map_traced_of_drawn (h : p.commands.map Command.drawn = q.commands.map Command.drawn) :
    p.commands.map Command.traced = q.commands.map Command.traced :=
  map_eq_of_view Command.drawn Command.traced Command.traced_drawn h

/-- Programs whose commands look alike mention the same points. -/
theorem points_of_drawn (h : p.commands.map Command.drawn = q.commands.map Command.drawn) :
    p.points = q.points := by
  have hpoints : ∀ r : Program,
      r.points = (r.commands.map Command.drawn).filterMap Command.point := by
    intro r
    rw [commands, List.map_map, List.filterMap_map]
    rfl
  rw [hpoints, hpoints, h]

end Program

theorem Toolpath.trace_eq_of_drawn {p q : Program} (hflags : p.flags = q.flags)
    (h : p.commands.map Command.drawn = q.commands.map Command.drawn) : trace p = trace q :=
  trace_eq_of_traced (Program.map_traced_of_commands hflags (Program.map_traced_of_drawn h))

/-- Programs whose commands look alike have the same picture. -/
theorem Svg.render_eq_of_drawn {p q : Program} (hflags : p.flags = q.flags)
    (h : p.commands.map Command.drawn = q.commands.map Command.drawn) (o : Options) :
    render p o = render q o := by
  rw [render, render, Toolpath.trace_eq_of_drawn hflags h, Viewport.fit,
    Program.points_of_drawn h]
  rfl

/-! ## Arcs without an angle -/

/-- Whether a command is an arc without a finite angle. -/
def Command.lacksAngle (c : Command) : Bool :=
  c.keyword = .arc2 && (c.angle.filter Float.isFinite).isNone

/-- The toolpath without the count of arcs that are left out. -/
def Toolpath.withoutSkippedArcs (t : Toolpath) : Toolpath :=
  { t with stats := { t.stats with skippedArcs := 0 } }

theorem Toolpath.withoutSkippedArcs_of_zero {t : Toolpath} (h : t.stats.skippedArcs = 0) :
    t.withoutSkippedArcs = t := by
  rw [withoutSkippedArcs, ← h]

/-- An arc is left out only for want of a finite angle. -/
theorem Command.skippedArcs_arcOutcome {c : Command} (h : c.lacksAngle = false) (i : Nat)
    (cursor : Point) : (c.arcOutcome i cursor).stats.skippedArcs = 0 := by
  rw [arcOutcome]
  split
  · next target hk hp =>
    obtain ⟨_, _, -, harc⟩ := Outcome.ofArc_eq i cursor target (c.angle.filter Float.isFinite)
    rw [lacksAngle, hk] at h
    rw [harc]
    exact congrArg Bool.toNat h
  · rfl

namespace Tracer

variable (t : Tracer) (i : Nat) (shutterOpen : Bool) {c : Command}

theorem skippedArcs_command (h : c.lacksAngle = false) :
    (t.command i shutterOpen c).2.stats.skippedArcs = 0 := by
  rw [snd_command]
  split
  · exact (Outcome.arcs_ofClosing ..).2.1
  · rw [Outcome.stats_append, Stats.skippedArcs_add, Command.skippedArcs_arcOutcome h]
    cases c.stroke? t.cursor with
    | none => rfl
    | some s => rw [Option.elim_some, (t.arcs_draw s).2.1]

theorem command_of_lacksAngle (h : c.lacksAngle) :
    (t.command i shutterOpen c).1 = t ∧
      (t.command i shutterOpen c).2.toolpath.withoutSkippedArcs = Outcome.empty.toolpath := by
  obtain ⟨keyword, point, angle, speed, number⟩ := c
  obtain ⟨hk, hangle⟩ := Bool.and_eq_true_iff.1 h
  obtain rfl : keyword = .arc2 := of_decide_eq_true hk
  cases point with
  | none => exact ⟨rfl, rfl⟩
  | some target =>
    -- The arc is counted and leaves the tracer where it is.
    have hskip : t.command i shutterOpen ⟨.arc2, some target, angle, speed, number⟩ =
        (t, ⟨[], { Stats.zero with skippedArcs := 1 }, [.arcSkipped i target t.cursor]⟩) := by
      simp only [command, Option.isNone_iff_eq_none.1 hangle]
    rw [hskip]
    exact ⟨rfl, rfl⟩

end Tracer

/-- Erases arcs without a finite angle, and hence their count. -/
def Erasure.skippedArcs : Erasure where
  step := Option.guard fun s => !s.command.lacksAngle
  toolpath := Toolpath.withoutSkippedArcs
  toolpath_append _ _ := rfl
  toolpath_closing o := Toolpath.withoutSkippedArcs_of_zero (Outcome.arcs_ofClosing false o).2.1
  kept h t i := by
    obtain ⟨rfl, hangle⟩ := Option.guard_eq_some_iff.1 h
    rw [Bool.not_eq_true'] at hangle
    exact ⟨rfl, (Toolpath.withoutSkippedArcs_of_zero (t.skippedArcs_command i _ hangle)).symm⟩
  dropped h t i := by
    have hangle := Option.guard_eq_none_iff.1 h
    rw [Bool.not_eq_false'] at hangle
    exact t.command_of_lacksAngle i _ hangle

/-- What is left of a program, as long as its drawing stays the same. Speeds, numbers of
    lines and angles of commands that are no arcs may change without any effect. The points
    of `ENDS` may change, or be gone, with no effect but on the viewport. Without the arcs
    that have no finite angle, all paths and counts are the same but the count of these arcs,
    which is zero. -/
theorem trace_drawn (p : Program) :
    (∀ q : Program, q.flags = p.flags →
      q.commands.map Command.drawn = p.commands.map Command.drawn →
      Toolpath.trace q = Toolpath.trace p ∧ ∀ o, Svg.render q o = Svg.render p o) ∧
    (∀ q : Program, q.flags = p.flags →
      q.commands.map Command.traced = p.commands.map Command.traced →
      Toolpath.trace q = Toolpath.trace p ∧
        ∀ o, Svg.render q o = Svg.document (Toolpath.trace p) (Viewport.fit q o.padding) o) ∧
    Toolpath.trace { p with steps := p.steps.filter fun s => !s.command.lacksAngle } =
      ⟨(Toolpath.trace p).paths, { (Toolpath.trace p).stats with skippedArcs := 0 }⟩ := by
  refine ⟨fun q hflags hdrawn => ?_, fun q hflags htraced => ?_, ?_⟩
  · exact ⟨Toolpath.trace_eq_of_drawn hflags hdrawn, Svg.render_eq_of_drawn hflags hdrawn⟩
  · have htrace : Toolpath.trace q = Toolpath.trace p :=
      Toolpath.trace_eq_of_traced (Program.map_traced_of_commands hflags htraced)
    refine ⟨htrace, fun o => ?_⟩
    rw [Svg.render, htrace]
  · have hsteps : (Erasure.skippedArcs.program p).steps =
        p.steps.filter fun s => !s.command.lacksAngle :=
      congrFun List.filterMap_eq_filter p.steps
    calc Toolpath.trace { p with steps := p.steps.filter fun s => !s.command.lacksAngle } =
          Toolpath.trace (Erasure.skippedArcs.program p) :=
          Toolpath.trace_eq_of_steps hsteps.symm
      _ = (Toolpath.trace p).withoutSkippedArcs := Erasure.skippedArcs.trace_erase p

/-- The speed of a segment and the number of its line do not show; where it ends is not drawn,
    but moves the edge of the picture; and the arc in it, which has no angle, only counts. -/
theorem trace_drawn_segment :
    let program (speed : Option Float) (number : Nat) (last : Option Point) : Program :=
      ⟨[⟨⟨.mseg, some ⟨0, 0⟩, none, speed, number⟩, true⟩,
        ⟨⟨.arc2, some ⟨2, 0⟩, none, none, 2⟩, true⟩, ⟨⟨.line, some ⟨1, 1⟩, none, none, 3⟩, true⟩,
        ⟨⟨.ends, last, none, none, 4⟩, true⟩], []⟩
    let p := program none 1 none
    Svg.render (program (some 25) 7 none) .default = Svg.render p .default ∧
      Toolpath.trace (program none 1 (some ⟨9, 9⟩)) = Toolpath.trace p ∧
      Viewport.fit (program none 1 (some ⟨9, 9⟩)) 1 ≠ Viewport.fit p 1 ∧
      (Toolpath.trace p).stats.skippedArcs = 1 ∧
      Toolpath.trace { p with steps := p.steps.filter fun s => !s.command.lacksAngle } =
        ⟨(Toolpath.trace p).paths, { (Toolpath.trace p).stats with skippedArcs := 0 }⟩ := by
  intro program p
  obtain ⟨hdrawn, htraced, harcs⟩ := trace_drawn p
  exact ⟨(hdrawn (program (some 25) 7 none) rfl rfl).2 .default,
    (htraced (program none 1 (some ⟨9, 9⟩)) rfl rfl).1, by decide +kernel, by decide, harcs⟩

end JetPlot
