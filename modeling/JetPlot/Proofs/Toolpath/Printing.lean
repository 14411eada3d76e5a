import JetPlot.Proofs.Toolpath.Erasure
import JetPlot.Proofs.Toolpath.Segmentation

/-!
# Paths without their colour

The shutter tells printed paths from rapid ones, and nothing else: it neither adds a path
nor takes one away, and it has no say in where paths run. With the shutter closed
throughout, a program draws the same paths, all of them rapid (`Erasure.printing`).

* `trace_shutter`: programs with the same commands draw paths with the same operations,
  whatever their shutter does. If it does the same wherever a path may be printed, their
  toolpaths are the same.
-/

namespace JetPlot

/-- The path as a rapid one. -/
def Path.unprinted (p : Path) : Path := { p with printing := false }

/-- The counts if all paths are rapid. -/
def Stats.unprinted (s : Stats) : Stats :=
  { s with printing := 0, rapid := s.printing + s.rapid }

/-- The toolpath with all paths as rapid ones. -/
def Toolpath.unprinted (t : Toolpath) : Toolpath := ⟨t.paths.map Path.unprinted, t.stats.unprinted⟩

/-- The step with the shutter closed. -/
def Step.unprinted (s : Step) : Step := { s with shutterOpen := false }

theorem Stats.unprinted_add (s t : Stats) : (s + t).unprinted = s.unprinted + t.unprinted := by
  ext <;> simp [unprinted, Nat.add_add_add_comm]

theorem Toolpath.unprinted_append (t u : Toolpath) :
    (t ++ u).unprinted = t.unprinted ++ u.unprinted := by
  change mk ((t.paths ++ u.paths).map Path.unprinted) (t.stats + u.stats).unprinted = _
  rw [List.map_append, Stats.unprinted_add]
  rfl

namespace Outcome

/-- Apart from colour, a path is closed alike with the shutter open and closed. -/
theorem unprinted_ofClosing (printing : Bool) (o : Option OpenPath) :
    (ofClosing printing o).toolpath.unprinted = (ofClosing false o).toolpath := by
  obtain _ | ⟨start, _ | ⟨stroke, drawn⟩, segment⟩ := o
  · rfl
  · rfl
  · cases printing <;> rfl

/-- Nothing is printed by what finishes no path and counts none as printed. -/
theorem unprinted_of_nil {o : Outcome} (hpaths : o.paths = []) (hprinting : o.stats.printing = 0) :
    o.toolpath.unprinted = o.toolpath := by
  obtain ⟨paths, stats, events⟩ := o
  obtain rfl : paths = [] := hpaths
  obtain ⟨printing, rapid, _⟩ := stats
  obtain rfl : printing = 0 := hprinting
  rw [Toolpath.unprinted, toolpath, Stats.unprinted, Nat.zero_add]
  rfl

end Outcome

namespace Tracer

variable (t : Tracer) (i : Nat) (shutterOpen : Bool) (c : Command)

/-- The shutter has no effect on where a command leads. -/
theorem fst_command_closed : (t.command i false c).1 = (t.command i shutterOpen c).1 := by
  obtain ⟨keyword, point, angle, speed, number⟩ := c
  cases keyword with
  | ends | ptp => rfl
  | mseg | line | arc2 => cases point <;> rfl

/-- Apart from colour, a command is drawn and counted as with the shutter closed. -/
theorem unprinted_command :
    (t.command i false c).2.toolpath = (t.command i shutterOpen c).2.toolpath.unprinted := by
  rw [snd_command, snd_command]
  split
  · rw [Bool.false_and, Outcome.unprinted_ofClosing]
  · obtain ⟨_, _, _, _, -, harc⟩ := c.arcOutcome_eq i t.cursor
    rw [harc]
    cases c.stroke? t.cursor with
    | none => exact (Outcome.unprinted_of_nil rfl rfl).symm
    | some s =>
      obtain ⟨_, _, hdraw⟩ := t.draw_eq s
      rw [Option.elim_some, hdraw]
      exact (Outcome.unprinted_of_nil rfl rfl).symm

end Tracer

/-- Erases the state of the shutter, and hence which paths are printed. -/
def Erasure.printing : Erasure where
  step s := some s.unprinted
  toolpath := Toolpath.unprinted
  toolpath_append := Toolpath.unprinted_append
  toolpath_closing := Outcome.unprinted_ofClosing false
  kept h t i := by
    obtain rfl := Option.some.inj h
    exact ⟨t.fst_command_closed i _ _, t.unprinted_command i _ _⟩
  dropped h := nomatch h

namespace Program

variable {p q : Program}

/-- Without the shutter, the steps are told by the commands. -/
theorem steps_erase_printing (p : Program) :
    (Erasure.printing.program p).steps = p.commands.map fun c => ⟨c, false⟩ := by
  rw [commands, List.map_map]
  exact congrFun List.filterMap_eq_map p.steps

/-- The tracer reads alike two programs with the same commands if the states of the shutter
    agree wherever they are read. -/
theorem map_traced_of_flags (h : p.commands = q.commands)
    (hflags : ∀ (i : Nat) (c : Command), p.commands[i]? = some c →
      c.keyword = .ends ∨ c.keyword = .ptp → p.flags[i]? = q.flags[i]?) :
    p.steps.map Step.traced = q.steps.map Step.traced := by
  refine List.ext_getElem? fun i => ?_
  have hi : p.commands[i]? = q.commands[i]? := by rw [h]
  have hflag := hflags i
  simp only [commands, flags, List.getElem?_map] at hi hflag ⊢
  cases hs : p.steps[i]? with
  | none =>
    rw [hs] at hi
    rw [Option.map_eq_none_iff.1 hi.symm]
  | some s =>
    rw [hs] at hi hflag
    obtain ⟨s', hs', hcommand⟩ := Option.map_eq_some_iff.1 hi.symm
    rw [hs'] at hflag ⊢
    have hread : (s.shutterOpen && s.command.readsShutter) =
        (s'.shutterOpen && s.command.readsShutter) := by
      by_cases hk : s.command.keyword = .ends ∨ s.command.keyword = .ptp
      · rw [Option.some.inj (hflag s.command rfl hk)]
      · simp [Command.readsShutter, not_or.1 hk]
    rw [Option.map_some, Option.map_some, Step.traced, Step.traced, hcommand, hread]

end Program

/-- The shutter colours paths but never shapes them: for the same commands, the paths are as
    many and have the same operations in order, and only the counts of printed and of rapid
    paths may differ, but not their sum. If the states of the shutter agree at every `ENDS`
    and `PTP`, there is no difference at all. -/
theorem trace_shutter {p q : Program} (h : p.commands = q.commands) :
    let t := Toolpath.trace p
    let u := Toolpath.trace q
    t.paths.length = u.paths.length ∧
      t.paths.map Path.ops = u.paths.map Path.ops ∧
      t.stats.printing + t.stats.rapid = u.stats.printing + u.stats.rapid ∧
      { t.stats with printing := 0, rapid := 0 } = { u.stats with printing := 0, rapid := 0 } ∧
      ((∀ (i : Nat) (c : Command), p.commands[i]? = some c →
          c.keyword = .ends ∨ c.keyword = .ptp → p.flags[i]? = q.flags[i]?) → t = u) := by
  intro t u
  have herase : t.unprinted = u.unprinted := by
    calc t.unprinted = Toolpath.trace (Erasure.printing.program p) :=
          (Erasure.printing.trace_erase p).symm
      _ = Toolpath.trace (Erasure.printing.program q) := Toolpath.trace_eq_of_steps
          (by rw [p.steps_erase_printing, q.steps_erase_printing, h])
      _ = u.unprinted := Erasure.printing.trace_erase q
  have hpaths : t.paths.map Path.unprinted = u.paths.map Path.unprinted :=
    congrArg Toolpath.paths herase
  have hstats : t.stats.unprinted = u.stats.unprinted := congrArg Toolpath.stats herase
  refine ⟨?_, ?_, congrArg Stats.rapid hstats, ?_, fun hflags => ?_⟩
  · rw [← List.length_map Path.unprinted, hpaths, List.length_map]
  · -- The operations of a path do not depend on its colour.
    exact map_eq_of_view Path.unprinted Path.ops (fun _ => rfl) hpaths
  · exact congrArg (fun s : Stats => { s with rapid := 0 }) hstats
  · exact Toolpath.trace_eq_of_traced (Program.map_traced_of_flags h hflags)

/-- In a program of two segments, the shutter at the end of the first one decides on the
    colour of its path, and the shutter at a line decides on nothing. -/
theorem trace_shutter_segments :
    let program (atLine atEnd : Bool) : Program :=
      ⟨[⟨⟨.mseg, some ⟨0, 0⟩, none, none, 1⟩, true⟩, ⟨⟨.line, some ⟨1, 0⟩, none, none, 2⟩, atLine⟩,
        ⟨⟨.ends, none, none, none, 3⟩, atEnd⟩, ⟨⟨.line, some ⟨2, 0⟩, none, none, 4⟩, true⟩], []⟩
    (Toolpath.trace (program true true)).paths ≠ (Toolpath.trace (program true false)).paths ∧
      (Toolpath.trace (program true true)).paths.map Path.ops =
        (Toolpath.trace (program true false)).paths.map Path.ops ∧
      Toolpath.trace (program true true) = Toolpath.trace (program false true) := by
  intro program
  refine ⟨by decide, (trace_shutter rfl).2.1, (trace_shutter rfl).2.2.2.2 fun i c hc hk => ?_⟩
  -- The shutter differs at the line only, which is neither `ENDS` nor `PTP`.
  rcases i with _ | _ | i
  · rfl
  · obtain rfl := Option.some.inj hc
    exact absurd hk (by decide)
  · rfl

end JetPlot
