import JetPlot.Proofs.Toolpath.Blocks
import JetPlot.Toolpath.Trace

/-!
# Runs of the tracer

There are three kinds of commands for the tracer: a boundary closes the open path,
a command that draws adds a stroke, and all others leave the tracer as it is
(`command_of_isBoundary`, `command_of_stroke?`, `command_of_idle`). It follows that
the tracer always is where the commands carried out so far say it is:

* `step_tracerAt`: a step leads from the state of its position (`Program.tracerAt`) to
  that of the next one;
* `ofProgram_induction`: what holds of closing the last path, and is kept by putting the
  step at any position in front, holds of the whole program.
-/

namespace JetPlot

/-- What an arc yields, apart from its stroke: how it is counted and reported. It has
    an angle if that is a finite one. -/
def Outcome.ofArc (index : Nat) (start target : Point) : Option Float → Outcome
  | none => ⟨[], { Stats.zero with skippedArcs := 1 }, [.arcSkipped index target start]⟩
  | some angle =>
    match Arc.ofAngle? start target angle with
    | some arc => ⟨[], { Stats.zero with arcs := 1 }, [.arcDrawn index arc.radius]⟩
    | none => ⟨[], { Stats.zero with arcs := 1, degenerate := 1 }, [.arcFlattened index angle]⟩

/-- What a command yields if it is an arc to a point. -/
def Command.arcOutcome (index : Nat) (cursor : Point) (c : Command) : Outcome :=
  match c.keyword, c.point with
  | .arc2, some target => .ofArc index cursor target (c.angle.filter Float.isFinite)
  | _, _ => .empty

/-- An arc with an angle is counted as drawn, and may be counted as a line too; any
    other arc is counted as left out. -/
theorem Outcome.ofArc_eq (index : Nat) (start target : Point) (angle : Option Float) :
    ∃ degenerate events, degenerate ≤ angle.isSome.toNat ∧
      ofArc index start target angle =
        ⟨[], ⟨0, 0, 0, 0, angle.isSome.toNat, degenerate, angle.isNone.toNat⟩, events⟩ := by
  cases angle with
  | none => exact ⟨0, _, Nat.le_refl _, rfl⟩
  | some angle =>
    rw [ofArc]
    split
    · exact ⟨0, _, Nat.zero_le _, rfl⟩
    · exact ⟨1, _, Nat.le_refl _, rfl⟩

/-- Apart from its stroke, a command finishes nothing and counts arcs only. -/
theorem Command.arcOutcome_eq (index : Nat) (cursor : Point) (c : Command) :
    ∃ arcs degenerate skipped events, degenerate ≤ arcs ∧
      c.arcOutcome index cursor = ⟨[], ⟨0, 0, 0, 0, arcs, degenerate, skipped⟩, events⟩ := by
  rw [arcOutcome]
  split
  · next target _ _ =>
    obtain ⟨degenerate, events, hle, h⟩ :=
      Outcome.ofArc_eq index cursor target (c.angle.filter Float.isFinite)
    exact ⟨_, degenerate, _, events, hle, h⟩
  · exact ⟨0, 0, 0, [], Nat.le_refl _, rfl⟩

theorem Outcome.append_empty (o : Outcome) : o ++ empty = o := by
  obtain ⟨paths, stats, events⟩ := o
  change mk (paths ++ []) stats (events ++ []) = _
  rw [List.append_nil, List.append_nil]

/-- Drawing finishes nothing, and counts at most that a path is replaced. -/
theorem Tracer.draw_eq (t : Tracer) (s : Stroke) :
    ∃ replaced events, (t.draw s).2 = ⟨[], ⟨0, 0, 0, replaced, 0, 0, 0⟩, events⟩ := by
  rw [draw]
  split
  · exact ⟨0, [], rfl⟩
  · split
    · exact ⟨0, [], rfl⟩
    · exact ⟨1, _, rfl⟩

namespace Tracer

variable {t : Tracer} {index : Nat} {shutterOpen : Bool} {c : Command}

/-- A boundary closes the open path, and opens a segment if it is the beginning of one. -/
theorem command_of_isBoundary (h : c.isBoundary) :
    t.command index shutterOpen c =
      (⟨c.landing?.getD t.cursor, c.segmentStart?.map (⟨·, [], true⟩)⟩,
        .ofClosing (shutterOpen && c.keyword ≠ .mseg) t.pending) := by
  obtain ⟨keyword, point, angle, speed, number⟩ := c
  cases keyword with
  | line | arc2 => cases h
  | mseg => cases point <;> simp [command, Command.landing?, Command.segmentStart?]
  | ends => simp [command, Command.landing?, Command.segmentStart?, Command.draws]
  | ptp => simp [command, Command.landing?, Command.segmentStart?]

/-- A command that draws draws its stroke. -/
theorem command_of_stroke? {s : Stroke} (h : c.stroke? t.cursor = some s) :
    t.command index shutterOpen c =
      ((t.draw s).1, c.arcOutcome index t.cursor ++ (t.draw s).2) := by
  rw [Command.stroke?] at h
  split at h
  · next target hk hp =>
    rw [← Option.some.inj h, command, Command.arcOutcome, hk, hp]
    simp
  · next target hk hp =>
    obtain ⟨angle, ha, rfl⟩ := Option.map_eq_some_iff.1 h
    simp only [command, Command.arcOutcome, Outcome.ofArc, hk, hp, ha, drawArc, Stroke.ofAngle]
    cases Arc.ofAngle? t.cursor target angle <;> rfl
  · cases h

/-- Any other command leaves the tracer as it is. -/
theorem command_of_idle (hb : c.isBoundary = false) (hs : c.stroke? t.cursor = none) :
    t.command index shutterOpen c = (t, c.arcOutcome index t.cursor) := by
  obtain ⟨keyword, point, angle, speed, number⟩ := c
  cases keyword with
  | ptp | mseg | ends => cases hb
  | line =>
    cases point with
    | none => rfl
    | some target => cases hs
  | arc2 =>
    cases point with
    | none => rfl
    | some target =>
      have ha : angle.filter Float.isFinite = none := Option.map_eq_none_iff.1 hs
      simp only [command, Command.arcOutcome, Outcome.ofArc, ha]

/-- What a command yields: a boundary closes the open path; any other command may be an arc
    and may have a stroke to draw. -/
theorem snd_command (t : Tracer) (index : Nat) (shutterOpen : Bool) (c : Command) :
    (t.command index shutterOpen c).2 =
      if c.isBoundary then .ofClosing (shutterOpen && c.keyword ≠ .mseg) t.pending
      else c.arcOutcome index t.cursor ++
        (c.stroke? t.cursor).elim .empty fun s => (t.draw s).2 := by
  cases hs : c.stroke? t.cursor with
  | some s =>
    rw [Command.isBoundary_of_stroke? hs, command_of_stroke? hs]
    rfl
  | none =>
    cases hb : c.isBoundary with
    | true =>
      rw [command_of_isBoundary hb]
      rfl
    | false =>
      rw [command_of_idle hb hs]
      exact (Outcome.append_empty _).symm

end Tracer

namespace Program

variable {p : Program} {i : Nat} {s : Step}

/-- The path that is open at a position: the segment begun by the last boundary
    with all strokes since then, or the last stroke outside of a segment. -/
def openPathAt (p : Program) (i : Nat) : Option OpenPath :=
  match (p.boundaryBefore? i).bind Command.segmentStart? with
  | some start => some ⟨start, ((p.drawnBefore i).map Prod.snd).reverse, true⟩
  | none => (p.drawnBefore i).getLast?.map fun d => ⟨d.1, [d.2], false⟩

/-- The state in which the tracer is at a position. -/
def tracerAt (p : Program) (i : Nat) : Tracer := ⟨p.cursorAt i, p.openPathAt i⟩

theorem tracerAt_zero (p : Program) : p.tracerAt 0 = .initial := rfl

theorem commands_getElem? (h : p.steps[i]? = some s) : p.commands[i]? = some s.command := by
  rw [commands, List.getElem?_map, h, Option.map_some]

/-- Outside of a segment an open path holds exactly one stroke. -/
theorem length_drawn_of_openPathAt {o : OpenPath} (h : p.openPathAt i = some o)
    (ho : o.segment = false) : o.drawn.length = 1 := by
  rw [openPathAt] at h
  split at h
  · rw [← Option.some.inj h] at ho
    cases ho
  · obtain ⟨d, -, rfl⟩ := Option.map_eq_some_iff.1 h
    rfl

/-- After a boundary, nothing is open but the segment that it begins. -/
theorem tracerAt_succ_of_isBoundary (h : p.steps[i]? = some s) (hb : s.command.isBoundary) :
    p.tracerAt (i + 1) =
      ⟨s.command.landing?.getD (p.cursorAt i), s.command.segmentStart?.map (⟨·, [], true⟩)⟩ := by
  have hc := commands_getElem? h
  rw [tracerAt, cursorAt_succ hc, openPathAt, boundaryBefore?_succ hc, drawnBefore_succ hc,
    if_pos hb, if_pos hb, Option.bind_some]
  -- No stroke has been drawn since the boundary.
  cases s.command.segmentStart? <;> rfl

/-- After a command that is no boundary and draws nothing, the tracer is where it was. -/
theorem tracerAt_succ_of_idle (h : p.steps[i]? = some s) (hb : s.command.isBoundary = false)
    (hs : s.command.stroke? (p.cursorAt i) = none) : p.tracerAt (i + 1) = p.tracerAt i := by
  have hc := commands_getElem? h
  have hcursor : p.cursorAt (i + 1) = p.cursorAt i := by
    rw [cursorAt_succ hc, Command.landing?_of_idle hb hs, Option.getD_none]
  have hdrawn : p.drawnBefore (i + 1) = p.drawnBefore i := by
    rw [drawnBefore_succ hc, hb, hs]
    exact List.append_nil _
  rw [tracerAt, hcursor, openPathAt, boundaryBefore?_succ hc, hdrawn, hb]
  rfl

/-- After a stroke, the tracer is where drawing it leads. -/
theorem tracerAt_succ_of_stroke? (h : p.steps[i]? = some s) {stroke : Stroke}
    (hs : s.command.stroke? (p.cursorAt i) = some stroke) :
    p.tracerAt (i + 1) = ((p.tracerAt i).draw stroke).1 := by
  have hc := commands_getElem? h
  have hb := Command.isBoundary_of_stroke? hs
  have hdrawn : p.drawnBefore (i + 1) = p.drawnBefore i ++ [(p.cursorAt i, stroke)] := by
    rw [drawnBefore_succ hc, hb, hs]
    rfl
  have hcursor : p.cursorAt (i + 1) = stroke.target := by
    rw [cursorAt_succ hc, Command.landing?_of_stroke? hs, Option.getD_some]
  rw [tracerAt, hcursor, openPathAt, boundaryBefore?_succ hc, hdrawn, hb,
    if_neg Bool.false_ne_true, tracerAt, openPathAt]
  -- In a segment the stroke is added, otherwise it is the only one.
  cases (p.boundaryBefore? i).bind Command.segmentStart? with
  | some start => simp [Tracer.draw]
  | none => cases (p.drawnBefore i).getLast? <;> simp [Tracer.draw]

/-- What the step at a position does: it closes the open path at a boundary, draws a
    stroke, or leaves the tracer as it is. -/
theorem step_cases (h : p.steps[i]? = some s) :
    (s.command.isBoundary = true ∧
      (p.tracerAt i).step i s =
        (p.tracerAt (i + 1), .event (.step i s) ++
          .ofClosing (s.shutterOpen && s.command.keyword ≠ .mseg) (p.openPathAt i)) ∧
      p.openPathAt (i + 1) = s.command.segmentStart?.map (⟨·, [], true⟩)) ∨
    (∃ stroke, s.command.stroke? (p.cursorAt i) = some stroke ∧
      (p.tracerAt i).step i s =
        (p.tracerAt (i + 1), .event (.step i s) ++
          (s.command.arcOutcome i (p.cursorAt i) ++ ((p.tracerAt i).draw stroke).2)) ∧
      p.tracerAt (i + 1) = ((p.tracerAt i).draw stroke).1) ∨
    (s.command.isBoundary = false ∧ s.command.stroke? (p.cursorAt i) = none ∧
      (p.tracerAt i).step i s =
        (p.tracerAt (i + 1), .event (.step i s) ++ s.command.arcOutcome i (p.cursorAt i)) ∧
      p.tracerAt (i + 1) = p.tracerAt i) := by
  cases hs : s.command.stroke? (p.tracerAt i).cursor with
  | some stroke =>
    have hnext := tracerAt_succ_of_stroke? h hs
    refine .inr (.inl ⟨stroke, hs, Prod.ext ?_ ?_, hnext⟩)
    · rw [Tracer.fst_step, Tracer.command_of_stroke? hs, hnext]
    · rw [Tracer.snd_step, Tracer.command_of_stroke? hs]
      rfl
  | none =>
    cases hb : s.command.isBoundary with
    | true =>
      have hnext := tracerAt_succ_of_isBoundary h hb
      refine .inl ⟨rfl, Prod.ext ?_ ?_, congrArg Tracer.pending hnext⟩
      · rw [Tracer.fst_step, Tracer.command_of_isBoundary hb, hnext]
        rfl
      · rw [Tracer.snd_step, Tracer.command_of_isBoundary hb]
        rfl
    | false =>
      have hnext := tracerAt_succ_of_idle h hb hs
      refine .inr (.inr ⟨rfl, hs, Prod.ext ?_ ?_, hnext⟩)
      · rw [Tracer.fst_step, Tracer.command_of_idle hb hs, hnext]
      · rw [Tracer.snd_step, Tracer.command_of_idle hb hs]
        rfl

/-- A step leads from the state of its position to that of the next one. -/
theorem step_tracerAt (h : p.steps[i]? = some s) :
    ((p.tracerAt i).step i s).1 = p.tracerAt (i + 1) := by
  obtain ⟨-, hstep, -⟩ | ⟨_, -, hstep, -⟩ | ⟨-, -, hstep, -⟩ := step_cases h <;> rw [hstep]

/-! ## From a position on -/

@[simp] theorem length_commands (p : Program) : p.commands.length = p.steps.length :=
  List.length_map _

/-- The positions from the given one on. -/
def positionsFrom (p : Program) (i : Nat) : List Nat := List.range' i (p.steps.length - i)

theorem positionsFrom_zero (p : Program) : p.positionsFrom 0 = List.range p.commands.length := by
  rw [positionsFrom, length_commands, Nat.sub_zero, List.range_eq_range']

theorem positionsFrom_length (p : Program) : p.positionsFrom p.steps.length = [] := by
  rw [positionsFrom, Nat.sub_self]
  rfl

theorem positionsFrom_eq (h : p.steps[i]? = some s) :
    p.positionsFrom i = i :: p.positionsFrom (i + 1) := by
  have hi : i < p.steps.length := (List.getElem?_eq_some_iff.1 h).1
  rw [positionsFrom, show p.steps.length - i = p.steps.length - (i + 1) + 1 by omega,
    List.range'_succ, positionsFrom]

theorem commands_drop_length (p : Program) : p.commands.drop p.steps.length = [] := by
  rw [← p.length_commands, List.drop_length]

theorem commands_drop_eq (h : p.steps[i]? = some s) :
    p.commands.drop i = s.command :: p.commands.drop (i + 1) := by
  have hc := commands_getElem? h
  rw [List.drop_eq_getElem_cons (List.getElem?_eq_some_iff.1 hc).1,
    (List.getElem?_eq_some_iff.1 hc).2]

end Program

namespace Outcome

/-- What holds of closing the last path, and is kept by putting the step at any
    position in front, holds of the whole program. -/
theorem ofProgram_induction {p : Program} {motive : Nat → Outcome → Prop}
    (closing : motive p.steps.length (.ofClosing false (p.openPathAt p.steps.length)))
    (step : ∀ i s o, p.steps[i]? = some s → motive (i + 1) o →
      motive i (((p.tracerAt i).step i s).2 ++ o)) :
    motive 0 (.ofProgram p) := by
  -- By induction on the steps from a position on: the tracer is at that position.
  have h : ∀ rest i, p.steps.drop i = rest → i + rest.length = p.steps.length →
      motive i (.ofSteps (p.tracerAt i) i rest) := by
    intro rest
    induction rest with
    | nil =>
      intro i _ hlen
      rw [show i = p.steps.length from hlen]
      exact closing
    | cons s rest ih =>
      intro i hi hlen
      have hs : p.steps[i]? = some s := by rw [← List.head?_drop, hi, List.head?_cons]
      have hrest : p.steps.drop (i + 1) = rest := by rw [← List.tail_drop, hi, List.tail_cons]
      rw [ofSteps_cons, Program.step_tracerAt hs]
      exact step i s _ hs (ih (i + 1) hrest (by rw [← hlen, List.length_cons]; omega))
  exact h p.steps 0 rfl (Nat.zero_add _)

end Outcome

end JetPlot
