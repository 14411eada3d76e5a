import JetPlot.Proofs.Toolpath.Run

/-!
# Paths are blocks

The paths of a traced program are told by its blocks alone.

* `paths_trace`: they are the candidates of the blocks, in order, without those that
  draw nothing.
-/

namespace JetPlot

/-- Whether a path draws something: it has an operation after the first move. -/
def Path.isDrawn (p : Path) : Bool := 2 ≤ p.ops.length

theorem OpenPath.isDrawn_close (o : OpenPath) (printing : Bool) :
    (o.close printing).isDrawn = !o.drawn.isEmpty := by
  rw [Path.isDrawn, Path.ops, OpenPath.close]
  cases o.drawn <;> simp

namespace Outcome

/-- Closing a path finishes it if it draws something. -/
theorem paths_ofClosing (printing : Bool) (o : Option OpenPath) :
    (ofClosing printing o).paths = (o.map (·.close printing)).toList.filter Path.isDrawn := by
  cases o with
  | none => rfl
  | some o =>
    rw [Option.map_some, Option.toList_some, List.filter_cons, o.isDrawn_close, ofClosing]
    cases o.drawn.isEmpty <;> rfl

end Outcome

@[simp] theorem Command.paths_arcOutcome (index : Nat) (cursor : Point) (c : Command) :
    (c.arcOutcome index cursor).paths = [] := by
  obtain ⟨_, _, _, _, -, h⟩ := c.arcOutcome_eq index cursor
  rw [h]

@[simp] theorem Tracer.paths_draw (t : Tracer) (s : Stroke) : (t.draw s).2.paths = [] := by
  obtain ⟨_, _, h⟩ := t.draw_eq s
  rw [h]

namespace Program

variable {p : Program} {i : Nat} {s : Step}

/-- The candidate of a block is its open path when closed. -/
theorem candidate?_eq (p : Program) (i : Nat) :
    p.candidate? i = (p.openPathAt i).map (·.close (p.printedAt i)) := by
  rw [candidate?, openPathAt]
  cases (p.boundaryBefore? i).bind Command.segmentStart? with
  | some start => simp [OpenPath.close]
  | none => cases (p.drawnBefore i).getLast? <;> simp [OpenPath.close]

theorem printedAt_eq (h : p.steps[i]? = some s) (hb : s.command.isBoundary) :
    p.printedAt i = (s.shutterOpen && s.command.keyword ≠ .mseg) := by
  rw [printedAt, h, Option.any_some]
  obtain ⟨⟨keyword, point, angle, speed, number⟩, shutterOpen⟩ := s
  cases keyword with
  | ptp | mseg | ends => cases shutterOpen <;> rfl
  | line | arc2 => cases hb

/-- A step at a boundary finishes the candidate of the block that ends there, all other
    steps finish nothing. -/
theorem paths_step (h : p.steps[i]? = some s) :
    ((p.tracerAt i).step i s).2.paths =
      if p.boundaryAt i then (p.candidate? i).toList.filter Path.isDrawn else [] := by
  rw [boundaryAt_eq (commands_getElem? h)]
  obtain ⟨hb, hstep, -⟩ | ⟨stroke, hs, hstep, -⟩ | ⟨hb, -, hstep, -⟩ := step_cases h
  · rw [hstep, hb, Outcome.paths_append, Outcome.paths_ofClosing, candidate?_eq, printedAt_eq h hb]
    rfl
  · rw [hstep, Command.isBoundary_of_stroke? hs]
    simp
  · rw [hstep, hb]
    simp

/-- Nothing ends a printed block behind the last command. -/
theorem printedAt_length (p : Program) : p.printedAt p.steps.length = false := by
  rw [printedAt, List.getElem?_eq_none (Nat.le_refl _), Option.any_none]

/-- The positions from the given one on where a block ends. -/
def blockEndsFrom (p : Program) (i : Nat) : List Nat :=
  (p.positionsFrom i).filter p.boundaryAt ++ [p.steps.length]

theorem blockEndsFrom_zero (p : Program) : p.blockEndsFrom 0 = p.blockEnds := by
  rw [blockEndsFrom, blockEnds, positionsFrom_zero, length_commands]

theorem blockEndsFrom_length (p : Program) :
    p.blockEndsFrom p.steps.length = [p.steps.length] := by
  rw [blockEndsFrom, positionsFrom_length]
  rfl

theorem blockEndsFrom_eq (h : p.steps[i]? = some s) :
    p.blockEndsFrom i =
      if p.boundaryAt i then i :: p.blockEndsFrom (i + 1) else p.blockEndsFrom (i + 1) := by
  rw [blockEndsFrom, positionsFrom_eq h, List.filter_cons, blockEndsFrom]
  cases p.boundaryAt i <;> rfl

end Program

/-- The paths of a program are the candidates of its blocks that draw something: those
    with two operations at least. -/
theorem paths_trace (p : Program) :
    (Toolpath.trace p).paths = p.candidates.filter fun path => 2 ≤ path.ops.length := by
  have h : (Outcome.ofProgram p).paths =
      ((p.blockEndsFrom 0).filterMap p.candidate?).filter Path.isDrawn := by
    refine Outcome.ofProgram_induction
      (motive := fun i o =>
        o.paths = ((p.blockEndsFrom i).filterMap p.candidate?).filter Path.isDrawn)
      ?_ ?_
    · -- The last block ends with the program.
      rw [p.blockEndsFrom_length, Outcome.paths_ofClosing, List.filterMap_cons, p.candidate?_eq,
        p.printedAt_length]
      cases p.openPathAt p.steps.length <;> rfl
    · intro i s o hs ih
      rw [Outcome.paths_append, p.paths_step hs, ih, p.blockEndsFrom_eq hs]
      -- Only a boundary adds its block to those that end later.
      cases p.boundaryAt i with
      | true =>
        rw [if_pos rfl, if_pos rfl, List.filterMap_cons]
        cases p.candidate? i with
        | none => rfl
        | some path => exact (List.filter_append [path] _).symm
      | false => rfl
  rw [p.blockEndsFrom_zero] at h
  exact h

end JetPlot
