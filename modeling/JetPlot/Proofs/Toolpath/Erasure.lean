import JetPlot.Proofs.Toolpath.Splitting

/-!
# Erasing before and after tracing

What effect a part of a program has on the drawing shows when it is erased. An `Erasure`
takes something from every step, or the whole step, and the effect of that from a toolpath.
If it does so for one step at a time, and never changes where the tracer gets, then it comes
to the same for a whole program to erase before it is traced or after.

* `Erasure.trace_erase`: erasing commutes with tracing.

So two programs of which the same is left have toolpaths of which the same is left. Most of
all, what the tracer never reads may be erased without any effect (`Erasure.unread`).

* `Toolpath.trace_eq_of_traced`: programs that read alike for the tracer have the same
  toolpath.
-/

namespace JetPlot

namespace Tracer

variable (t : Tracer) (i j : Nat) (s : Step)

theorem toolpath_snd_step :
    (t.step i s).2.toolpath = (t.command i s.shutterOpen s.command).2.toolpath := by
  rw [snd_step, Outcome.toolpath_event_append]

/-- A command is drawn and counted alike under every index. -/
theorem command_index :
    (t.command i s.shutterOpen s.command).1 = (t.command j s.shutterOpen s.command).1 ∧
      (t.command i s.shutterOpen s.command).2.toolpath =
        (t.command j s.shutterOpen s.command).2.toolpath := by
  rw [← fst_step, ← fst_step, ← toolpath_snd_step, ← toolpath_snd_step]
  exact t.step_index i j s

end Tracer

/-! ## Erasures -/

/-- A way to take something from the steps of a program, and its effect from toolpaths. -/
structure Erasure where
  /-- What is left of a step, if anything is. -/
  step : Step → Option Step
  /-- What is left of a toolpath. -/
  toolpath : Toolpath → Toolpath
  /-- What is left of a toolpath is what is left of its parts. -/
  toolpath_append : ∀ t u, toolpath (t ++ u) = toolpath t ++ toolpath u
  /-- Nothing is taken from what the end of a program closes. -/
  toolpath_closing : ∀ o, toolpath (Outcome.ofClosing false o).toolpath =
    (Outcome.ofClosing false o).toolpath
  /-- What is left of a step leads to the same state, and draws what is left of the drawing
      of the step. -/
  kept : ∀ {s s'}, step s = some s' → ∀ (t : Tracer) i,
    (t.command i s'.shutterOpen s'.command).1 = (t.command i s.shutterOpen s.command).1 ∧
      (t.command i s'.shutterOpen s'.command).2.toolpath =
        toolpath (t.command i s.shutterOpen s.command).2.toolpath
  /-- A step of which nothing is left leaves the state as it is, and nothing is left of its
      drawing. -/
  dropped : ∀ {s}, step s = none → ∀ (t : Tracer) i,
    (t.command i s.shutterOpen s.command).1 = t ∧
      toolpath (t.command i s.shutterOpen s.command).2.toolpath = Outcome.empty.toolpath

/-- A program is traced by its steps alone. -/
theorem Toolpath.trace_eq_of_steps {p q : Program} (h : p.steps = q.steps) :
    trace p = trace q := by
  rw [trace, trace, Outcome.ofProgram, Outcome.ofProgram, h]

namespace Erasure

variable (e : Erasure)

/-- What is left of a program. -/
def program (p : Program) : Program := { p with steps := p.steps.filterMap e.step }

/-- Erasing before a run comes to the same as erasing after it. The indices of the steps may
    differ, since steps may be gone. -/
theorem toolpath_ofSteps (t : Tracer) (i j : Nat) (steps : List Step) :
    (Outcome.ofSteps t i (steps.filterMap e.step)).toolpath =
      e.toolpath (Outcome.ofSteps t j steps).toolpath := by
  induction steps generalizing t i j with
  | nil => exact (e.toolpath_closing t.pending).symm
  | cons s rest ih =>
    rw [Outcome.ofSteps_cons, Outcome.toolpath_append, e.toolpath_append, Tracer.fst_step,
      Tracer.toolpath_snd_step]
    cases hs : e.step s with
    | none =>
      -- The run without the step goes on from the state in which it is.
      obtain ⟨hstate, hdrawn⟩ := e.dropped hs t j
      rw [List.filterMap_cons_none hs, hstate, hdrawn, Outcome.toolpath_empty_append]
      exact ih t i (j + 1)
    | some s' =>
      obtain ⟨hstate, hdrawn⟩ := e.kept hs t j
      obtain ⟨hstate', hdrawn'⟩ := t.command_index i j s'
      rw [List.filterMap_cons_some hs, Outcome.ofSteps_cons, Outcome.toolpath_append,
        Tracer.fst_step, Tracer.toolpath_snd_step, hstate', hdrawn', hstate, hdrawn, ih]

/-- Erasing before a program is traced comes to the same as erasing after it. -/
theorem trace_erase (p : Program) :
    Toolpath.trace (e.program p) = e.toolpath (Toolpath.trace p) :=
  e.toolpath_ofSteps .initial 0 0 p.steps

end Erasure

/-! ## What is never read -/

/-- What can be told from a view of the elements is the same for lists that look alike in that
    view. -/
theorem map_eq_of_view {α β γ : Type} {xs ys : List α} {f : α → γ} (view : α → β) (tell : β → γ)
    (htell : ∀ x, tell (view x) = f x) (h : xs.map view = ys.map view) : xs.map f = ys.map f := by
  have hview : ∀ zs : List α, zs.map f = (zs.map view).map tell := by
    intro zs
    rw [List.map_map]
    exact List.map_congr_left fun x _ => (htell x).symm
  rw [hview, hview, h]

namespace Command

/-- Whether a command closes the open path as a printed one if the shutter is open. -/
def readsShutter (c : Command) : Bool := c.keyword = .ends || c.keyword = .ptp

/-- What can be seen of a command in a picture: not its speed or the number of its line, nor
    its angle unless it is an arc. -/
def drawn (c : Command) : Command :=
  ⟨c.keyword, c.point, if c.keyword = .arc2 then c.angle else none, none, 0⟩

/-- What the tracer reads of a command: what can be seen of it, without the point of a
    segment's end. -/
def traced (c : Command) : Command :=
  { c.drawn with point := if c.keyword = .ends then none else c.point }

theorem traced_drawn (c : Command) : c.drawn.traced = c.traced := by
  obtain ⟨keyword, point, angle, speed, number⟩ := c
  cases keyword <;> rfl

end Command

/-- What the tracer reads of a step: the shutter counts only where a path may be printed. -/
def Step.traced (s : Step) : Step :=
  ⟨s.command.traced, s.shutterOpen && s.command.readsShutter⟩

/-- The tracer does the same for what it reads of a step. -/
theorem Tracer.command_traced (t : Tracer) (i : Nat) (s : Step) :
    t.command i s.traced.shutterOpen s.traced.command =
      t.command i s.shutterOpen s.command := by
  obtain ⟨⟨keyword, point, angle, speed, number⟩, shutterOpen⟩ := s
  cases keyword with
  | ends => cases shutterOpen <;> rfl
  | ptp => cases shutterOpen <;> rfl
  | mseg => cases point <;> rfl
  | line => cases point <;> rfl
  | arc2 => cases point <;> rfl

/-- Erases what the tracer does not read. -/
def Erasure.unread : Erasure where
  step s := some s.traced
  toolpath t := t
  toolpath_append _ _ := rfl
  toolpath_closing _ := rfl
  kept h t i := by
    obtain rfl := Option.some.inj h
    rw [Tracer.command_traced]
    exact ⟨rfl, rfl⟩
  dropped h := nomatch h

/-- Programs that read alike for the tracer have the same toolpath. -/
theorem Toolpath.trace_eq_of_traced {p q : Program}
    (h : p.steps.map Step.traced = q.steps.map Step.traced) : trace p = trace q := by
  have hunread : ∀ r : Program, (Erasure.unread.program r).steps = r.steps.map Step.traced :=
    fun r => congrFun List.filterMap_eq_map r.steps
  calc trace p = trace (Erasure.unread.program p) := (Erasure.unread.trace_erase p).symm
    _ = trace (Erasure.unread.program q) := trace_eq_of_steps (by rw [hunread, hunread, h])
    _ = trace q := Erasure.unread.trace_erase q

end JetPlot
