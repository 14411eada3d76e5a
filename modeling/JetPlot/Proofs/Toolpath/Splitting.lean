import JetPlot.Toolpath.Trace

/-!
# Programs that start over

Some steps make a program start over (`Step.startsOver`): they close the open path as a
rapid one, as the end of a program does, and what follows depends neither on where the
cursor was nor on what was open. What a program draws splits there.

* `ofSteps_append`: the outcome of a run up to such a step and from it on;
* `trace_append`: the toolpath of a program, in two parts.

The indices of the steps are shifted between the two parts. They are reported, but
neither drawn nor counted (`toolpath_ofSteps_index`).
-/

namespace JetPlot

/-- Whether a step starts over: it begins a segment, or jumps to a point with the
    shutter closed. -/
def Step.startsOver (s : Step) : Bool :=
  s.command.point.isSome &&
    (s.command.keyword = .mseg || (s.command.keyword = .ptp && !s.shutterOpen))

/-- One toolpath followed by another one. -/
def Toolpath.append (t u : Toolpath) : Toolpath := ⟨t.paths ++ u.paths, t.stats + u.stats⟩

instance : Append Toolpath := ⟨Toolpath.append⟩

theorem Stats.add_assoc (s t u : Stats) : s + t + u = s + (t + u) := by
  ext <;> exact Nat.add_assoc ..

theorem Toolpath.append_assoc (t u v : Toolpath) : t ++ u ++ v = t ++ (u ++ v) := by
  change mk (t.paths ++ u.paths ++ v.paths) (t.stats + u.stats + v.stats) = _
  rw [List.append_assoc, Stats.add_assoc]
  rfl

namespace Outcome

/-- What an outcome draws and counts, without what there is to report. -/
def toolpath (o : Outcome) : Toolpath := ⟨o.paths, o.stats⟩

theorem toolpath_append (o p : Outcome) : (o ++ p).toolpath = o.toolpath ++ p.toolpath := rfl

theorem toolpath_event_append (e : TraceEvent) (o : Outcome) :
    (event e ++ o).toolpath = o.toolpath :=
  congrArg (Toolpath.mk o.paths) (Stats.zero_add o.stats)

theorem toolpath_empty_append (t : Toolpath) : empty.toolpath ++ t = t :=
  congrArg (Toolpath.mk t.paths) (Stats.zero_add t.stats)

end Outcome

namespace Tracer

variable (t : Tracer) (i j : Nat)

/-! ## Indices -/

/-- An arc is drawn and counted alike under every index. -/
theorem drawArc_index (target : Point) (angle : Float) :
    (t.drawArc i target angle).1 = (t.drawArc j target angle).1 ∧
      (t.drawArc i target angle).2.toolpath = (t.drawArc j target angle).2.toolpath := by
  rw [drawArc, drawArc]
  cases Arc.ofAngle? t.cursor target angle <;> exact ⟨rfl, rfl⟩

/-- A step is drawn and counted alike under every index. -/
theorem step_index (s : Step) :
    (t.step i s).1 = (t.step j s).1 ∧ (t.step i s).2.toolpath = (t.step j s).2.toolpath := by
  rw [fst_step, fst_step, snd_step, snd_step, Outcome.toolpath_event_append,
    Outcome.toolpath_event_append]
  obtain ⟨⟨keyword, point, angle, speed, number⟩, shutterOpen⟩ := s
  cases keyword with
  | mseg | line => cases point <;> exact ⟨rfl, rfl⟩
  | ends | ptp => exact ⟨rfl, rfl⟩
  | arc2 =>
    cases point with
    | none => exact ⟨rfl, rfl⟩
    | some target =>
      simp only [command]
      cases angle.filter Float.isFinite with
      | none => exact ⟨rfl, rfl⟩
      | some angle => exact t.drawArc_index i j target angle

end Tracer

namespace Outcome

/-- A run draws and counts the same from every index on. -/
theorem toolpath_ofSteps_index (t : Tracer) (i j : Nat) (steps : List Step) :
    (ofSteps t i steps).toolpath = (ofSteps t j steps).toolpath := by
  induction steps generalizing t i j with
  | nil => rfl
  | cons s rest ih =>
    obtain ⟨hnext, hstep⟩ := t.step_index i j s
    rw [ofSteps_cons, ofSteps_cons, toolpath_append, toolpath_append, hstep, hnext, ih]

/-! ## Splitting a run -/

/-- A step that starts over closes the open path as a rapid one, and leads to the same
    state from everywhere. -/
theorem step_of_startsOver {m : Step} (hm : m.startsOver) (t u : Tracer) (i : Nat) :
    (t.step i m).1 = (u.step i m).1 ∧
      (t.step i m).2.toolpath = (ofClosing false t.pending).toolpath := by
  rw [Tracer.fst_step, Tracer.fst_step, Tracer.snd_step, toolpath_event_append]
  obtain ⟨⟨keyword, point, angle, speed, number⟩, shutterOpen⟩ := m
  cases point with
  | none => cases hm
  | some target =>
    cases keyword with
    | mseg => exact ⟨rfl, rfl⟩
    | ptp =>
      cases shutterOpen with
      | true => cases hm
      | false => exact ⟨rfl, rfl⟩
    | line | arc2 | ends => cases hm

/-- A run that comes to a step that starts over is drawn up to there as if it ended,
    and from there on as if it began, provided that nothing is open at the beginning. -/
theorem ofSteps_append {m : Step} (hm : m.startsOver) {u : Tracer} (hu : u.pending = none)
    (t : Tracer) (i j : Nat) (before after : List Step) :
    (ofSteps t i (before ++ m :: after)).toolpath =
      (ofSteps t i before).toolpath ++ (ofSteps u j (m :: after)).toolpath := by
  induction before generalizing t i with
  | nil =>
    obtain ⟨hnext, hclose⟩ := step_of_startsOver hm t u i
    obtain ⟨-, hnone⟩ := step_of_startsOver hm u u i
    -- Nothing is open in `u`, so that the step closes nothing there.
    rw [hu, ofClosing] at hnone
    rw [toolpath_ofSteps_index u j i, List.nil_append, ofSteps_cons, ofSteps_cons, toolpath_append,
      toolpath_append, hclose, hnone, hnext, toolpath_empty_append]
    rfl
  | cons s rest ih =>
    rw [List.cons_append, ofSteps_cons, ofSteps_cons, toolpath_append, toolpath_append, ih,
      Toolpath.append_assoc]

end Outcome

/-- A program that comes to a step that starts over draws what it draws up to there, and
    then what it draws from there on; all counts add up. Skipped lines do not matter. -/
theorem trace_append (before after : List Step) {m : Step} (hm : m.startsOver)
    (skipped skippedBefore skippedAfter : List SkippedLine) :
    let whole := Toolpath.trace ⟨before ++ m :: after, skipped⟩
    let first := Toolpath.trace ⟨before, skippedBefore⟩
    let second := Toolpath.trace ⟨m :: after, skippedAfter⟩
    whole.paths = first.paths ++ second.paths ∧ whole.stats = first.stats + second.stats := by
  intro whole first second
  have h : whole = first ++ second :=
    Outcome.ofSteps_append hm (u := .initial) rfl .initial 0 0 before after
  exact ⟨congrArg Toolpath.paths h, congrArg Toolpath.stats h⟩

/-- A jump with the shutter closed splits a program whose first path is still open. -/
theorem trace_append_jump :
    let line : Step := ⟨⟨.line, some ⟨1, 0⟩, none, none, 1⟩, true⟩
    let jump : Step := ⟨⟨.ptp, some ⟨5, 5⟩, none, none, 2⟩, false⟩
    let arc : Step := ⟨⟨.arc2, some ⟨6, 5⟩, some 1, none, 3⟩, true⟩
    jump.startsOver ∧
      (Toolpath.trace ⟨[line] ++ jump :: [arc], []⟩).paths =
        (Toolpath.trace ⟨[line], []⟩).paths ++ (Toolpath.trace ⟨[jump, arc], []⟩).paths ∧
      (Toolpath.trace ⟨[line] ++ jump :: [arc], []⟩).stats =
        (Toolpath.trace ⟨[line], []⟩).stats + (Toolpath.trace ⟨[jump, arc], []⟩).stats :=
  ⟨rfl, trace_append _ _ rfl _ _ _⟩

end JetPlot
