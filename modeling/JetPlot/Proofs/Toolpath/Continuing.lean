import JetPlot.Proofs.Toolpath.Run
import JetPlot.Proofs.Toolpath.Splitting

/-!
# Programs that go on

A program that ends closes the path that is still open, as a rapid one. If it went on instead,
that path might grow, be printed, or give way to another one. Everything else stays as it is.

* `Tracer.run`: carrying out some steps, without the end of the program;
* `Outcome.ofSteps_append_run`: a run carries out the first steps, and the others from where those
  lead to;
* `trace_continues`: the toolpath of a program that goes on, next to that of its first steps.
-/

namespace JetPlot

/-- Whether a toolpath keeps what another one has, up to the last path of that one, which may
    become another path or none, and what is counted for closing it. -/
structure Toolpath.Continues (whole first : Toolpath) : Prop where
  paths : first.paths.dropLast <+: whole.paths
  printing : first.stats.printing ≤ whole.stats.printing
  replaced : first.stats.replaced ≤ whole.stats.replaced
  arcs : first.stats.arcs ≤ whole.stats.arcs
  degenerate : first.stats.degenerate ≤ whole.stats.degenerate
  skippedArcs : first.stats.skippedArcs ≤ whole.stats.skippedArcs
  /-- One path may have been closed that stays open when the program goes on. -/
  closed : first.stats.rapid + first.stats.discarded ≤ whole.stats.rapid + whole.stats.discarded + 1

/-- Where some steps lead the tracer, and what they yield. -/
def Tracer.run (t : Tracer) (index : Nat) : List Step → Tracer × Outcome
  | [] => (t, .empty)
  | s :: rest =>
    let (t, outcome) := t.step index s
    let (t, later) := t.run (index + 1) rest
    (t, outcome ++ later)

namespace Outcome

theorem append_assoc (o p q : Outcome) : o ++ p ++ q = o ++ (p ++ q) := by
  change mk (o.paths ++ p.paths ++ q.paths) (o.stats + p.stats + q.stats)
    (o.events ++ p.events ++ q.events) = _
  rw [List.append_assoc, Stats.add_assoc, List.append_assoc]
  rfl

/-- A run carries out the first steps, and the others from where those lead to. -/
theorem ofSteps_append_run (t : Tracer) (index : Nat) (before after : List Step) :
    ofSteps t index (before ++ after) =
      (t.run index before).2 ++ ofSteps (t.run index before).1 (index + before.length) after := by
  induction before generalizing t index with
  | nil => exact (empty_append _).symm
  | cons s rest ih =>
    rw [List.cons_append, ofSteps_cons, ih, ← append_assoc, List.length_cons, ← Nat.add_assoc,
      Nat.add_right_comm index]
    rfl

/-- A program that ends closes the path that its steps have left open. -/
theorem ofSteps_eq_run (t : Tracer) (index : Nat) (steps : List Step) :
    ofSteps t index steps =
      (t.run index steps).2 ++ ofClosing false (t.run index steps).1.pending := by
  have h := ofSteps_append_run t index steps []
  rwa [List.append_nil] at h

/-- Closing a path as a rapid one finishes or discards one path at most, and counts just that. -/
theorem ofClosing_false_eq (o : Option OpenPath) :
    ∃ rapid discarded, rapid + discarded ≤ 1 ∧ (ofClosing false o).paths.length ≤ 1 ∧
      (ofClosing false o).stats = ⟨0, rapid, discarded, 0, 0, 0, 0⟩ := by
  cases o with
  | none => exact ⟨0, 0, Nat.zero_le _, Nat.zero_le _, rfl⟩
  | some o =>
    rw [ofClosing]
    cases o.drawn.isEmpty with
    | true => exact ⟨0, 1, Nat.le_refl _, Nat.zero_le _, rfl⟩
    | false => exact ⟨1, 0, Nat.le_refl _, Nat.le_refl _, rfl⟩

/-- What follows some steps only adds to what they yield, unlike the end of the program. -/
theorem continues_append (first closing later : Outcome) {rapid discarded : Nat}
    (hclosed : rapid + discarded ≤ 1) (hpaths : closing.paths.length ≤ 1)
    (hstats : closing.stats = ⟨0, rapid, discarded, 0, 0, 0, 0⟩) :
    (first ++ later).toolpath.Continues (first ++ closing).toolpath := by
  have hfirst :
      (first ++ closing).toolpath.stats = first.stats + ⟨0, rapid, discarded, 0, 0, 0, 0⟩ :=
    congrArg (first.stats + ·) hstats
  have hwhole : (first ++ later).toolpath.stats = first.stats + later.stats := rfl
  constructor
  case paths =>
    change (first.paths ++ closing.paths).dropLast <+: first.paths ++ later.paths
    have hprefix := List.prefix_append first.paths later.paths
    match closing.paths, hpaths with
    | [], _ =>
      rw [List.append_nil]
      exact (List.dropLast_prefix _).trans hprefix
    | [path], _ =>
      rw [List.dropLast_concat]
      exact hprefix
  case closed =>
    rw [hfirst, hwhole]
    simp only [Stats.rapid_add, Stats.discarded_add]
    omega
  -- The end of the program counts nothing else.
  all_goals
    rw [hfirst, hwhole]
    exact Nat.le_add_right _ _

end Outcome

/-- A program that goes on keeps all paths but the last one, and the counts of everything that has
    happened; only the path that was open may still be closed in another way. -/
theorem trace_continues (before after : List Step) (skippedBefore skipped : List SkippedLine) :
    (Toolpath.trace ⟨before ++ after, skipped⟩).Continues
      (Toolpath.trace ⟨before, skippedBefore⟩) := by
  obtain ⟨rapid, discarded, hclosed, hpaths, hstats⟩ :=
    Outcome.ofClosing_false_eq (Tracer.run .initial 0 before).1.pending
  have h := Outcome.continues_append (Tracer.run .initial 0 before).2 _
    (Outcome.ofSteps (Tracer.run .initial 0 before).1 (0 + before.length) after)
    hclosed hpaths hstats
  rwa [← Outcome.ofSteps_append_run, ← Outcome.ofSteps_eq_run] at h

/-- The last path is a rapid one if the program ends there, and a printed one if a segment ends in
    front of the next step. -/
example :
    let line : Step := ⟨⟨.line, some ⟨2, 1⟩, none, none, 1⟩, true⟩
    let ends : Step := ⟨⟨.ends, none, none, none, 2⟩, true⟩
    (Toolpath.trace ⟨[line], []⟩).paths.map (·.printing) = [false] ∧
      (Toolpath.trace ⟨[line] ++ [ends], []⟩).paths.map (·.printing) = [true] := by
  decide +kernel

end JetPlot
