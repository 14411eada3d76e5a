import JetPlot.Proofs.Toolpath.Segmentation

/-!
# The points of paths

A path ends its strokes at points that commands name. It begins at such a point, too,
unless it is the single stroke of a command before which nothing moved the cursor: that
stroke is drawn from the origin.

* `exists_candidate_of_mem_paths`: every path is the candidate of a block;
* `mem_points_of_candidate?`: the points of a candidate.
-/

namespace JetPlot

/-- The radius of an arc from an angle is finite. -/
theorem Arc.isFinite_radius_of_ofAngle? {start target : Point} {angle : Float} {arc : Arc}
    (h : ofAngle? start target angle = some arc) : arc.radius.isFinite := by
  simp only [ofAngle?] at h
  split at h
  · cases h
  · split at h
    · next hradius =>
      rw [← Option.some.inj h]
      exact hradius
    · cases h

/-- An arc that is drawn has a finite radius. -/
theorem Command.isFinite_radius_of_stroke? {c : Command} {cursor : Point} {arc : Arc}
    (h : c.stroke? cursor = some (.arc arc)) : arc.radius.isFinite := by
  rw [stroke?] at h
  split at h
  · cases h
  · next target _ _ =>
    obtain ⟨angle, -, hstroke⟩ := Option.map_eq_some_iff.1 h
    rw [Stroke.ofAngle] at hstroke
    cases harc : Arc.ofAngle? cursor target angle with
    | none => rw [harc] at hstroke; cases hstroke
    | some a =>
      rw [harc] at hstroke
      cases hstroke
      exact Arc.isFinite_radius_of_ofAngle? harc
  · cases h

namespace Program

variable {p : Program} {i : Nat} {s : Stroke} {path : Path}

/-- Whether no command before a position moves the cursor. -/
def Unmoved (p : Program) (i : Nat) : Prop := ∀ c ∈ p.commands.take i, c.landing? = none

theorem mem_points {c : Command} {q : Point} (hc : c ∈ p.commands) (hq : c.point = some q) :
    q ∈ p.points := by
  obtain ⟨step, hstep, rfl⟩ := List.mem_map.1 hc
  exact List.mem_filterMap.2 ⟨step, hstep, hq⟩

theorem mem_points_of_landing? {c : Command} {q : Point} (hc : c ∈ p.commands)
    (hq : c.landing? = some q) : q ∈ p.points := by
  rw [Command.landing?] at hq
  split at hq
  · exact mem_points hc hq
  · cases hq

/-- The cursor is at a point of the program, or at the origin if nothing moved it yet. -/
theorem cursorAt_mem_points (p : Program) (i : Nat) :
    p.cursorAt i ∈ p.points ∨ p.cursorAt i = .origin ∧ p.Unmoved i := by
  rw [cursorAt]
  cases h : (p.commands.take i).reverse.findSome? Command.landing? with
  | none =>
    refine .inr ⟨rfl, fun c hc => ?_⟩
    exact List.findSome?_eq_none_iff.1 h c (List.mem_reverse.2 hc)
  | some q =>
    obtain ⟨c, hc, hq⟩ := List.exists_of_findSome?_eq_some h
    exact .inl (mem_points_of_landing? (List.mem_of_mem_take (List.mem_reverse.1 hc)) hq)

/-- A stroke ends at a point of the program. -/
theorem target_mem_points (h : p.strokeAt? i = some s) : s.target ∈ p.points := by
  obtain ⟨c, hc, hs⟩ := Option.bind_eq_some_iff.1 h
  exact mem_points_of_landing? (List.mem_of_getElem? hc) (Command.landing?_of_stroke? hs)

theorem isFinite_radius_of_strokeAt? {arc : Arc} (h : p.strokeAt? i = some (.arc arc)) :
    arc.radius.isFinite := by
  obtain ⟨c, -, hs⟩ := Option.bind_eq_some_iff.1 h
  exact Command.isFinite_radius_of_stroke? hs

theorem exists_strokeAt?_of_mem_drawnBefore {d : Point × Stroke} (h : d ∈ p.drawnBefore i) :
    ∃ j, p.strokeAt? j = some d.2 ∧ d.1 = p.cursorAt j := by
  obtain ⟨j, -, hj⟩ := List.mem_filterMap.1 h
  obtain ⟨s, hs, rfl⟩ := Option.map_eq_some_iff.1 hj
  exact ⟨j, hs, rfl⟩

/-- All strokes of a candidate are drawn by commands, and it begins at a point of the
    program, or at the origin with one stroke before which nothing moved the cursor. -/
theorem mem_points_of_candidate? (h : p.candidate? i = some path) :
    (∀ s ∈ path.strokes, ∃ j, p.strokeAt? j = some s) ∧
      (path.start ∈ p.points ∨
        path.start = .origin ∧
          ∃ j s, path.strokes = [s] ∧ p.strokeAt? j = some s ∧ p.Unmoved j) := by
  rw [candidate?] at h
  split at h
  · next start hstart =>
    obtain rfl := Option.some.inj h
    obtain ⟨c, hc, hsegment⟩ := Option.bind_eq_some_iff.1 hstart
    refine ⟨fun s hs => ?_, .inl ?_⟩
    · obtain ⟨d, hd, rfl⟩ := List.mem_map.1 hs
      obtain ⟨j, hj, -⟩ := exists_strokeAt?_of_mem_drawnBefore hd
      exact ⟨j, hj⟩
    · -- The segment begins where its command says.
      have hmem := List.mem_of_mem_take (List.mem_reverse.1 (List.mem_of_find?_eq_some hc))
      rw [Command.segmentStart?] at hsegment
      split at hsegment
      · exact mem_points hmem hsegment
      · cases hsegment
  · obtain ⟨d, hd, rfl⟩ := Option.map_eq_some_iff.1 h
    obtain ⟨j, hj, hcursor⟩ := exists_strokeAt?_of_mem_drawnBefore (List.mem_of_getLast? hd)
    refine ⟨fun s hs => ⟨j, List.mem_singleton.1 hs ▸ hj⟩, ?_⟩
    rw [hcursor]
    rcases p.cursorAt_mem_points j with hmem | ⟨horigin, hunmoved⟩
    · exact .inl hmem
    · exact .inr ⟨horigin, j, d.2, rfl, hj, hunmoved⟩

/-- Every path is the candidate of a block. -/
theorem exists_candidate_of_mem_paths (h : path ∈ (Toolpath.trace p).paths) :
    ∃ i, p.candidate? i = some path := by
  refine Outcome.ofProgram_induction
    (motive := fun _ o => ∀ path ∈ o.paths, ∃ i, p.candidate? i = some path) ?_ ?_ path h
  · intro path hpath
    rw [Outcome.paths_ofClosing] at hpath
    have hmap := Option.mem_toList.1 (List.mem_filter.1 hpath).1
    exact ⟨p.steps.length, by rw [candidate?_eq, printedAt_length, hmap]⟩
  · intro i s o hs ih path hpath
    rw [Outcome.paths_append, List.mem_append, paths_step hs] at hpath
    rcases hpath with hpath | hpath
    · split at hpath
      · exact ⟨i, Option.mem_toList.1 (List.mem_filter.1 hpath).1⟩
      · cases hpath
    · exact ih path hpath

end Program

end JetPlot
