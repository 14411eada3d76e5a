import JetPlot.Proofs.Toolpath.Points
import JetPlot.Proofs.Viewport.Hull

/-!
# What is drawn is shown

The viewport is fitted to the points of the commands, the paths come from the tracer. They
agree on what a program draws but for one point: before any command has moved it, the cursor
is at the origin, which no command need mention.

* `contains_of_mem_ops`: all operations end in the box, unless the very first stroke is drawn
  from the origin;
* `not_contains_origin`: such a stroke may begin outside of the box.
-/

namespace JetPlot

/-- If the box fits at all, it contains all points of a program without infinities. -/
theorem contains_of_mem_points {p : Program} {padding : Float}
    (hpoints : ∀ q ∈ p.points, q.isFinite) (hfinite : padding.isFinite) (hpadding : 0 ≤ padding)
    (hfit : ¬ (Bounds.ofPoints p.points).overflows padding) {q : Point} (hq : q ∈ p.points) :
    (Viewport.fit p padding).bounds.contains q := by
  rcases Bounds.ofPoints_cases p.points with ⟨hnone, -⟩ | hhull
  · exact absurd (hpoints q hq) (hnone q hq)
  · rw [Bounds.overflows, hhull.valid, Bool.true_and] at hfit
    have hbox : (Viewport.fit p padding).bounds = _ := (hhull.fit padding).trans (if_neg hfit)
    rw [hbox]
    exact hhull.contains hfinite hpadding hq (hpoints q hq)

/-- Every operation of every path ends in the box that is fitted to a program, unless it is
    the move to the origin in front of a single stroke that is drawn before any command has
    moved the cursor. -/
theorem contains_of_mem_ops {p : Program} {padding : Float}
    (hpoints : ∀ q ∈ p.points, q.isFinite) (hfinite : padding.isFinite) (hpadding : 0 ≤ padding)
    (hfit : ¬ (Bounds.ofPoints p.points).overflows padding)
    {path : Path} (hpath : path ∈ (Toolpath.trace p).paths) {op : PathOp} (hop : op ∈ path.ops) :
    (Viewport.fit p padding).bounds.contains op.target ∨
      ∃ i s, p.strokeAt? i = some s ∧ (∀ c ∈ p.commands.take i, c.landing? = none) ∧
        path.ops = [.move .origin, .draw s] ∧ op = .move .origin := by
  have hcontains {q : Point} : q ∈ p.points → (Viewport.fit p padding).bounds.contains q :=
    contains_of_mem_points hpoints hfinite hpadding hfit
  obtain ⟨i, hi⟩ := Program.exists_candidate_of_mem_paths hpath
  obtain ⟨hstrokes, hstart⟩ := Program.mem_points_of_candidate? hi
  rcases List.mem_cons.1 hop with rfl | hop
  · rcases hstart with hstart | ⟨horigin, j, s, hpath, hs, hunmoved⟩
    · exact .inl (hcontains hstart)
    · refine .inr ⟨j, s, hs, hunmoved, ?_, by rw [horigin]⟩
      rw [Path.ops, horigin, hpath]
      rfl
  · obtain ⟨s, hs, rfl⟩ := List.mem_map.1 hop
    obtain ⟨j, hj⟩ := hstrokes s hs
    exact .inl (hcontains (Program.target_mem_points hj))

/-- The stroke to `(10, 10)` is drawn from the origin, but the box around its end begins
    at `(9, 9)`. -/
theorem not_contains_origin :
    ¬ ∀ (p : Program) (padding : Float), (∀ q ∈ p.points, q.isFinite) → padding.isFinite →
      0 ≤ padding → ¬ (Bounds.ofPoints p.points).overflows padding →
      ∀ path ∈ (Toolpath.trace p).paths, ∀ op ∈ path.ops,
        (Viewport.fit p padding).bounds.contains op.target := by
  intro h
  have hmove := h ⟨[⟨⟨.line, some ⟨10, 10⟩, none, none, 1⟩, true⟩], []⟩ 1
    (by decide) (by decide) (by decide) (by decide)
    ⟨.origin, [.line ⟨10, 10⟩], false⟩ (by decide) (.move .origin) (by decide)
  exact absurd hmove (by decide)

/-- After a segment from `(1, 1)`, the end of its stroke to `(2, 3)` is in the box. -/
theorem contains_of_mem_ops_segment :
    let p : Program :=
      ⟨[⟨⟨.mseg, some ⟨1, 1⟩, none, none, 1⟩, true⟩,
        ⟨⟨.line, some ⟨2, 3⟩, none, none, 2⟩, true⟩], []⟩
    (Viewport.fit p 0).bounds.contains ⟨2, 3⟩ := by
  intro p
  have h := @contains_of_mem_ops p 0 (by decide) (by decide) (by decide) (by decide)
    ⟨⟨1, 1⟩, [.line ⟨2, 3⟩], false⟩ (by decide) (.draw (.line ⟨2, 3⟩)) (by decide)
  rcases h with h | ⟨_, _, -, -, -, h⟩
  · exact h
  · cases h

end JetPlot
