import JetPlot.Proofs.Reading.Shutter

/-!
# Commands of a text

Every command of a text comes from the parameters of one of its lines
(`exists_command?_of_mem_ofLines`). Numerals that stand for no finite double are not read as
parameters.

* `isFinite_of_mem_points_ofText`: all points of a program text are finite.
-/

namespace JetPlot

theorem Parameters.isFinite_of_readFinite? {cs : List Char} {x : Float}
    (h : readFinite? cs = some x) : x.isFinite := (Option.filter_eq_some_iff.1 h).2

theorem Parameters.isFinite_of_readPoint? {x y : List Char} {q : Point}
    (h : readPoint? x y = some q) : q.isFinite := by
  obtain ⟨a, ha, h⟩ := Option.bind_eq_some_iff.1 h
  obtain ⟨b, hb, h⟩ := Option.bind_eq_some_iff.1 h
  obtain rfl := Option.some.inj h
  rw [Point.isFinite, isFinite_of_readFinite? ha, isFinite_of_readFinite? hb]
  rfl

/-- The point of a line is finite. -/
theorem Parameters.isFinite_of_point_read {line : List Char} {q : Point}
    (h : (read line).point = some q) : q.isFinite := by
  rw [read] at h
  split at h
  · cases h
  · split at h
    · cases h
    · next point hpoint =>
      obtain rfl := Option.some.inj h
      exact isFinite_of_readPoint? hpoint

/-- A command has the point of its line. -/
theorem Reading.point_of_command? {number : Nat} {keyword : Keyword} {line : List Char}
    {c : Command} (h : command? number keyword line = some c) :
    c.point = (Parameters.read line).point := by
  simp only [command?] at h
  cases hpoint : (Parameters.read line).point with
  | none =>
    rw [hpoint] at h
    cases keyword with
    | ends => rw [← Option.some.inj h]
    | ptp | line | arc2 | mseg => cases h
  | some q =>
    rw [hpoint] at h
    cases keyword <;> rw [← Option.some.inj h]

/-- Every command comes from a line. -/
theorem Reading.exists_command?_of_mem_ofLines {shutterOpen : Bool} {first : Nat}
    {lines : List (List Char)} {s : Step} (hs : s ∈ (ofLines shutterOpen first lines).steps) :
    ∃ number keyword line, command? number keyword line = some s.command := by
  induction lines generalizing shutterOpen first with
  | nil => exact absurd hs List.not_mem_nil
  | cons raw rest ih =>
    rw [steps_ofLines_cons, List.mem_append] at hs
    rcases hs with hs | hs
    · cases hkind : Line.classify (Text.trim raw) with
      | blank | skip _ | shutter _ => rw [hkind] at hs; exact absurd hs List.not_mem_nil
      | motion keyword =>
        rw [hkind, ofLine] at hs
        split at hs
        · next c hc =>
          rw [List.mem_singleton.1 hs]
          exact ⟨_, _, _, hc⟩
        · exact absurd hs List.not_mem_nil
    · exact ih hs

/-- All points that a program text mentions are finite. -/
theorem Program.isFinite_of_mem_points_ofText {text : String} {q : Point}
    (h : q ∈ (ofText text).points) : q.isFinite := by
  obtain ⟨s, hs, hq⟩ := List.mem_filterMap.1 h
  obtain ⟨number, keyword, line, hc⟩ := Reading.exists_command?_of_mem_ofLines hs
  rw [Reading.point_of_command? hc] at hq
  exact Parameters.isFinite_of_point_read hq

end JetPlot
