import JetPlot.Proofs.Reading.Commands
import JetPlot.Proofs.Toolpath.Accounts

/-!
# Well-formed programs

What is read from a text has the parameters that its keywords allow, and no others: only the
end of a segment may lack a point, only an arc has an angle, only the other moves have a speed,
and all numbers are finite (`Command.WellFormed`). So however odd the third parameter of a line
is, it is never found where it does not belong, and every arc that is read has a point and
counts when the program is traced.

* `wellFormed_ofText`: the commands, the skipped lines and the arcs of a program text.
-/

namespace JetPlot

/-- Whether a command has the parameters that belong to its keyword, all of them finite. -/
structure Command.WellFormed (c : Command) : Prop where
  /-- Only the end of a segment may lack a point. -/
  point : c.keyword ≠ .ends → c.point.isSome
  /-- The point has finite coordinates. -/
  finite : ∀ q ∈ c.point, q.x.isFinite ∧ q.y.isFinite
  /-- Only an arc has an angle. -/
  angle : ∀ a ∈ c.angle, c.keyword = .arc2 ∧ a.isFinite
  /-- Only a rapid move, a line or the beginning of a segment has a speed. -/
  speed : ∀ v ∈ c.speed, c.keyword ∈ [.ptp, .line, .mseg] ∧ v.isFinite

/-- Whether a reason can be given for a line of a text. -/
def SkipReason.WellFormed : SkipReason → Prop
  | comment | header | unrecognized => True
  | control word => word ∈ ["IF", "END", "STOP", "TILL", "WAIT"]
  | missingPoint keyword => keyword ≠ .ends

/-! ## Commands -/

namespace Command.WellFormed

variable {c : Command}

theorem keyword_eq_ends (h : c.WellFormed) (hpoint : c.point = none) : c.keyword = .ends := by
  refine Decidable.byContradiction fun hne => ?_
  have hsome := h.point hne
  rw [hpoint] at hsome
  cases hsome

theorem angle_eq_none (h : c.WellFormed) (hne : c.keyword ≠ .arc2) : c.angle = none :=
  Option.eq_none_iff_forall_ne_some.2 fun a ha => hne (h.angle a ha).1

theorem speed_eq_none (h : c.WellFormed) (hne : c.keyword ∉ [.ptp, .line, .mseg]) :
    c.speed = none :=
  Option.eq_none_iff_forall_ne_some.2 fun v hv => hne (h.speed v hv).1

/-- A well-formed arc is one to a point. -/
theorem isArc_eq (h : c.WellFormed) : c.isArc = decide (c.keyword = .arc2) := by
  rw [isArc]
  by_cases hk : c.keyword = .arc2
  · have hpoint := h.point (by simp [hk])
    simp [hk, hpoint]
  · simp [hk]

end Command.WellFormed

/-- The third parameter of a line is finite. -/
theorem Parameters.isFinite_of_third_read {line : List Char} {v : Float}
    (h : (read line).third = some v) : v.isFinite := by
  rw [read] at h
  split at h
  · cases h
  · split at h
    · cases h
    · obtain ⟨word, -, hv⟩ := Option.bind_eq_some_iff.1 h
      exact isFinite_of_readFinite? hv

/-- The command of a line is well-formed. -/
theorem Reading.wellFormed_of_command? {number : Nat} {keyword : Keyword} {line : List Char}
    {c : Command} (h : command? number keyword line = some c) : c.WellFormed := by
  have hfinite : ∀ q ∈ c.point, q.x.isFinite ∧ q.y.isFinite := fun q hq => by
    rw [point_of_command? h] at hq
    exact Bool.and_eq_true_iff.1 (Parameters.isFinite_of_point_read hq)
  have hthird : ∀ v ∈ (Parameters.read line).third, v.isFinite := fun _ =>
    Parameters.isFinite_of_third_read
  have hnone {P : Float → Prop} : ∀ v ∈ (none : Option Float), P v := fun v hv =>
    absurd hv (Option.not_mem_none v)
  -- The keyword says what the third parameter is, if it is kept at all.
  simp only [command?] at h
  cases hpoint : (Parameters.read line).point with
  | none =>
    rw [hpoint] at h
    cases keyword with
    | ends =>
      obtain rfl := Option.some.inj h
      exact ⟨fun hne => absurd rfl hne, hfinite, hnone, hnone⟩
    | ptp | line | arc2 | mseg => cases h
  | some q =>
    rw [hpoint] at h
    cases keyword <;> obtain rfl := Option.some.inj h
    case arc2 => exact ⟨fun _ => rfl, hfinite, fun a ha => ⟨rfl, hthird a ha⟩, hnone⟩
    case ends => exact ⟨fun _ => rfl, hfinite, hnone, hnone⟩
    all_goals exact ⟨fun _ => rfl, hfinite, hnone, fun v hv => ⟨by simp, hthird v hv⟩⟩

theorem Program.wellFormed_of_mem_commands {text : String} {c : Command}
    (h : c ∈ (ofText text).commands) : c.WellFormed := by
  obtain ⟨s, hs, rfl⟩ := List.mem_map.1 h
  obtain ⟨number, keyword, line, hc⟩ := Reading.exists_command?_of_mem_ofLines hs
  exact Reading.wellFormed_of_command? hc

/-! ## Skipped lines -/

/-- A line is only skipped for a reason that can be given. -/
theorem Line.wellFormed_of_classify {cs : List Char} {reason : SkipReason}
    (h : classify cs = skip reason) : reason.WellFormed := by
  have hupper {upper : List Char} (h : classifyUpper upper = skip reason) :
      reason.WellFormed := by
    rw [classifyUpper] at h
    split at h
    · next word hword =>
      cases h
      exact List.mem_of_find?_eq_some hword
    · split at h
      · cases h
      · split at h
        · cases h
        · split at h <;> cases h
          trivial
  rw [classify.eq_def] at h
  split at h
  · cases h
  · cases h
    trivial
  · cases h
    trivial
  · exact hupper h

/-- A skipped line is a line of its own kind, or a motion that lacks its point. -/
theorem Reading.wellFormed_of_mem_ofLine {shutterOpen : Bool} {number : Nat} {line : List Char}
    {s : SkippedLine} (h : s ∈ (ofLine shutterOpen number line (Line.classify line)).skipped) :
    s.reason.WellFormed := by
  cases hkind : Line.classify line with
  | blank | shutter opens => rw [hkind] at h; cases h
  | skip reason =>
    rw [hkind] at h
    rw [List.mem_singleton.1 h]
    exact Line.wellFormed_of_classify hkind
  | motion keyword =>
    rw [hkind, ofLine] at h
    split at h
    · cases h
    · next hnone =>
      rw [List.mem_singleton.1 h]
      rintro rfl
      cases (command?_eq_none_iff ..).1 hnone

theorem Reading.wellFormed_of_mem_skipped {shutterOpen : Bool} {first : Nat}
    {lines : List (List Char)} {s : SkippedLine}
    (h : s ∈ (ofLines shutterOpen first lines).skipped) : s.reason.WellFormed := by
  induction lines generalizing shutterOpen first with
  | nil => cases h
  | cons raw rest ih =>
    rw [ofLines_cons, skipped_append, List.mem_append] at h
    rcases h with h | h
    · exact wellFormed_of_mem_ofLine h
    · exact ih h

/-- Every command of a program text has the parameters that belong to its keyword, and every
    skipped line has a reason that can be given. So all of its arcs are accounted for, drawn or
    not. -/
theorem wellFormed_ofText (text : String) :
    let p := Program.ofText text
    (∀ c ∈ p.commands, c.WellFormed) ∧ (∀ s ∈ p.skipped, s.reason.WellFormed) ∧
      (Toolpath.trace p).stats.arcs + (Toolpath.trace p).stats.skippedArcs = p.count .arc2 := by
  refine ⟨fun c => Program.wellFormed_of_mem_commands,
    fun s => Reading.wellFormed_of_mem_skipped, ?_⟩
  calc (Toolpath.trace (Program.ofText text)).stats.arcs +
        (Toolpath.trace (Program.ofText text)).stats.skippedArcs
      = (Program.ofText text).commands.countP Command.isArc := Outcome.arcs_ofProgram _
    _ = (Program.ofText text).commands.countP fun c => c.keyword = .arc2 :=
      List.countP_congr fun c hc => by
        rw [(Program.wellFormed_of_mem_commands hc).isArc_eq]
    _ = (Program.ofText text).count .arc2 := by
      rw [Program.count, Program.commands, List.countP_map]
      rfl

end JetPlot
