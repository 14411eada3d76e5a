import JetPlot.Proofs.Reading.Joining
import JetPlot.Proofs.Svg.Unseen

/-!
# Lines that are not drawn

A line that is blank or skipped might as well not be there, wherever in a text it stands: it
holds no command, leaves the shutter as it is, and moves the lines below it further down,
which changes their numbers but not the picture.

* `render_ofText_insert`: the program, the toolpath and the picture of a text with one such
  line more.
-/

namespace JetPlot

/-! ## One line more -/

namespace Reading

variable (shutterOpen : Bool) (number first : Nat) {line raw : List Char}

theorem steps_ofLine_of_fate (h : Fate.ofLine line ≠ .command) :
    (ofLine shutterOpen number line (Line.classify line)).steps = [] := by
  rw [Fate.ofLine] at h
  cases hkind : Line.classify line with
  | blank | skip reason | shutter opens => rfl
  | motion keyword =>
    rw [hkind] at h
    -- The motion lacks the point that it needs.
    have hlacks : keyword.needsPoint && (Parameters.read line).point.isNone := by
      by_contra hpoint
      exact h (if_neg hpoint)
    rw [ofLine, (command?_eq_none_iff number keyword line).2 hlacks]

theorem shutterAfter_of_fate (h : Fate.ofLine line ≠ .toggle) :
    shutterAfter shutterOpen (Line.classify line) = shutterOpen := by
  rw [Fate.ofLine] at h
  cases hkind : Line.classify line with
  | blank | skip reason | motion keyword => rfl
  | shutter opens =>
    rw [hkind] at h
    exact absurd rfl h

/-- A line that holds no command and leaves the shutter as it is only moves the lines below
    it further down. -/
theorem steps_ofLines_insert (before after : List (List Char))
    (hcommand : Fate.ofLine (Text.trim raw) ≠ .command)
    (htoggle : Fate.ofLine (Text.trim raw) ≠ .toggle) :
    ∃ above below : Reading,
      (ofLines shutterOpen first (before ++ after)).steps = (above ++ below).steps ∧
        (ofLines shutterOpen first (before ++ raw :: after)).steps =
          (above ++ below.movedDown 1).steps := by
  refine ⟨_, _, congrArg steps (ofLines_append shutterOpen first before after), ?_⟩
  rw [ofLines_append, ofLines_cons, shutterAfter_of_fate _ htoggle, ofLines_movedDown, steps_append,
    steps_append, steps_ofLine_of_fate _ _ hcommand]
  rfl

end Reading

namespace Program

variable {p q : Program}

/-- Programs that differ in the numbers of lines at most have commands that look alike. -/
theorem map_drawn_of_unnumbered
    (h : p.commands.map Command.unnumbered = q.commands.map Command.unnumbered) :
    p.commands.map Command.drawn = q.commands.map Command.drawn :=
  map_eq_of_view Command.unnumbered Command.drawn (fun _ => rfl) h

/-- Moving steps further down changes the numbers of lines at most. -/
theorem unnumbered_of_movedDown {above below : Reading} {n : Nat}
    (hp : p.steps = (above ++ below.movedDown n).steps) (hq : q.steps = (above ++ below).steps) :
    p.commands.map Command.unnumbered = q.commands.map Command.unnumbered ∧ p.flags = q.flags := by
  have hcommands : p.commands = (ofReading (above ++ below.movedDown n)).commands :=
    congrArg (List.map Step.command) hp
  have hcommands' : q.commands = (ofReading (above ++ below)).commands :=
    congrArg (List.map Step.command) hq
  have hflags : p.flags = (ofReading (above ++ below.movedDown n)).flags :=
    congrArg (List.map Step.shutterOpen) hp
  have hflags' : q.flags = (ofReading (above ++ below)).flags :=
    congrArg (List.map Step.shutterOpen) hq
  constructor
  · rw [hcommands, hcommands', commands_ofReading_append, commands_ofReading_append,
      commands_movedDown, List.map_append, List.map_append, List.map_map]
    rfl
  · rw [hflags, hflags', flags_ofReading_append, flags_ofReading_append, flags_movedDown]

end Program

/-! ## Texts -/

/-- The lines of a text into which a line is inserted. -/
theorem Text.lines_insert {above line : List Char} (habove : endsLine above) (hline : '\n' ∉ line)
    (below : List Char) :
    ∃ raw, trim raw = trim line ∧
      lines (above ++ (line ++ '\n' :: below)) = lines above ++ raw :: lines below := by
  obtain ⟨raw, hraw, htrim⟩ := exists_lines_concat_newline hline
  refine ⟨raw, htrim, ?_⟩
  have hends : endsLine (line ++ ['\n']) := endsLine_concat
  rw [lines_append habove, List.append_cons line, lines_append hends, hraw]
  rfl

/-- The steps of a text into which a line is inserted that holds no command and leaves the
    shutter as it is. -/
theorem Program.steps_ofText_insert {a s : String} (habove : Text.endsLine a.toList)
    (hs : '\n' ∉ s.toList) (hcommand : Fate.ofLine (Text.trim s.toList) ≠ .command)
    (htoggle : Fate.ofLine (Text.trim s.toList) ≠ .toggle) (b : String) :
    ∃ above below : Reading,
      (ofText (a ++ b)).steps = (above ++ below).steps ∧
        (ofText (a ++ s ++ "\n" ++ b)).steps = (above ++ below.movedDown 1).steps := by
  obtain ⟨raw, htrim, hlines⟩ := Text.lines_insert habove hs b.toList
  rw [← htrim] at hcommand htoggle
  obtain ⟨above, below, hwithout, hwith⟩ := Reading.steps_ofLines_insert false 1
    (Text.lines a.toList) (Text.lines b.toList) hcommand htoggle
  have htext : (a ++ s ++ "\n" ++ b).toList = a.toList ++ (s.toList ++ '\n' :: b.toList) := by
    rw [String.toList_append, String.toList_append, String.toList_append, List.append_assoc,
      List.append_assoc]
    rfl
  refine ⟨above, below, ?_, ?_⟩
  · rw [← hwithout, ← Text.lines_append habove, ← String.toList_append]
    rfl
  · rw [← hwith, ← hlines, ← htext]
    rfl

/-- A line that is blank or skipped, put into a text in front of any line or behind the last
    one, changes numbers of lines at most: the commands and the states of the shutter are the
    same, and so are the toolpath, its counts and the picture. -/
theorem render_ofText_insert {a s : String} (ha : a = "" ∨ ∃ a', a = a' ++ "\n")
    (hs : '\n' ∉ s.toList)
    (hfate : Fate.ofLine (Text.trim s.toList) = .blank ∨
      Fate.ofLine (Text.trim s.toList) = .skipped) (b : String) :
    let p := Program.ofText (a ++ s ++ "\n" ++ b)
    let q := Program.ofText (a ++ b)
    p.commands.map Command.unnumbered = q.commands.map Command.unnumbered ∧
      p.flags = q.flags ∧
      Toolpath.trace p = Toolpath.trace q ∧ ∀ o, Svg.render p o = Svg.render q o := by
  intro p q
  have habove : Text.endsLine a.toList := by
    rcases ha with rfl | ⟨a', rfl⟩
    · rfl
    · rw [String.toList_append]
      exact Text.endsLine_concat
  have hcommand : Fate.ofLine (Text.trim s.toList) ≠ .command := by
    rcases hfate with h | h <;> rw [h] <;> exact nofun
  have htoggle : Fate.ofLine (Text.trim s.toList) ≠ .toggle := by
    rcases hfate with h | h <;> rw [h] <;> exact nofun
  obtain ⟨above, below, hq, hp⟩ := Program.steps_ofText_insert habove hs hcommand htoggle b
  obtain ⟨hcommands, hflags⟩ := Program.unnumbered_of_movedDown hp hq
  have hdrawn := Program.map_drawn_of_unnumbered hcommands
  exact ⟨hcommands, hflags, Toolpath.trace_eq_of_drawn hflags hdrawn,
    Svg.render_eq_of_drawn hflags hdrawn⟩

/-- In a segment, neither a comment that mentions the shutter nor a line without its point
    makes a difference. -/
theorem render_ofText_insert_comment :
    let a := "SHUTTEROPEN\nMSEG (X,Y),0,0\n"
    let b := "LINE (X,Y),1,0\nENDS"
    Fate.ofLine (Text.trim "\t! ShutterClose\r".toList) = .skipped ∧
      Fate.ofLine (Text.trim "line 5,5".toList) = .skipped ∧
      (Program.ofText (a ++ "\t! ShutterClose\r" ++ "\n" ++ b)).flags =
        (Program.ofText (a ++ b)).flags ∧
      ∀ o, Svg.render (Program.ofText (a ++ "line 5,5" ++ "\n" ++ b)) o =
        Svg.render (Program.ofText (a ++ b)) o := by
  intro a b
  have hcomment : Fate.ofLine (Text.trim "\t! ShutterClose\r".toList) = .skipped := by
    decide +kernel
  have hline : Fate.ofLine (Text.trim "line 5,5".toList) = .skipped := by decide +kernel
  have ha : a = "" ∨ ∃ a', a = a' ++ "\n" := .inr ⟨"SHUTTEROPEN\nMSEG (X,Y),0,0", rfl⟩
  exact ⟨hcomment, hline, (render_ofText_insert ha (by decide) (.inr hcomment) b).2.1,
    (render_ofText_insert ha (by decide) (.inr hline) b).2.2.2⟩

end JetPlot
