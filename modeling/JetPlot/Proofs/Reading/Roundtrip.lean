import JetPlot.Proofs.Reading.Joining
import JetPlot.Proofs.Reading.Template

/-!
# Written programs

Every list of steps with well-formed commands can be written as a program text. A command takes
a line, with its keyword and its parameters (`Command.writtenLine`), and whenever the shutter
has to be in another state than before, a line about the shutter comes first
(`Step.writtenLines`). Such a text is read as the steps that were written. The lines of its
commands are what they say: no parameter can be mistaken for a control word or for the mark of
the shutter.

* `classify_writtenLine`: the line of a command is a motion;
* `ofLines_writtenLines`: written lines are read back, in whichever state of the shutter;
* `ofText_written`: so is the whole text.
-/

namespace JetPlot

/-- The line of a command. -/
def Command.writtenLine (c : Command) : List Char := c.keyword.text.toList ++ c.parameterChars

/-- The lines of a step, if the shutter is in the given state before it. -/
def Step.writtenLine (shutterOpen : Bool) (s : Step) : List (List Char) :=
  (if s.shutterOpen = shutterOpen then []
    else [(if s.shutterOpen then "ShutterOpen" else "ShutterClose").toList]) ++
  [s.command.writtenLine]

/-- The lines of some steps, if the shutter is in the given state before them. -/
def Step.writtenLines (shutterOpen : Bool) : List Step → List (List Char)
  | [] => []
  | s :: rest => s.writtenLine shutterOpen ++ writtenLines s.shutterOpen rest

/-! ## Characters -/

namespace Text

variable {cs : List Char}

theorem skipBlanks_eq_self (h : ∀ c ∈ cs.head?, isBlank c = false) : skipBlanks cs = cs :=
  dropWhile_append_eq (List.forall_mem_nil _) h

/-- Nothing is taken off a text without white space at either end. -/
theorem trim_eq_self (hhead : ∀ c ∈ cs.head?, isBlank c = false)
    (hlast : ∀ c ∈ cs.getLast?, isBlank c = false) : trim cs = cs := by
  rw [← List.head?_reverse] at hlast
  rw [trim, skipBlanks_eq_self hhead, skipBlanks_eq_self hlast, List.reverse_reverse]

/-- A text has all the characters of what occurs in it. -/
theorem subset_of_occursIn {part : List Char} (h : occursIn part cs) : part ⊆ cs := by
  induction cs with
  | nil => rw [List.isEmpty_iff.1 h]; exact List.nil_subset _
  | cons c cs ih =>
    rcases Bool.or_eq_true_iff.1 h with h | h
    · exact (List.isPrefixOf_iff_prefix.1 h).subset
    · exact List.subset_cons_of_subset c (ih h)

theorem upper_eq_self (h : ∀ c ∈ cs, upperChar c = [c]) : upper cs = cs := by
  rw [upper, List.flatMap_congr h, List.flatMap_singleton']

end Text

/-- A character of a written line: a digit, a letter of a keyword, or a part of a marker or of
    a numeral. -/
def isWritten (c : Char) : Bool := c.isDigit || "ACDEGILMNPRST (X,Y)-.".toList.contains c

/-- Written characters are in upper case, in one line, and not in the mark of the shutter. -/
theorem spec_of_isWritten {c : Char} (h : isWritten c) :
    Text.upperChar c = [c] ∧ c ≠ '\n' ∧ c ≠ '\r' ∧ c ≠ 'U' := by
  rcases Bool.or_eq_true_iff.1 h with hdigit | hmem
  · have hrange := toNat_of_isDigit hdigit
    have hupper : c.toUpper = c := dif_neg fun hlower => by
      have hge := UInt32.le_iff_toNat_le.1 hlower.1
      change 0x61 ≤ c.toNat at hge
      omega
    have hne {d : Char} (hd : d.isDigit = false) : c ≠ d := by
      rintro rfl
      exact absurd hdigit (Bool.eq_false_iff.1 hd)
    refine ⟨?_, hne rfl, hne rfl, hne rfl⟩
    rw [Text.upperChar, if_pos (by omega), hupper]
  · have hall : "ACDEGILMNPRST (X,Y)-.".toList.all fun c =>
        Text.upperChar c = [c] ∧ c ≠ '\n' ∧ c ≠ '\r' ∧ c ≠ 'U' := by decide
    exact of_decide_eq_true (List.all_eq_true.1 hall c (List.contains_iff_mem.1 hmem))

theorem IsNumeral.all_isWritten {cs : List Char} (h : IsNumeral cs) : cs.all isWritten := by
  refine List.all_eq_true.2 fun c hc => ?_
  rcases h.mem hc with hdigit | rfl | rfl
  · exact Bool.or_eq_true_iff.2 (.inl hdigit)
  · rfl
  · rfl

theorem Keyword.all_isWritten (k : Keyword) : k.text.toList.all isWritten := by
  cases k <;> rfl

namespace Command.WellFormed

variable {c : Command}

/-- The parameters of a command, if there are any, end with a numeral. -/
theorem parameterChars_spec (h : c.WellFormed) :
    c.parameterChars = [] ∨ ∃ before numeral, c.parameterChars = ' ' :: (before ++ numeral) ∧
      before.all isWritten ∧ IsNumeral numeral := by
  cases hpoint : c.point with
  | none =>
    left
    rw [parameterChars, hpoint]
    rfl
  | some q =>
    right
    have hx := isNumeral_chars_plain (h.finite q hpoint).1
    have hy := isNumeral_chars_plain (h.finite q hpoint).2
    have hfront : ("(X,Y),".toList ++ Style.plain.chars q.x ++ [',']).all isWritten := by
      rw [List.all_append, List.all_append, hx.all_isWritten]
      rfl
    rw [parameterChars, hpoint]
    cases hthird : c.third with
    | none => exact ⟨_, _, by simp, hfront, hy⟩
    | some v =>
      have hv := isNumeral_chars_plain (h.isFinite_of_third v hthird)
      refine ⟨"(X,Y),".toList ++ Style.plain.chars q.x ++ [','] ++ (Style.plain.chars q.y ++ [',']),
        Style.plain.chars v, by simp, ?_, hv⟩
      rw [List.all_append, hfront, List.all_append, hy.all_isWritten]
      rfl

theorem all_isWritten_writtenLine (h : c.WellFormed) : c.writtenLine.all isWritten := by
  rw [writtenLine, List.all_append, c.keyword.all_isWritten, Bool.true_and]
  obtain hnil | ⟨before, numeral, heq, hbefore, hnumeral⟩ := h.parameterChars_spec
  · rw [hnil]
    rfl
  · rw [heq, List.all_cons, List.all_append, hbefore, hnumeral.all_isWritten]
    rfl

/-- The line of a command is in upper case, in one line, and not about the shutter. -/
theorem spec_of_mem_writtenLine (h : c.WellFormed) {d : Char} (hd : d ∈ c.writtenLine) :
    Text.upperChar d = [d] ∧ d ≠ '\n' ∧ d ≠ '\r' ∧ d ≠ 'U' :=
  spec_of_isWritten (List.all_eq_true.1 h.all_isWritten_writtenLine d hd)

/-- There is no white space around the line of a command. -/
theorem trim_writtenLine (h : c.WellFormed) : Text.trim c.writtenLine = c.writtenLine := by
  refine Text.trim_eq_self ?_ ?_
  · rw [writtenLine]
    cases c.keyword <;> (intro d hd; obtain rfl := Option.mem_some.1 hd; decide)
  · obtain hnil | ⟨before, numeral, heq, -, hnumeral⟩ := h.parameterChars_spec
    · rw [writtenLine, hnil]
      cases c.keyword <;> (intro d hd; obtain rfl := Option.mem_some.1 hd; decide)
    · intro d hd
      rw [writtenLine, heq, ← List.cons_append, ← List.append_assoc,
        List.getLast?_append_of_ne_nil _ hnumeral.ne_nil] at hd
      exact hnumeral.not_isBlank (List.mem_of_getLast? hd)

/-- The line of a command is a motion. -/
theorem classify_writtenLine (h : c.WellFormed) :
    Line.classify c.writtenLine = .motion c.keyword := by
  have hupper : Text.upper c.writtenLine = c.writtenLine :=
    Text.upper_eq_self fun d hd => (h.spec_of_mem_writtenLine hd).1
  -- Both words about the shutter have a U, and a written line has none.
  have hmark (mark : List Char) (hU : 'U' ∈ mark) :
      Text.occursIn mark c.writtenLine = false := by
    refine Bool.eq_false_iff.2 fun hoccurs => ?_
    have hmem := Text.subset_of_occursIn hoccurs hU
    exact (h.spec_of_mem_writtenLine hmem).2.2.2 rfl
  -- The keyword ends where the parameters begin, with a space, or with the line.
  have hword : Line.firstWord c.writtenLine = c.keyword.text.toList := by
    have hletters : c.keyword.text.toList.all fun d => d.isAlphanum || d = '_' := by
      cases c.keyword <;> rfl
    refine takeWhile_append_eq (List.all_eq_true.1 hletters) fun d hd => ?_
    obtain hnil | ⟨before, numeral, heq, -⟩ := h.parameterChars_spec
    · rw [hnil] at hd
      cases hd
    · rw [heq] at hd
      obtain rfl := Option.mem_some.1 hd
      decide
  have hcontrol : Line.controlWords.find? (fun word => word.toList = c.keyword.text.toList) =
      none := by
    cases c.keyword <;> rfl
  have hkeyword : Keyword.all.find? (fun k => k.text.toList.isPrefixOf c.writtenLine) =
      some c.keyword := by
    rw [writtenLine]
    cases c.keyword <;> rfl
  have hclassify : Line.classify c.writtenLine = Line.classifyUpper (Text.upper c.writtenLine) := by
    rw [writtenLine]
    cases c.keyword <;> rfl
  rw [hclassify, hupper, Line.classifyUpper]
  simp only [hword, hcontrol, hmark Line.opening.toList (by decide),
    hmark Line.closing.toList (by decide), hkeyword]
  rfl

/-- The line of a command is read as the command. -/
theorem command?_writtenLine (h : c.WellFormed) (number : Nat) :
    Reading.command? number c.keyword c.writtenLine = some { c with lineNumber := number } := by
  have hbefore : '(' ∉ c.keyword.text.toList := by
    cases c.keyword <;> decide
  have hread : Parameters.read c.writtenLine = ⟨c.point, c.third⟩ :=
    h.read_parameterChars hbefore
  have hangle := h.angle_eq_none
  have hspeed := h.speed_eq_none
  have hends := h.keyword_eq_ends
  simp only [Reading.command?, hread, third]
  obtain ⟨keyword, point, angle, speed, line⟩ := c
  cases point with
  | none =>
    obtain rfl : keyword = .ends := hends rfl
    obtain rfl : angle = none := hangle (by simp)
    obtain rfl : speed = none := hspeed (by simp)
    rfl
  | some q =>
    cases keyword with
    | arc2 =>
      obtain rfl : speed = none := hspeed (by simp)
      cases angle <;> rfl
    | ends =>
      obtain rfl : angle = none := hangle (by simp)
      obtain rfl : speed = none := hspeed (by simp)
      rfl
    | ptp | line | mseg =>
      obtain rfl : angle = none := hangle (by simp)
      rfl

end Command.WellFormed

/-! ## Lines -/

/-- The line about the shutter in front of a step sets its state. -/
theorem Line.classify_toggle (opens : Bool) :
    classify (Text.trim (if opens then "ShutterOpen" else "ShutterClose").toList) =
      .shutter opens := by
  cases opens <;> rfl

/-- Whether a reading yields the given steps, but for the numbers of lines, and skips nothing. -/
structure Reading.Yields (r : Reading) (steps : List Step) : Prop where
  commands : r.steps.map (fun s => s.command.unnumbered) =
    steps.map fun s => s.command.unnumbered
  flags : r.steps.map Step.shutterOpen = steps.map Step.shutterOpen
  skipped : r.skipped = []

namespace Reading

variable {r : Reading} {steps : List Step}

/-- A line about the shutter yields nothing itself. -/
theorem Yields.toggle (h : r.Yields steps) (events : List ReadingEvent) :
    (⟨[], [], events⟩ ++ r : Reading).Yields steps := ⟨h.commands, h.flags, h.skipped⟩

theorem Yields.step (h : r.Yields steps) {s t : Step}
    (hcommand : s.command.unnumbered = t.command.unnumbered)
    (hflag : s.shutterOpen = t.shutterOpen) (events : List ReadingEvent) :
    (⟨[s], [], events⟩ ++ r : Reading).Yields (t :: steps) where
  commands := congrArg₂ List.cons hcommand h.commands
  flags := congrArg₂ List.cons hflag h.flags
  skipped := h.skipped

/-- Written lines are read as the steps that were written. -/
theorem ofLines_writtenLines (h : ∀ s ∈ steps, s.command.WellFormed) (shutterOpen : Bool)
    (first : Nat) :
    (ofLines shutterOpen first (Step.writtenLines shutterOpen steps)).Yields steps := by
  induction steps generalizing shutterOpen first with
  | nil => exact ⟨rfl, rfl, rfl⟩
  | cons s rest ih =>
    obtain ⟨hs, hrest⟩ := List.forall_mem_cons.1 h
    -- The command is read in the state that it was written for.
    have hcommand (number : Nat) : (ofLines s.shutterOpen number
        (s.command.writtenLine :: Step.writtenLines s.shutterOpen rest)).Yields (s :: rest) := by
      have hline := (ih hrest s.shutterOpen (number + 1)).step
        (s := ⟨{ s.command with lineNumber := number }, s.shutterOpen⟩) (t := s) rfl rfl
        [.command number { s.command with lineNumber := number }]
      rw [ofLines_cons, hs.trim_writtenLine, hs.classify_writtenLine, ofLine,
        hs.command?_writtenLine]
      exact hline
    rw [Step.writtenLines, Step.writtenLine]
    split
    · next hstate =>
      rw [← hstate]
      exact hcommand first
    · change (ofLines shutterOpen first (_ :: s.command.writtenLine :: _)).Yields _
      rw [ofLines_cons, Line.classify_toggle]
      exact (hcommand (first + 1)).toggle _

end Reading

/-! ## Texts -/

/-- There is no end of a line in a written line. -/
theorem Step.not_mem_of_mem_writtenLines {steps : List Step}
    (h : ∀ s ∈ steps, s.command.WellFormed) {shutterOpen : Bool} {line : List Char}
    (hline : line ∈ writtenLines shutterOpen steps) : '\n' ∉ line ∧ '\r' ∉ line := by
  induction steps generalizing shutterOpen with
  | nil => cases hline
  | cons s rest ih =>
    obtain ⟨hs, hrest⟩ := List.forall_mem_cons.1 h
    rw [writtenLines, List.mem_append, writtenLine, List.mem_append, List.mem_singleton] at hline
    rcases hline with (hline | rfl) | hline
    · split at hline
      · cases hline
      · rw [List.mem_singleton.1 hline]
        cases s.shutterOpen <;> decide
    · exact ⟨fun hmem => (hs.spec_of_mem_writtenLine hmem).2.1 rfl,
        fun hmem => (hs.spec_of_mem_writtenLine hmem).2.2.1 rfl⟩
    · exact ih hrest hline

namespace Text

variable {ls : List (List Char)}

/-- Lines that are ended are the lines of their text. -/
theorem lines_flatMap (h : ∀ line ∈ ls, '\n' ∉ line ∧ '\r' ∉ line) :
    lines (ls.flatMap (· ++ ['\n'])) = ls := by
  induction ls with
  | nil => rfl
  | cons line rest ih =>
    obtain ⟨⟨hnewline, hreturn⟩, hrest⟩ := List.forall_mem_cons.1 h
    have hends : endsLine (line ++ ['\n']) := endsLine_concat
    have hline : lines (line ++ ['\n']) = [line] := by
      refine (lines_concat_newline hnewline).resolve_right ?_
      rintro ⟨ds, rfl, -⟩
      exact hreturn (List.mem_append_right ds (List.mem_singleton.2 rfl))
    rw [List.flatMap_cons, lines_append hends, hline, ih hrest]
    rfl

/-- Lines are ended by newlines between them and one behind the last one. -/
theorem intercalate_newline (h : ls ≠ []) :
    ['\n'].intercalate ls ++ ['\n'] = ls.flatMap (· ++ ['\n']) := by
  induction ls with
  | nil => exact absurd rfl h
  | cons line rest ih =>
    cases rest with
    | nil => simp
    | cons next rest =>
      rw [List.intercalate_cons_cons, List.append_assoc, ih (List.cons_ne_nil _ _)]
      rfl

end Text

/-- A text of written lines is read as the steps that were written. -/
theorem Reading.yields_intercalate {steps : List Step} (h : ∀ s ∈ steps, s.command.WellFormed) :
    (ofLines false 1 (Text.lines (['\n'].intercalate (Step.writtenLines false steps)))).Yields
      steps := by
  -- The last line may be ended as well, unless there is none.
  by_cases hnil : Step.writtenLines false steps = []
  · have hlines := ofLines_writtenLines h false 1
    rw [hnil] at hlines ⊢
    exact hlines
  · rw [← ofLines_newline, Text.intercalate_newline hnil,
      Text.lines_flatMap fun line => Step.not_mem_of_mem_writtenLines h]
    exact ofLines_writtenLines h false 1

/-- Every list of steps with well-formed commands is read back from its text, whether the last
    line is ended or not: the same commands, but for the numbers of their lines, in the same
    states of the shutter, and nothing is skipped. -/
theorem ofText_written (steps : List Step) (h : ∀ s ∈ steps, s.command.WellFormed)
    (text : String)
    (htext : text = "\n".intercalate ((Step.writtenLines false steps).map String.ofList) ∨
      text = "\n".intercalate ((Step.writtenLines false steps).map String.ofList) ++ "\n") :
    let p := Program.ofText text
    p.commands.map Command.unnumbered = steps.map (fun s => s.command.unnumbered) ∧
      p.flags = steps.map Step.shutterOpen ∧ p.skipped = [] := by
  have hyields : (Reading.ofText text).Yields steps := by
    have hchars : ("\n".intercalate ((Step.writtenLines false steps).map String.ofList)).toList =
        ['\n'].intercalate (Step.writtenLines false steps) := by
      rw [String.toList_intercalate, List.map_map]
      exact congrArg _ (List.map_id'' (fun _ => String.toList_ofList) _)
    rcases htext with rfl | rfl
    · rw [Reading.ofText, hchars]
      exact Reading.yields_intercalate h
    · rw [Reading.ofText, String.toList_append, hchars]
      change (Reading.ofLines false 1 (Text.lines (_ ++ ['\n']))).Yields steps
      rw [Reading.ofLines_newline]
      exact Reading.yields_intercalate h
  intro p
  refine ⟨?_, hyields.flags, hyields.skipped⟩
  rw [← hyields.commands, Program.commands, List.map_map]
  rfl

/-- A segment with a printed arc in it, and an end without a point. -/
theorem ofText_written_segment :
    let steps : List Step := [⟨⟨.mseg, some ⟨0, 0.5⟩, none, some 20, 0⟩, false⟩,
      ⟨⟨.arc2, some ⟨2, -1⟩, some (-1.25), none, 0⟩, true⟩, ⟨⟨.ends, none, none, none, 0⟩, false⟩]
    let text := "MSEG (X,Y),0,0.5,20\nShutterOpen\nARC2 (X,Y),2,-1,-1.25\nShutterClose\nENDS"
    let p := Program.ofText text
    p.commands.map Command.unnumbered = steps.map (fun s => s.command.unnumbered) ∧
      p.flags = steps.map Step.shutterOpen ∧ p.skipped = [] := by
  refine ofText_written _ ?_ _ (.inl (by decide +kernel))
  simp only [List.forall_mem_cons]
  refine ⟨⟨fun _ => rfl, ?_, nofun, ?_⟩, ⟨fun _ => rfl, ?_, ?_, nofun⟩,
    ⟨fun hne => absurd rfl hne, nofun, nofun, nofun⟩, List.forall_mem_nil _⟩
  · rintro q ⟨⟩
    exact ⟨rfl, rfl⟩
  · rintro v ⟨⟩
    exact ⟨by decide, rfl⟩
  · rintro q ⟨⟩
    exact ⟨rfl, rfl⟩
  · rintro a ⟨⟩
    exact ⟨rfl, rfl⟩

end JetPlot
