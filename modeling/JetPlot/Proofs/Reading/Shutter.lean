import JetPlot.Proofs.Reading.Fates

/-!
# The shutter

While a text is read, the state of the shutter is handed on from line to line. It
can be told from the text alone: it is the one that the last line about the shutter
set (`Line.lastToggle?`), and closed if there is none. Comments, headers and control
lines are never about the shutter, whatever they mention (`Line.isSilent`).

* `shutterOpen_of_mem_ofLines`: the state of the shutter of every step.
* `ofLines_append`: lines never change what the lines before them stand for.
* `flags_ofText`: the states of the shutter of a program, from its text.
-/

namespace JetPlot

/-- The state of the shutter that the last line about it sets. -/
def Line.lastToggle? (lines : List (List Char)) : Option Bool :=
  lines.reverse.findSome? fun raw => (classify (Text.trim raw)).opens?

/-- Whether a trimmed line is a comment, a header or a control line. -/
def Line.isSilent : List Char → Bool
  | '!' :: _ | '#' :: _ => true
  | cs => controlWords.any fun word => word.toList = firstWord (Text.upper cs)

/-- The program that some lines stand for. -/
def Program.ofLines (lines : List (List Char)) : Program :=
  ofReading (Reading.ofLines false 1 lines)

/-! ## Lines about the shutter -/

theorem Reading.shutterAfter_eq (shutterOpen : Bool) (kind : Line) :
    shutterAfter shutterOpen kind = kind.opens?.getD shutterOpen := by
  cases kind <;> rfl

theorem Line.lastToggle?_cons (raw : List Char) (rest : List (List Char)) :
    lastToggle? (raw :: rest) = (lastToggle? rest).or (classify (Text.trim raw)).opens? := by
  rw [lastToggle?, List.reverse_cons, List.findSome?_append, List.findSome?_singleton]
  rfl

/-- A line hands on the state of the shutter that holds after it. -/
theorem Line.lastToggle?_cons_getD (shutterOpen : Bool) (raw : List Char)
    (rest : List (List Char)) :
    (lastToggle? (raw :: rest)).getD shutterOpen =
      (lastToggle? rest).getD (Reading.shutterAfter shutterOpen (classify (Text.trim raw))) := by
  rw [lastToggle?_cons, Reading.shutterAfter_eq]
  cases lastToggle? rest <;> rfl

/-- A comment, a header or a control line is skipped as a whole. -/
theorem Line.classify_of_isSilent {cs : List Char} (h : isSilent cs) :
    ∃ reason, classify cs = skip reason := by
  rw [classify.eq_def]
  split
  · exact absurd h (by decide)
  · exact ⟨.comment, rfl⟩
  · exact ⟨.header, rfl⟩
  · next cs _ hcomment hheader =>
    -- A control word comes before all else that a line in upper case may mention.
    rw [isSilent, List.any_eq_true] at h
    · obtain ⟨word, hword⟩ := Option.isSome_iff_exists.1 (List.find?_isSome.2 h)
      exact ⟨.control word, by rw [classifyUpper, hword]⟩
    · exact hcomment
    · exact hheader

/-! ## Steps -/

/-- The steps of the first line and those of the lines after it. -/
theorem Reading.steps_ofLines_cons (shutterOpen : Bool) (first : Nat) (raw : List Char)
    (rest : List (List Char)) :
    (ofLines shutterOpen first (raw :: rest)).steps =
      (ofLine shutterOpen first (Text.trim raw) (Line.classify (Text.trim raw))).steps ++
        (ofLines (shutterAfter shutterOpen (Line.classify (Text.trim raw)))
          (first + 1) rest).steps :=
  rfl

/-- A step that a line yields has the number of the line and the state of the
    shutter before it. -/
theorem Reading.of_mem_steps_ofLine {shutterOpen : Bool} {number : Nat} {line : List Char}
    {kind : Line} {s : Step} (hs : s ∈ (ofLine shutterOpen number line kind).steps) :
    s.command.lineNumber = number ∧ s.shutterOpen = shutterOpen := by
  cases kind with
  | blank | skip _ | shutter _ => exact absurd hs List.not_mem_nil
  | motion keyword =>
    rw [ofLine] at hs
    split at hs
    · next c hc =>
      rw [List.mem_singleton.1 hs]
      exact ⟨lineNumber_of_command? hc, rfl⟩
    · exact absurd hs List.not_mem_nil

theorem Reading.le_lineNumber_of_mem_ofLines {shutterOpen : Bool} {first : Nat}
    {lines : List (List Char)} {s : Step} (hs : s ∈ (ofLines shutterOpen first lines).steps) :
    first ≤ s.command.lineNumber := by
  have hmem : s.command.lineNumber ∈
      Fate.numbers first lines (Program.ofReading (ofLines shutterOpen first lines)) .command :=
    List.mem_map.2 ⟨s.command, List.mem_map.2 ⟨s, hs, rfl⟩, rfl⟩
  exact (List.mem_range'_1.1 (Fate.numbers_subset shutterOpen first lines .command hmem)).1

/-- Every step is carried out in the state of the shutter that the last line about
    it before the line of its command set. -/
theorem Reading.shutterOpen_of_mem_ofLines {shutterOpen : Bool} {first : Nat}
    {lines : List (List Char)} {s : Step} (hs : s ∈ (ofLines shutterOpen first lines).steps) :
    s.shutterOpen =
      (Line.lastToggle? (lines.take (s.command.lineNumber - first))).getD shutterOpen := by
  induction lines generalizing shutterOpen first with
  | nil => exact absurd hs List.not_mem_nil
  | cons raw rest ih =>
    rw [steps_ofLines_cons, List.mem_append] at hs
    rcases hs with hs | hs
    · -- No line comes before the first one.
      obtain ⟨hnumber, hopen⟩ := of_mem_steps_ofLine hs
      rw [hnumber, hopen, Nat.sub_self]
      rfl
    · -- The first line hands on its state to the ones after it.
      have hle := le_lineNumber_of_mem_ofLines hs
      have htake : s.command.lineNumber - first = s.command.lineNumber - (first + 1) + 1 := by omega
      rw [htake, List.take_succ_cons, Line.lastToggle?_cons_getD]
      exact ih hs

theorem Reading.append_assoc (r s t : Reading) : r ++ s ++ t = r ++ (s ++ t) := by
  change mk (r.steps ++ s.steps ++ t.steps) (r.skipped ++ s.skipped ++ t.skipped)
    (r.events ++ s.events ++ t.events) = _
  rw [List.append_assoc, List.append_assoc, List.append_assoc]
  rfl

/-- Some lines are read alike whatever lines follow them, and hand on to those the
    state of the shutter and the number of the next line. -/
theorem Reading.ofLines_append (shutterOpen : Bool) (first : Nat)
    (before after : List (List Char)) :
    ofLines shutterOpen first (before ++ after) =
      ofLines shutterOpen first before ++
        ofLines ((Line.lastToggle? before).getD shutterOpen) (first + before.length) after := by
  induction before generalizing shutterOpen first with
  | nil => rfl
  | cons raw rest ih =>
    -- The state that the first line hands on is the one that `ih` starts from.
    rw [List.cons_append, ofLines_cons, ofLines_cons, ih, append_assoc,
      Line.lastToggle?_cons_getD, List.length_cons, Nat.add_assoc, Nat.add_comm 1]

theorem Reading.steps_ofLines_append (shutterOpen : Bool) (first : Nat)
    (before after : List (List Char)) :
    (ofLines shutterOpen first (before ++ after)).steps =
      (ofLines shutterOpen first before).steps ++
        (ofLines ((Line.lastToggle? before).getD shutterOpen)
          (first + before.length) after).steps :=
  congrArg steps (ofLines_append shutterOpen first before after)

/-- Some lines yield the same steps whatever stands in a comment, a header or a
    control line among them. -/
theorem Reading.steps_ofLines_of_isSilent (shutterOpen : Bool) (first : Nat)
    (before after : List (List Char)) {raw : List Char} (h : Line.isSilent (Text.trim raw)) :
    (ofLines shutterOpen first (before ++ raw :: after)).steps =
      (ofLines shutterOpen first (before ++ [] :: after)).steps := by
  obtain ⟨reason, hreason⟩ := Line.classify_of_isSilent h
  rw [steps_ofLines_append, steps_ofLines_append, steps_ofLines_cons, steps_ofLines_cons, hreason]
  rfl

/-- The state of the shutter of every command is the one that the last line about
    the shutter before its own line set, and closed if there is none. A comment, a
    header or a control line might as well be blank, and lines have no effect on
    the steps before them. -/
theorem flags_ofText (text : String) :
    let lines := Text.lines text.toList
    let p := Program.ofText text
    p.flags = p.commands.map (fun c =>
      (Line.lastToggle? (lines.take (c.lineNumber - 1))).getD false) ∧
    (∀ before raw after, lines = before ++ raw :: after → Line.isSilent (Text.trim raw) →
      p.steps = (Program.ofLines (before ++ [] :: after)).steps) ∧
    ∀ before after, lines = before ++ after → (Program.ofLines before).steps <+: p.steps := by
  intro lines p
  refine ⟨?_, fun before raw after hlines hsilent => ?_, fun before after hlines => ?_⟩
  · rw [Program.flags, Program.commands, List.map_map]
    exact List.map_congr_left fun s hs => Reading.shutterOpen_of_mem_ofLines hs
  · have hsteps := Reading.steps_ofLines_of_isSilent false 1 before after hsilent
    rwa [← hlines] at hsteps
  · have hsteps := Reading.steps_ofLines_append false 1 before after
    rw [← hlines] at hsteps
    exact ⟨_, hsteps.symm⟩

/-- A comment that mentions the shutter does not open it, and a line that opens it
    does so for later steps only. -/
theorem steps_ofText_comment :
    (Program.ofText "PTP (X,Y),1,2\n! SHUTTEROPEN\nSHUTTEROPEN").steps =
        (Program.ofLines ["PTP (X,Y),1,2".toList, [], "SHUTTEROPEN".toList]).steps ∧
      (Program.ofLines ["PTP (X,Y),1,2".toList]).steps <+:
        (Program.ofText "PTP (X,Y),1,2\n! SHUTTEROPEN\nSHUTTEROPEN").steps :=
  ⟨(flags_ofText _).2.1 ["PTP (X,Y),1,2".toList] "! SHUTTEROPEN".toList ["SHUTTEROPEN".toList]
      (by decide) (by decide),
    (flags_ofText _).2.2 ["PTP (X,Y),1,2".toList] ["! SHUTTEROPEN".toList, "SHUTTEROPEN".toList]
      (by decide)⟩

end JetPlot
