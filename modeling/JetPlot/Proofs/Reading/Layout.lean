import JetPlot.Proofs.Reading.Joining

/-!
# Layouts of a text

The same lines can be laid out in many ways (`Text.layout`): with white space in front of and
behind each of them (`Text.PaddedLine`), parted by newlines or by carriage returns and newlines
(`Text.Break`), with or without a break behind the last one. What is read does not depend on it.

* `PaddedLine.trim_chars`: white space at both ends of a line is taken off;
* `ofLines_layout`: however lines are laid out, the same is read as from the bare lines;
* `ofText_layout`: a text stands for the same program in every layout.
-/

namespace JetPlot

namespace Text

/-- What parts a line from the next one. -/
inductive Break
  /-- A newline. -/
  | newline
  /-- A carriage return and a newline. -/
  | returnNewline

/-- The characters of a break. -/
def Break.chars : Break → List Char
  | newline => ['\n']
  | returnNewline => ['\r', '\n']

/-- Whether characters are white space that holds no newline, though maybe carriage returns. -/
def IsPadding (cs : List Char) : Prop := ∀ c ∈ cs, isBlank c ∧ c ≠ '\n'

/-- A line as it is laid out. -/
structure PaddedLine where
  /-- The white space in front of the line. -/
  before : List Char
  /-- The line. -/
  line : List Char
  /-- The white space behind the line. -/
  after : List Char
  /-- The break that parts the line from the next one, if there is a next one. -/
  ending : Break
  isPadding_before : IsPadding before
  isPadding_after : IsPadding after
  newline_not_mem : '\n' ∉ line

namespace PaddedLine

/-- The line with the white space around it. -/
def chars (l : PaddedLine) : List Char := l.before ++ l.line ++ l.after

/-- The line without any white space around it, in front of a newline. -/
def bare (l : PaddedLine) : PaddedLine where
  before := []
  line := l.line
  after := []
  ending := .newline
  isPadding_before := List.forall_mem_nil _
  isPadding_after := List.forall_mem_nil _
  newline_not_mem := l.newline_not_mem

theorem chars_bare (l : PaddedLine) : l.bare.chars = l.line := List.append_nil _

end PaddedLine

/-- Lines one below the other, each parted from the next one by its own break, and with the given
    break behind the last one, if any. -/
def layout (final : Option Break) : List PaddedLine → List Char
  | [] => final.elim [] Break.chars
  | [l] => l.chars ++ final.elim [] Break.chars
  | l :: next :: rest => l.chars ++ l.ending.chars ++ layout final (next :: rest)

/-! ## One line -/

theorem trim_append_of_blank {blanks : List Char} (h : ∀ c ∈ blanks, isBlank c) (cs : List Char) :
    trim (cs ++ blanks) = trim cs := by
  induction blanks generalizing cs with
  | nil => rw [List.append_nil]
  | cons c blanks ih =>
    obtain ⟨hc, hblanks⟩ := List.forall_mem_cons.1 h
    rw [List.append_cons, ih hblanks, trim_concat hc]

theorem trim_blank_append {blanks : List Char} (h : ∀ c ∈ blanks, isBlank c) (cs : List Char) :
    trim (blanks ++ cs) = trim cs := by
  have hskip : skipBlanks (blanks ++ cs) = skipBlanks cs := List.dropWhile_append_of_pos h
  rw [trim, hskip, trim]

namespace PaddedLine

variable (l : PaddedLine)

/-- White space at both ends of a line is taken off. -/
theorem trim_chars : trim l.chars = trim l.line := by
  rw [chars, trim_append_of_blank fun c hc => (l.isPadding_after c hc).1,
    trim_blank_append fun c hc => (l.isPadding_before c hc).1]

theorem newline_not_mem_chars : '\n' ∉ l.chars := by
  rw [chars, List.mem_append, List.mem_append]
  rintro ((hbefore | hline) | hafter)
  · exact (l.isPadding_before _ hbefore).2 rfl
  · exact l.newline_not_mem hline
  · exact (l.isPadding_after _ hafter).2 rfl

/-- A line in front of a break is one line, which is the same when trimmed. -/
theorem exists_lines_chars_append (b : Break) :
    ∃ raw, lines (l.chars ++ b.chars) = [raw] ∧ trim raw = trim l.line := by
  rw [← l.trim_chars]
  cases b with
  | newline => exact exists_lines_concat_newline l.newline_not_mem_chars
  | returnNewline =>
    -- The carriage return is white space behind the line, if it is not taken for a part of the
    -- break.
    have hmem : '\n' ∉ l.chars ++ ['\r'] := by
      rw [List.mem_append, List.mem_singleton]
      exact not_or.2 ⟨l.newline_not_mem_chars, by decide⟩
    obtain ⟨raw, hraw, htrim⟩ := exists_lines_concat_newline hmem
    rw [List.append_assoc] at hraw
    exact ⟨raw, hraw, htrim.trans (trim_concat (by decide) l.chars)⟩

end PaddedLine

theorem Break.endsLine_append (b : Break) (cs : List Char) : endsLine (cs ++ b.chars) := by
  cases b with
  | newline => exact endsLine_concat
  | returnNewline =>
    rw [chars, List.append_cons]
    exact endsLine_concat

/-- The text of lines that are not laid out in any particular way. -/
theorem layout_bare (ls : List PaddedLine) :
    layout none (ls.map PaddedLine.bare) = ['\n'].intercalate (ls.map PaddedLine.line) := by
  induction ls with
  | nil => rfl
  | cons l ls ih =>
    cases ls with
    | nil => simp [layout, PaddedLine.chars_bare]
    | cons next rest =>
      simp only [List.map_cons] at ih ⊢
      rw [layout, ih, PaddedLine.chars_bare, List.intercalate_cons_cons]
      rfl

end Text

/-! ## Reading -/

namespace Reading

variable (shutterOpen : Bool) (first : Nat)

/-- White space around a line does not count. -/
theorem ofLines_cons_congr {raw line : List Char} (h : Text.trim raw = Text.trim line)
    (rest : List (List Char)) :
    ofLines shutterOpen first (raw :: rest) = ofLines shutterOpen first (line :: rest) := by
  rw [ofLines_cons, ofLines_cons, h]

/-- However lines are laid out, the same is read as from the bare lines. -/
theorem ofLines_layout (final : Option Text.Break) (ls : List Text.PaddedLine) :
    ofLines shutterOpen first (Text.lines (Text.layout final ls)) =
      ofLines shutterOpen first (ls.map Text.PaddedLine.line) := by
  induction ls generalizing shutterOpen first with
  | nil =>
    -- A break on its own is a blank line.
    cases final with
    | none => rfl
    | some b => cases b <;> rfl
  | cons l ls ih =>
    cases ls with
    | nil =>
      cases final with
      | none =>
        rw [Text.layout, Option.elim_none, List.append_nil,
          Text.lines_of_not_mem l.newline_not_mem_chars]
        split
        · next hnil =>
          -- There is no line at all, and the bare line is blank.
          obtain ⟨-, hline, -⟩ : l.before = [] ∧ l.line = [] ∧ l.after = [] := by
            simpa [Text.PaddedLine.chars] using hnil
          rw [List.map_singleton, hline]
          rfl
        · exact ofLines_cons_congr _ _ l.trim_chars []
      | some b =>
        obtain ⟨raw, hraw, htrim⟩ := l.exists_lines_chars_append b
        rw [Text.layout, Option.elim_some, hraw]
        exact ofLines_cons_congr _ _ htrim []
    | cons next rest =>
      obtain ⟨raw, hraw, htrim⟩ := l.exists_lines_chars_append l.ending
      rw [Text.layout, Text.lines_append (l.ending.endsLine_append _), hraw, List.singleton_append,
        ofLines_cons_congr _ _ htrim, ofLines_cons, ih]
      rfl

end Reading

/-- A text stands for the same program in every layout: with any white space at the ends of its
    lines, carriage returns among it, with newlines or with carriage returns and newlines between
    them, and with or without either behind the last one. It is the program of the bare lines with
    newlines between them: the same commands and skipped lines, with the same numbers, in the same
    states of the shutter. -/
theorem ofText_layout (ls : List Text.PaddedLine) (final : Option Text.Break) :
    Program.ofText (String.ofList (Text.layout final ls)) =
      Program.ofText ("\n".intercalate (ls.map fun l => String.ofList l.line)) := by
  have hbare : ("\n".intercalate (ls.map fun l => String.ofList l.line)).toList =
      Text.layout none (ls.map Text.PaddedLine.bare) := by
    rw [Text.layout_bare, String.toList_intercalate]
    simp [Function.comp_def]
  have hreading : Reading.ofText (String.ofList (Text.layout final ls)) =
      Reading.ofText ("\n".intercalate (ls.map fun l => String.ofList l.line)) := by
    rw [Reading.ofText, Reading.ofText, hbare, String.toList_ofList, Reading.ofLines_layout,
      Reading.ofLines_layout, List.map_map]
    rfl
  exact congrArg Program.ofReading hreading

example : Program.ofText "\tARC2 (X,Y),1,2,0.5 \r\r\n\r\n\u3000ENDS;\r" =
    Program.ofText "ARC2 (X,Y),1,2,0.5\n\nENDS;" := by decide +kernel

end JetPlot
