import JetPlot.Proofs.Reading.Shutter
import JetPlot.Proofs.Text.Lines

/-!
# Texts one below the other

If a text is continued on a new line, what is read from it stays as it is, and what follows
is read as on its own, but in the state in which the text leaves the shutter, and further
down: all numbers of lines grow by the same amount (`Reading.movedDown`).

* `ofLines_movedDown`: lines are read alike further down, but for their numbers;
* `ofLines_newline`: it does not matter whether the last line of a text is ended;
* `ofText_append`: what is read from a text and its continuation.
-/

namespace JetPlot

/-! ## Further down -/

/-- The command, if its line stands further down. -/
def Command.movedDown (n : Nat) (c : Command) : Command :=
  { c with lineNumber := c.lineNumber + n }

/-- The command without the number of its line. -/
def Command.unnumbered (c : Command) : Command := { c with lineNumber := 0 }

/-- The step, if the line of its command stands further down. -/
def Step.movedDown (n : Nat) (s : Step) : Step := { s with command := s.command.movedDown n }

/-- The skipped line, if it stands further down. -/
def SkippedLine.movedDown (n : Nat) (s : SkippedLine) : SkippedLine :=
  { s with number := s.number + n }

/-- What happens if the line stands further down. -/
def ReadingEvent.movedDown (n : Nat) : ReadingEvent → ReadingEvent
  | skipped number reason => skipped (number + n) reason
  | shutter number opens => shutter (number + n) opens
  | command number c => command (number + n) (c.movedDown n)
  | pointMissing number keyword => pointMissing (number + n) keyword

namespace Reading

/-- What lines yield if they stand further down. -/
def movedDown (n : Nat) (r : Reading) : Reading :=
  ⟨r.steps.map (Step.movedDown n), r.skipped.map (SkippedLine.movedDown n),
    r.events.map (ReadingEvent.movedDown n)⟩

theorem movedDown_append (n : Nat) (r s : Reading) :
    (r ++ s).movedDown n = r.movedDown n ++ s.movedDown n := by
  change mk _ _ _ = mk _ _ _
  rw [steps_append, skipped_append, events_append, List.map_append, List.map_append,
    List.map_append]
  rfl

variable (shutterOpen : Bool) (number first n : Nat)

theorem command?_movedDown (keyword : Keyword) (line : List Char) :
    command? (number + n) keyword line =
      (command? number keyword line).map (Command.movedDown n) := by
  simp only [command?]
  cases (Parameters.read line).point <;> cases keyword <;> rfl

theorem ofLine_movedDown (line : List Char) (kind : Line) :
    ofLine shutterOpen (number + n) line kind =
      (ofLine shutterOpen number line kind).movedDown n := by
  cases kind with
  | blank | skip reason | shutter opens => rfl
  | motion keyword =>
    rw [ofLine, ofLine, command?_movedDown]
    cases command? number keyword line <;> rfl

/-- Lines are read alike further down, but for their numbers. -/
theorem ofLines_movedDown (lines : List (List Char)) :
    ofLines shutterOpen (first + n) lines = (ofLines shutterOpen first lines).movedDown n := by
  induction lines generalizing shutterOpen first with
  | nil => rfl
  | cons raw rest ih =>
    rw [ofLines_cons, ofLines_cons, movedDown_append, ofLine_movedDown, Nat.add_right_comm, ih]

/-! ## The last line -/

variable (before : List (List Char))

/-- An empty line at the end adds nothing. -/
theorem ofLines_concat_nil :
    ofLines shutterOpen first (before ++ [[]]) = ofLines shutterOpen first before := by
  rw [ofLines_append]
  change mk (_ ++ []) (_ ++ []) (_ ++ []) = _
  rw [List.append_nil, List.append_nil, List.append_nil]

/-- White space around the last line does not count. -/
theorem ofLines_concat_congr {raw line : List Char} (h : Text.trim line = Text.trim raw) :
    ofLines shutterOpen first (before ++ [line]) = ofLines shutterOpen first (before ++ [raw]) := by
  rw [ofLines_append, ofLines_append, ofLines_cons, ofLines_cons, h]

/-- It does not matter whether the last line of a text is ended. -/
theorem ofLines_newline (cs : List Char) :
    ofLines shutterOpen first (Text.lines (cs ++ ['\n'])) =
      ofLines shutterOpen first (Text.lines cs) := by
  rcases Text.lines_newline cs with hlines | ⟨before, raw, line, hraw, hline, htrim⟩
  · rw [hlines, ofLines_concat_nil]
  · rw [hraw, hline, ofLines_concat_congr _ _ _ htrim]

end Reading

theorem Line.lastToggle?_concat (before : List (List Char)) (raw : List Char) :
    lastToggle? (before ++ [raw]) =
      (classify (Text.trim raw)).opens?.or (lastToggle? before) := by
  rw [lastToggle?, List.reverse_concat, List.findSome?_cons, lastToggle?]
  cases (classify (Text.trim raw)).opens? <;> rfl

theorem Line.lastToggle?_newline (cs : List Char) :
    lastToggle? (Text.lines (cs ++ ['\n'])) = lastToggle? (Text.lines cs) := by
  rcases Text.lines_newline cs with hlines | ⟨before, raw, line, hraw, hline, htrim⟩
  · rw [hlines, lastToggle?_concat]
    rfl
  · rw [hraw, hline, lastToggle?_concat, lastToggle?_concat, htrim]

/-! ## Programs -/

namespace Program

variable (r s : Reading) (n : Nat)

theorem commands_ofReading_append :
    (ofReading (r ++ s)).commands = (ofReading r).commands ++ (ofReading s).commands :=
  List.map_append

theorem flags_ofReading_append :
    (ofReading (r ++ s)).flags = (ofReading r).flags ++ (ofReading s).flags :=
  List.map_append

theorem commands_movedDown :
    (ofReading (r.movedDown n)).commands = (ofReading r).commands.map (Command.movedDown n) := by
  change (r.steps.map (Step.movedDown n)).map Step.command =
    (r.steps.map Step.command).map (Command.movedDown n)
  rw [List.map_map, List.map_map]
  rfl

/-- Further down, the shutter is in the same states. -/
theorem flags_movedDown : (ofReading (r.movedDown n)).flags = (ofReading r).flags := by
  change (r.steps.map (Step.movedDown n)).map Step.shutterOpen = r.steps.map Step.shutterOpen
  rw [List.map_map]
  rfl

end Program

/-- The program of a text that is continued on a new line. Its steps and its skipped lines
    are those of the text, whatever the continuation, and behind them those of the lines of
    the continuation. These are read in the state in which the last line about the shutter
    leaves it in the text, and their numbers grow by the number of lines above. -/
theorem ofText_append (a b : String) :
    Program.ofText (a ++ "\n" ++ b) =
      let n := (Text.lines (a ++ "\n").toList).length
      let shutterOpen := (Line.lastToggle? (Text.lines a.toList)).getD false
      let below := Program.ofReading (Reading.ofLines shutterOpen 1 (Text.lines b.toList))
      { steps := (Program.ofText a).steps ++ below.steps.map (Step.movedDown n)
        skipped := (Program.ofText a).skipped ++ below.skipped.map (SkippedLine.movedDown n) } := by
  have hends : Text.endsLine (a.toList ++ ['\n']) := Text.endsLine_concat
  have htext : (a ++ "\n").toList = a.toList ++ ['\n'] := String.toList_append
  have hreading : Reading.ofText (a ++ "\n" ++ b) = Reading.ofText a ++
      (Reading.ofLines ((Line.lastToggle? (Text.lines a.toList)).getD false) 1
        (Text.lines b.toList)).movedDown (Text.lines (a ++ "\n").toList).length := by
    rw [Reading.ofText, String.toList_append, htext, Text.lines_append hends,
      Reading.ofLines_append, Reading.ofLines_newline, Line.lastToggle?_newline,
      Reading.ofLines_movedDown]
    rfl
  exact congrArg Program.ofReading hreading

end JetPlot
