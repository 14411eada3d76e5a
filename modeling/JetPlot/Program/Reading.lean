import JetPlot.Log
import JetPlot.Program.Line
import JetPlot.Program.Template

/-!
# Reading programs

A program text is read line by line. The only thing that a line hands on to the
next ones is the state of the shutter, which starts closed. Every line yields a
`Reading`: the step or the skipped line it stands for, and what there is to
report about it. The readings of the lines follow each other (`Reading.ofLines`),
and those of the whole text make up the program (`Program.ofText`). Reading never
fails: what cannot be read is skipped.
-/

namespace JetPlot

/-- What happens while a text is read. -/
inductive ReadingEvent
  /-- A line is skipped. -/
  | skipped (number : Nat) (reason : SkipReason)
  /-- A line opens or closes the shutter. -/
  | shutter (number : Nat) (opens : Bool)
  /-- A line holds a command. -/
  | command (number : Nat) (command : Command)
  /-- A motion line has no readable point. -/
  | pointMissing (number : Nat) (keyword : Keyword)
  deriving DecidableEq

namespace ReadingEvent

/-- The number of the line that an event is about. -/
def number : ReadingEvent → Nat
  | skipped number _ | shutter number _ | command number _ | pointMissing number _ => number

/-- An event in words. -/
def message : ReadingEvent → String
  | skipped number reason => s!"Line {number}: skipped ({reason.text})"
  | shutter number opens => s!"Line {number}: shutter " ++ if opens then "open" else "closed"
  | command number c => s!"Line {number}: {c.text}"
  | pointMissing number keyword => s!"Line {number}: {keyword.text} without point, dropped"

/-- The log record of an event. -/
def record (e : ReadingEvent) : Log.Record := ⟨.trace, .reader, e.message⟩

end ReadingEvent

/-- What some lines of a text yield. -/
structure Reading where
  /-- The steps of the program. -/
  steps : List Step
  /-- The skipped lines. -/
  skipped : List SkippedLine
  /-- What happened, in order. -/
  events : List ReadingEvent
  deriving DecidableEq

namespace Reading

/-- The reading of no lines. -/
def empty : Reading := ⟨[], [], []⟩

/-- One reading followed by another one. -/
def append (r s : Reading) : Reading :=
  ⟨r.steps ++ s.steps, r.skipped ++ s.skipped, r.events ++ s.events⟩

instance : Append Reading := ⟨append⟩

section append

variable (r s : Reading)

@[simp] theorem steps_append : (r ++ s).steps = r.steps ++ s.steps := rfl
@[simp] theorem skipped_append : (r ++ s).skipped = r.skipped ++ s.skipped := rfl
@[simp] theorem events_append : (r ++ s).events = r.events ++ s.events := rfl

end append

/-- The command of a motion line, if the parameters it needs are there. The third
    parameter is the angle of an arc and the speed of any other move. -/
def command? (number : Nat) (keyword : Keyword) (line : List Char) : Option Command :=
  let parameters := Parameters.read line
  match parameters.point, keyword with
  -- Only the end of a segment needs no point.
  | none, .ends => some ⟨.ends, none, none, none, number⟩
  | none, _ => none
  | some p, .arc2 => some ⟨.arc2, p, parameters.third, none, number⟩
  | some p, .ends => some ⟨.ends, p, none, none, number⟩
  | some p, k => some ⟨k, p, none, parameters.third, number⟩

/-- The reading of one trimmed line of the given kind. -/
def ofLine (shutterOpen : Bool) (number : Nat) (line : List Char) : Line → Reading
  | .blank => empty
  | .skip reason => ⟨[], [⟨number, reason⟩], [.skipped number reason]⟩
  | .shutter opens => ⟨[], [], [.shutter number opens]⟩
  | .motion keyword =>
    match command? number keyword line with
    | some c => ⟨[⟨c, shutterOpen⟩], [], [.command number c]⟩
    | none => ⟨[], [⟨number, .missingPoint keyword⟩], [.pointMissing number keyword]⟩

/-- The state of the shutter after a line of the given kind. -/
def shutterAfter (shutterOpen : Bool) : Line → Bool
  | .shutter opens => opens
  | _ => shutterOpen

/-- The reading of the lines from the given number on. -/
def ofLines (shutterOpen : Bool) (number : Nat) : List (List Char) → Reading
  | [] => empty
  | raw :: rest =>
    let line := Text.trim raw
    let kind := Line.classify line
    ofLine shutterOpen number line kind ++ ofLines (shutterAfter shutterOpen kind) (number + 1) rest

theorem ofLines_cons (shutterOpen : Bool) (number : Nat) (raw : List Char)
    (rest : List (List Char)) :
    ofLines shutterOpen number (raw :: rest) =
      ofLine shutterOpen number (Text.trim raw) (Line.classify (Text.trim raw)) ++
        ofLines (shutterAfter shutterOpen (Line.classify (Text.trim raw))) (number + 1) rest := rfl

/-- The reading of a text. -/
def ofText (text : String) : Reading := ofLines false 1 (Text.lines text.toList)

end Reading

namespace Program

/-- The program of a reading. -/
def ofReading (r : Reading) : Program := ⟨r.steps, r.skipped⟩

/-- The program that a text stands for. -/
def ofText (text : String) : Program := ofReading (Reading.ofText text)

/-- The number of commands with the given keyword, as `KEYWORD=number`. -/
def countText (p : Program) (k : Keyword) : String := s!"{k.text}={p.count k}"

/-- What is logged about the reading of a text. -/
def readingLog (text : String) : List Log.Record :=
  let reading := Reading.ofText text
  let program := ofReading reading
  let counts := ", ".intercalate (Keyword.all.map program.countText)
  [⟨.debug, .reader, s!"Starting PRG parse, input size: {text.utf8ByteSize} bytes"⟩] ++
    reading.events.map ReadingEvent.record ++
    [⟨.debug, .reader,
      s!"Parse complete: {counts}, skipped lines={program.skipped.length}"⟩]

end Program

end JetPlot
