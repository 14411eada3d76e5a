import JetPlot.Program.Command

/-!
# Programs

A program is a list of steps. Each step is a command together with the state of
the shutter in which it is carried out: material is only printed while the
shutter is open. A program that was read from a text also knows the lines that
it skipped, and why.
-/

namespace JetPlot

/-- Why a line that is not blank holds no command. -/
inductive SkipReason
  /-- The line is a comment. -/
  | comment
  /-- The line is a program header. -/
  | header
  /-- The line begins with a word that controls the run of the program. -/
  | control (word : String)
  /-- The line begins with a motion keyword, but has no readable point. -/
  | missingPoint (keyword : Keyword)
  /-- The line begins with no known word. -/
  | unrecognized
  deriving DecidableEq

/-- The reason in words. -/
def SkipReason.text : SkipReason → String
  | comment => "comment"
  | header => "program header"
  | control word => "control keyword " ++ word
  | missingPoint keyword => keyword.text ++ " without (X,Y) point"
  | unrecognized => "unrecognized"

/-- A line that holds no command. -/
structure SkippedLine where
  /-- The number of the line, counted from one. -/
  number : Nat
  /-- Why the line was skipped. -/
  reason : SkipReason
  deriving DecidableEq

/-- A command with the state of the shutter in which it is carried out. -/
structure Step where
  /-- The command. -/
  command : Command
  /-- Whether the shutter is open. -/
  shutterOpen : Bool
  deriving DecidableEq

/-- A motion program. -/
structure Program where
  /-- The commands in the order in which they are carried out. -/
  steps : List Step
  /-- The lines without a command. -/
  skipped : List SkippedLine
  deriving DecidableEq

/-- Lists of commands and of shutter states that do not pair up. -/
structure LengthMismatch where
  /-- The number of commands. -/
  commands : Nat
  /-- The number of shutter states. -/
  flags : Nat
  deriving DecidableEq

/-- The mismatch in words. -/
def LengthMismatch.text (m : LengthMismatch) : String :=
  s!"Program has {m.commands} commands but {m.flags} shutter flags"

namespace Program

/-- The program without any step. -/
def empty : Program := ⟨[], []⟩

/-- Pairs commands with shutter states, one by one. -/
def ofParts (commands : List Command) (flags : List Bool) : Except LengthMismatch Program :=
  if commands.length = flags.length then .ok ⟨commands.zipWith Step.mk flags, []⟩
  else .error ⟨commands.length, flags.length⟩

/-- The program with one more step at its end. -/
def push (p : Program) (s : Step) : Program := { p with steps := p.steps ++ [s] }

/-- The commands. -/
def commands (p : Program) : List Command := p.steps.map Step.command

/-- The states of the shutter, one for each command. -/
def flags (p : Program) : List Bool := p.steps.map Step.shutterOpen

/-- The points that the commands mention. -/
def points (p : Program) : List Point := p.steps.filterMap fun s => s.command.point

/-- The number of commands with the given keyword. -/
def count (p : Program) (k : Keyword) : Nat :=
  p.steps.countP fun s => s.command.keyword = k

end Program

end JetPlot
