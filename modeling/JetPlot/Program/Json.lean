import JetPlot.Json.Record
import JetPlot.Program.Basic

/-!
# Programs in JSON

A program is a record of its commands, the states of the shutter and the skipped
lines. The two lists have to be equally long; that is checked as soon as the
record is complete, before the end of the text is.
-/

namespace JetPlot

namespace Point

/-- A point as a record. -/
def toJson (p : Point) : Json := .ofEntries [("x", .ofFloat p.x), ("y", .ofFloat p.y)]

/-- Reads a point. -/
def ofJson? (j : Json) : Option Point := do
  let r ← Json.Record.read? ["x", "y"] 2 j
  return ⟨← r.get? "x" Json.float?, ← r.get? "y" Json.float?⟩

end Point

namespace Keyword

/-- The name of a keyword in JSON. -/
def name : Keyword → String
  | ptp => "Ptp"
  | line => "Line"
  | arc2 => "Arc2"
  | mseg => "Mseg"
  | ends => "Ends"

/-- A keyword as a choice. -/
def toJson (k : Keyword) : Json := .ofString k.name

/-- Reads a keyword. -/
def ofJson? (j : Json) : Option Keyword := do
  let (name, value) ← Json.choice? j
  let k ← all.find? fun k => k.name = name
  if Json.isBare value then some k else none

end Keyword

namespace Command

/-- A command as a record. -/
def toJson (c : Command) : Json :=
  .ofEntries [("kind", c.keyword.toJson), ("point", .ofOption Point.toJson c.point),
    ("angle", .ofOption .ofFloat c.angle), ("speed", .ofOption .ofFloat c.speed),
    ("line_number", .ofNat c.lineNumber)]

/-- Reads a command. -/
def ofJson? (j : Json) : Option Command := do
  let r ← Json.Record.read? ["kind", "point", "angle", "speed", "line_number"] 5 j
  return {
    keyword := ← r.get? "kind" Keyword.ofJson?
    point := ← r.getD? "point" none (Json.option? Point.ofJson?)
    angle := ← r.getD? "angle" none (Json.option? Json.float?)
    speed := ← r.getD? "speed" none (Json.option? Json.float?)
    lineNumber := ← r.get? "line_number" Json.nat? }

end Command

namespace SkipReason

/-- A reason as a choice. -/
def toJson : SkipReason → Json
  | comment => .ofString "Comment"
  | header => .ofString "Header"
  | control word => .ofEntries [("Control", .ofString word)]
  | missingPoint keyword => .ofEntries [("MissingPoint", keyword.toJson)]
  | unrecognized => .ofString "Unrecognized"

/-- Reads a reason. -/
def ofJson? (j : Json) : Option SkipReason := do
  let (name, value) ← Json.choice? j
  match name, value with
  | "Control", some value => (Json.string? value).map control
  | "MissingPoint", some value => (Keyword.ofJson? value).map missingPoint
  | "Comment", value => if Json.isBare value then some comment else none
  | "Header", value => if Json.isBare value then some header else none
  | "Unrecognized", value => if Json.isBare value then some unrecognized else none
  | _, _ => none

end SkipReason

namespace SkippedLine

/-- A skipped line as a record. -/
def toJson (l : SkippedLine) : Json :=
  .ofEntries [("line_number", .ofNat l.number), ("reason", l.reason.toJson)]

/-- Reads a skipped line. -/
def ofJson? (j : Json) : Option SkippedLine := do
  let r ← Json.Record.read? ["line_number", "reason"] 2 j
  return ⟨← r.get? "line_number" Json.nat?, ← r.get? "reason" SkipReason.ofJson?⟩

end SkippedLine

/-- Why a text is no program in JSON. -/
inductive ProgramFault
  /-- The text is no JSON, or not of the right shape. -/
  | malformed
  /-- The commands and the states of the shutter do not pair up. -/
  | unpaired (mismatch : LengthMismatch)
  deriving DecidableEq

namespace Program

/-- A program as a record. -/
def toJson (p : Program) : Json :=
  .ofEntries [("commands", .ofList Command.toJson p.commands),
    ("shutter_flags", .ofList .bool p.flags),
    ("skipped", .ofList SkippedLine.toJson p.skipped)]

/-- Reads the commands, the states of the shutter and the skipped lines. -/
def partsOfJson? (j : Json) : Option (List Command × List Bool × List SkippedLine) := do
  let r ← Json.Record.read? ["commands", "shutter_flags", "skipped"] 2 j
  let commands ← r.get? "commands" (Json.list? Command.ofJson?)
  let flags ← r.get? "shutter_flags" (Json.list? Json.bool?)
  let skipped ← r.getD? "skipped" [] (Json.list? SkippedLine.ofJson?)
  return (commands, flags, skipped)

/-- Reads a program from a text. -/
def ofJsonText (text : String) : Except ProgramFault Program :=
  match Json.split? text.toList with
  | none => .error .malformed
  | some (j, rest) =>
    match partsOfJson? j with
    | none => .error .malformed
    | some (commands, flags, skipped) =>
      match ofParts commands flags with
      | .error mismatch => .error (.unpaired mismatch)
      | .ok p => if rest = [] then .ok { p with skipped } else .error .malformed

end Program

end JetPlot
