import JetPlot.CommandLine.Run

/-!
# The program

The outermost layer of the program. It looks up the files that the arguments
name, runs, and carries out what the run left behind. Everything else is decided
by `Arguments.read` and `Run.ofArguments`.
-/

namespace JetPlot.Console

/-- How the program is called. -/
def usage : String :=
  "Usage: prgview [--out PATH] [--width PX] [--height PX] [--line-width N] [--padding N] " ++
    "[--config PATH] [--stats] [--demo] [--log-format FORMAT] [PATH]"

/-- Reads a stream up to its end. -/
partial def readAll (stream : IO.FS.Stream) (content : ByteArray) : IO ByteArray := do
  let chunk ← stream.read 65536
  if chunk.isEmpty then return content else readAll stream (content ++ chunk)

/-- Where some steps lead to if everything on the way exists. -/
def place (l : Files.Location) (steps : List Files.PathStep) : Files.Location :=
  steps.foldl (fun l step => match step with | .into name => l ++ [name] | .up => l.dropLast) l

/-- The tree with the directories on the way to a file. -/
def addParents (t : Files.Tree) (p : Files.Path) : Files.Tree :=
  let parents := (List.range p.steps.length).map fun n => place (t.start p) (p.steps.take n)
  { t with directories := parents ++ t.directories }

/-- The tree with what there is at a path. -/
def look (t : Files.Tree) (p : Files.Path) : IO Files.Tree := do
  let l := place (t.start p) p.steps
  try
    return (addParents t p).put l (← IO.FS.readBinFile p.text)
  catch
  | .noFileOrDirectory .. => return t
  | _ => return { t with directories := l :: t.directories }

/-- The usual settings file. -/
def usualSettings : IO Files.Path := do
  match ← IO.getEnv "XDG_CONFIG_HOME" with
  | some directory => return Run.usualSettings directory
  | none => return Run.usualSettings ((← IO.getEnv "HOME").getD "" ++ "/.config")

/-- A log record as a line. -/
def logLine (format : Log.Format) (r : Log.Record) : String :=
  match format with
  | .text => s!"{r.level.text} {r.source.text}: {r.message}"
  | .json =>
    Json.compactText (.ofEntries [("level", .ofString r.level.text),
      ("target", .ofString r.source.text), ("message", .ofString r.message)])

/-- Whether a record is of interest to a user. -/
def isShown (r : Log.Record) : Bool := r.level = .info || r.level = .warn

/-- Carries out what a run left behind. -/
def finish (a : Arguments) (r : Run) : IO UInt32 := do
  for record in r.log.filter isShown do
    IO.eprintln (logLine (a.logFormat.getD .text) record)
  match r.result with
  | .error fault =>
    IO.eprintln ("Error: " ++ fault.text)
    return 1
  | .ok _ =>
    if let some p := a.out then
      if let .ok content := r.files.read p then
        IO.FS.writeBinFile p.text content
    IO.print r.stdout
    IO.eprint r.stderr
    return 0

/-- Runs the program with the given arguments. -/
def render (a : Arguments) : IO UInt32 := do
  let usual ← usualSettings
  let fromStream := !a.demo && (a.input.isNone || a.input = some "-")
  let named := [a.config.getD usual] ++ (a.input.map Files.Path.mk).toList ++ a.out.toList
  let empty : Files.Tree := ⟨[], [], ["."]⟩
  let t ← named.foldlM look ((a.out.map (addParents empty)).getD empty)
  let bytes ← if fromStream then readAll (← IO.getStdin) .empty else pure .empty
  match String.fromUTF8? bytes with
  | some stdin => finish a (Run.ofArguments a t usual stdin)
  | none =>
    IO.eprintln ("Error: " ++ SettingsFault.directoryText Files.Fault.notText.text)
    return 1

end JetPlot.Console

open JetPlot in
/-- The program. -/
def main (words : List String) : IO UInt32 := do
  match Arguments.read words with
  | .ok a => Console.render a
  | .error .help =>
    IO.println Console.usage
    return 0
  | .error .version =>
    IO.println ("prgview " ++ Run.version)
    return 0
  | .error _ =>
    IO.eprintln Console.usage
    return 2
