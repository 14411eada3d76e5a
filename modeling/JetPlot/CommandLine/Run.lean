import JetPlot.CommandLine.Arguments
import JetPlot.Program.Demo
import JetPlot.Report
import JetPlot.Settings.Store

/-!
# Running the program

A run finds out the options, reads a program, renders it and writes the document.
Options come from the command line, then from a settings file, then from the
defaults, and are checked before anything is read. The document goes to a file or
to the standard output. If anything fails, nothing is written at all. The standard
input is given as a text, and the standard output and the standard error output are
taken to accept whatever is written to them.
-/

namespace JetPlot

/-- Why a run fails. -/
inductive RunFault
  /-- The settings cannot be loaded. -/
  | settings (fault : SettingsFault)
  /-- An option is out of range. -/
  | options (fault : OptionFault)
  /-- The program cannot be read. -/
  | input (path : Files.Path) (fault : Files.Fault)
  /-- The document cannot be written. -/
  | output (path : Files.Path) (fault : Files.Fault)
  deriving DecidableEq

/-- The fault in words, each cause behind what it leads to. -/
def RunFault.text : RunFault → String
  | settings fault => "Failed to load render settings <- " ++ fault.text
  | options fault => fault.settingText
  | input path fault => Files.readingText path.text fault.text
  | output path fault => Files.writingText path.text fault.text

/-- What a run leaves behind. -/
structure Run where
  /-- The report on the document, or why there is none. -/
  result : Except RunFault Report
  /-- What is written to the standard output. -/
  stdout : String
  /-- What is written to the standard error output. -/
  stderr : String
  /-- The files. -/
  files : Files.Tree
  /-- The log records. -/
  log : List Log.Record

namespace Run

/-- The version of the program. -/
def version : String := "0.3.0"

/-- The usual settings file below the directory for such files. -/
def usualSettings (directory : String) : Files.Path := ⟨directory ++ "/prgview/config.toml"⟩

/-- The options with those given on the command line instead. -/
def override (a : Arguments) (o : Options) : Options where
  width := a.width.getD o.width
  height := a.height.getD o.height
  lineThickness := a.lineWidth.getD o.lineThickness
  padding := a.padding.getD o.padding

/-- The options of a run, and what happened to the settings file, if anything. -/
def options (a : Arguments) (t : Files.Tree) (usual : Files.Path) :
    Except RunFault Options × List Log.Record :=
  match Settings.loadOrDefault t usual a.config with
  | .error fault => (.error (.settings fault), [])
  | .ok (loaded, event) =>
    let o := override a loaded
    (o.check.mapError .options |>.map fun () => o, [event.record])

/-- How numbers are written in log records on options: like in a program text, but
    with a point, and with an exponent if they are very large or very small. -/
def optionStyle : Style where
  tie := .away
  positional leading := -4 ≤ leading ∧ leading < 16
  pointed := true
  signedExponent := false

/-- What is logged about the options. -/
def optionsRecord (o : Options) : Log.Record :=
  ⟨.debug, .commandLine, "Render options: RenderOptions \x7b width: " ++ toString o.width.toNat ++
    ", height: " ++ toString o.height.toNat ++
    ", line_thickness: " ++ optionStyle.text o.lineThickness ++
    ", padding: " ++ optionStyle.text o.padding ++ " \x7d"⟩

/-- The text of the program to render. -/
def programText (a : Arguments) (t : Files.Tree) (stdin : String) : Except RunFault String :=
  if a.demo then .ok Program.demo
  else
    match a.input with
    | none => .ok stdin
    | some name =>
      if name = "-" then .ok stdin
      else (t.readText ⟨name⟩).mapError (.input ⟨name⟩)

/-- The standard output and the files after a document has been written. Only a file
    may refuse the document, for the standard output is taken never to fail. -/
def writeDocument (a : Arguments) (t : Files.Tree) (svg : String) :
    Except RunFault (String × Files.Tree) :=
  match a.out with
  | none => .ok (svg, t)
  | some path => ((t.writeText path svg).mapError (.output path)).map fun t => ("", t)

/-- The report as it is printed. -/
def reportText (a : Arguments) (r : Report) : String :=
  if a.stats then r.toJson.prettyText ++ "\n" else ""

/-- A run that fails without a trace but its log. -/
def failed (fault : RunFault) (t : Files.Tree) (log : List Log.Record) : Run :=
  ⟨.error fault, "", "", t, log⟩

/-- Writes what has been rendered, and then the report on it. -/
def deliver (a : Arguments) (t : Files.Tree) (rendered : Rendered) (log : List Log.Record) : Run :=
  match writeDocument a t rendered.svg with
  | .error fault => failed fault t log
  | .ok (stdout, files) =>
    let r := rendered.report
    ⟨.ok r, stdout, reportText a r, files, log ++ [⟨.info, .commandLine, r.summary⟩]⟩

/-- Runs the program with the given arguments, files, place of the settings file and
    standard input. -/
def ofArguments (a : Arguments) (t : Files.Tree) (usual : Files.Path) (stdin : String) : Run :=
  match options a t usual with
  | (.error fault, log) => failed fault t log
  | (.ok o, log) =>
    let log := log ++ [optionsRecord o]
    match programText a t stdin with
    | .error fault => failed fault t log
    | .ok text => deliver a t (Rendered.ofText text o) (log ++ Rendered.renderingLog text o)

end Run

end JetPlot
