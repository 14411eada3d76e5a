/-!
# Log records

A log record says how important it is, which part of the library makes it, and
what happened. The parts describe what happens as events of their own types; a
record is the written form of an event.
-/

namespace JetPlot.Log

/-- How important a record is. -/
inductive Level
  /-- Every single step. -/
  | trace
  /-- The beginning and the result of a task. -/
  | debug
  /-- What a user wants to know. -/
  | info
  /-- Something is not as it should be. -/
  | warn
  deriving DecidableEq

/-- The written form of a level. -/
def Level.text : Level → String
  | trace => "TRACE"
  | debug => "DEBUG"
  | info => "INFO"
  | warn => "WARN"

/-- The part of the library that makes a record. -/
inductive Source
  /-- The reader of program texts. -/
  | reader
  /-- The tracer of toolpaths. -/
  | toolpath
  /-- The fitting of viewports. -/
  | viewport
  /-- The writer of SVG documents. -/
  | markup
  /-- The settings files. -/
  | settings
  /-- The command line. -/
  | commandLine
  deriving DecidableEq

/-- The written form of a source. -/
def Source.text : Source → String
  | reader => "prgview_visualizer::prg::parser"
  | toolpath => "prgview_visualizer::visualizer::toolpath"
  | viewport => "prgview_visualizer::visualizer::viewport"
  | markup => "prgview_visualizer::visualizer::svg"
  | settings => "prgview_settings::config"
  | commandLine => "prgview::cli"

/-- A log record. -/
structure Record where
  /-- How important it is. -/
  level : Level
  /-- The part of the library that makes it. -/
  source : Source
  /-- What happened. -/
  message : String
  deriving DecidableEq

/-- The form of log lines. -/
inductive Format
  /-- One line of text for each record. -/
  | text
  /-- One JSON object for each record. -/
  | json
  deriving DecidableEq

/-- A logger is there already. -/
inductive InstallFault
  /-- A process has one logger at most. -/
  | alreadyInstalled
  deriving DecidableEq

/-- The fault in words. -/
def InstallFault.text : InstallFault → String
  | alreadyInstalled => "Failed to install the logging subscriber"

/-- Installs a logger with the given format, unless there is one. -/
def install (installed : Option Format) (format : Format) : Except InstallFault Format :=
  if installed.isSome then .error .alreadyInstalled else .ok format

end JetPlot.Log
