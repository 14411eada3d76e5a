import JetPlot.Files.Tree
import JetPlot.Log
import JetPlot.Settings.Codec

/-!
# Settings files

Settings are checked whenever they are read or written, so that a settings file
never holds values out of range. A file is only read or written if its extension
tells its format. Saving makes the directories on the way to the file, but only
after everything else has been checked.
-/

namespace JetPlot

/-- Why settings cannot be loaded or saved. -/
inductive SettingsFault
  /-- The file cannot be read. -/
  | unreadable (path : Files.Path) (fault : Files.Fault)
  /-- The file cannot be written. -/
  | unwritable (path : Files.Path) (fault : Files.Fault)
  /-- The directory of the file cannot be made. -/
  | directory (fault : Files.Fault)
  /-- A value is out of range. -/
  | invalid (fault : OptionFault)
  /-- The extension stands for no format. -/
  | format (fault : Settings.FormatFault)
  /-- The text is not of its format, or a value is not of its type. -/
  | malformed (format : Settings.Format)
  deriving DecidableEq

/-- A file that cannot be read. -/
def Files.readingText (path detail : String) : String := "Failed to read " ++ path ++ ": " ++ detail

/-- A file that cannot be written. -/
def Files.writingText (path detail : String) : String :=
  "Failed to write " ++ path ++ ": " ++ detail

namespace SettingsFault

/-- The wording for settings that cannot be loaded. -/
def loadText (detail : String) : String := "Failed to load settings: " ++ detail

/-- The wording for settings that cannot be saved. -/
def saveText (detail : String) : String := "Failed to save settings: " ++ detail

/-- The wording for an extension that stands for no format. -/
def formatText (detail : String) : String := "Unsupported config format: " ++ detail

/-- The wording for a directory that cannot be made, and for any other fault of the
    file system. -/
def directoryText (detail : String) : String := "I/O error: " ++ detail

/-- The kind of a fault. -/
def kind : SettingsFault → String
  | unreadable .. => "LoadError"
  | unwritable .. => "SaveError"
  | directory _ => "Io"
  | invalid _ => "InvalidSetting"
  | format _ => "UnsupportedFormat"
  | malformed .json => "Json"
  | malformed .toml => "TomlDe"

/-- A fault in words; for a text that is not of its format, only its kind. -/
def text : SettingsFault → String
  | unreadable path fault => loadText (Files.readingText path.text fault.text)
  | unwritable path fault => saveText (Files.writingText path.text fault.text)
  | directory fault => directoryText fault.text
  | invalid fault => fault.settingText
  | format fault => formatText fault.detail
  | malformed f => kind (malformed f)

end SettingsFault

namespace Settings

/-- What happens to settings files. -/
inductive Event
  /-- Settings were loaded. -/
  | loaded (path : Files.Path)
  /-- Settings were saved. -/
  | saved (path : Files.Path)
  /-- There is no settings file to load. -/
  | defaults
  deriving DecidableEq

/-- An event in words. -/
def Event.message : Event → String
  | loaded path => "Loaded settings from " ++ path.text
  | saved path => "Saved settings to " ++ path.text
  | defaults => "No config file found, using default settings"

/-- The log record of an event. -/
def Event.record (e : Event) : Log.Record := ⟨.debug, .settings, e.message⟩

/-- Checks that settings are in range. -/
def check (o : Options) : Except SettingsFault Unit := o.check.mapError .invalid

/-- Loads settings from a file. -/
def load (t : Files.Tree) (p : Files.Path) : Except SettingsFault (Options × Event) := do
  let f ← (Format.ofPath p).mapError SettingsFault.format
  let text ← (t.readText p).mapError (SettingsFault.unreadable p)
  match decode? f text with
  | none => .error (.malformed f)
  | some o => do
    check o
    return (o, .loaded p)

/-- Loads settings from the given file, or else from the file at the usual place if
    there is one. -/
def loadOrDefault (t : Files.Tree) (usual : Files.Path) :
    Option Files.Path → Except SettingsFault (Options × Event)
  | some p => load t p
  | none => if t.isFile usual then load t usual else .ok (.default, .defaults)

/-- Tries to save settings to a file. -/
def trySave (t : Files.Tree) (p : Files.Path) (o : Options) : Files.Attempt SettingsFault :=
  match check o with
  | .error fault => .refused t fault
  | .ok () =>
    match (Format.ofPath p).mapError SettingsFault.format with
    | .error fault => .refused t fault
    | .ok f =>
      ((t.attemptParents p).mapError SettingsFault.directory).andThen fun t =>
        (t.writeText p (encode f o)).mapError (SettingsFault.unwritable p)

/-- Saves settings to a file. -/
def save (t : Files.Tree) (p : Files.Path) (o : Options) :
    Except SettingsFault (Files.Tree × Event) :=
  (trySave t p o).tree.map fun t => (t, .saved p)

end Settings

end JetPlot
