import JetPlot.Files.Path

/-!
# Formats of settings files

The extension of a settings file tells its format, in upper or lower case.
-/

namespace JetPlot.Settings

/-- The format of a settings file. -/
inductive Format
  /-- JSON. -/
  | json
  /-- TOML. -/
  | toml
  deriving DecidableEq

/-- An extension that stands for no format. -/
inductive FormatFault
  /-- The extension is unknown. -/
  | unknown (extension : String)
  /-- There is no extension. -/
  | missing (path : Files.Path)
  deriving DecidableEq

/-- What is wrong with the extension. -/
def FormatFault.detail : FormatFault → String
  | unknown extension => extension
  | missing path => path.text ++ " has no extension, expected .json or .toml"

/-- The format of the file at a path. -/
def Format.ofPath (p : Files.Path) : Except FormatFault Format :=
  match p.extension? with
  | none => .error (.missing p)
  | some extension =>
    let lower := extension.toList.map Char.toLower
    if lower = "json".toList then .ok .json
    else if lower = "toml".toList then .ok .toml
    else .error (.unknown extension)

end JetPlot.Settings
