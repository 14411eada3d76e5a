import JetPlot.Json.Record
import JetPlot.Options
import JetPlot.Settings.Format
import JetPlot.Toml.Reader

/-!
# The text of settings

Settings are the options of a picture, kept in a file. In either format every
option may be missing, and then has its default value; what else there is in the
file is passed over. The numbers of pixels are integers, the other options may be
written as integers too.
-/

namespace JetPlot.Settings

/-- The names of the settings in order. -/
def keys : List String := ["width", "height", "line_thickness", "padding"]

/-- A number of pixels. -/
def pixels? (n : Int) : Option UInt32 :=
  if 0 ≤ n ∧ n < UInt32.size then some (UInt32.ofNat n.toNat) else none

/-! ## JSON -/

/-- A JSON value as a number of pixels. -/
def jsonPixels? (j : Json) : Option UInt32 := j.nat?.bind fun n => pixels? n

/-- Reads settings from a JSON value. -/
def ofJson? (j : Json) : Option Options := do
  let r ← Json.Record.read? keys 0 j
  let d := Options.default
  return {
    width := ← r.getD? "width" d.width jsonPixels?
    height := ← r.getD? "height" d.height jsonPixels?
    lineThickness := ← r.getD? "line_thickness" d.lineThickness Json.float?
    padding := ← r.getD? "padding" d.padding Json.float? }

/-- Settings as a JSON value. -/
def toJson (o : Options) : Json :=
  .ofEntries [("width", .ofNat o.width.toNat), ("height", .ofNat o.height.toNat),
    ("line_thickness", .ofFloat o.lineThickness), ("padding", .ofFloat o.padding)]

/-! ## TOML -/

/-- A TOML value as a number of pixels. -/
def tomlPixels? : Toml → Option UInt32
  | .integer n => pixels? n
  | _ => none

/-- An integer as the nearest double. -/
def floatOfInt (n : Int) : Float := Decimal.toFloat ⟨n < 0, n.natAbs, 0⟩

/-- A TOML value as a double. -/
def tomlFloat? : Toml → Option Float
  | .float x => some x
  | .integer n => some (floatOfInt n)
  | _ => none

/-- Reads an entry of a table, with a default value if it is missing. -/
def tomlEntry? {α : Type} (entries : Toml.Entries) (key : String) (default : α)
    (read? : Toml → Option α) : Option α :=
  match entries.lookup key with
  | none => some default
  | some value => read? value

/-- Reads settings from a TOML table. -/
def ofToml? (entries : Toml.Entries) : Option Options := do
  let d := Options.default
  return {
    width := ← tomlEntry? entries "width" d.width tomlPixels?
    height := ← tomlEntry? entries "height" d.height tomlPixels?
    lineThickness := ← tomlEntry? entries "line_thickness" d.lineThickness tomlFloat?
    padding := ← tomlEntry? entries "padding" d.padding tomlFloat? }

/-- How numbers are written in TOML: without an exponent, but with a point. -/
def tomlStyle : Style := { Style.plain with pointed := true }

/-- A line of a TOML document. -/
def tomlLine (key value : String) : String := key ++ " = " ++ value ++ "\n"

/-- Settings as a TOML document. -/
def toTomlText (o : Options) : String :=
  tomlLine "width" (toString o.width.toNat) ++ tomlLine "height" (toString o.height.toNat) ++
    tomlLine "line_thickness" (tomlStyle.text o.lineThickness) ++
    tomlLine "padding" (tomlStyle.text o.padding)

/-! ## Either format -/

/-- Reads settings from a text. -/
def decode? (f : Format) (text : String) : Option Options :=
  match f with
  | .json => do
    let (j, rest) ← Json.split? text.toList
    if rest = [] then ofJson? j else none
  | .toml => (Toml.ofText? text).bind ofToml?

/-- The text of settings. -/
def encode (f : Format) (o : Options) : String :=
  match f with
  | .json => (toJson o).prettyText
  | .toml => toTomlText o

end JetPlot.Settings
