import JetPlot.Proofs.Settings.Store

/-!
# The values in a settings file

A settings file gives a value for some of the options (`Given`), and the others have their default
values (`Given.complete`). Settings are loaded from the file that is asked for, else from the usual
one if it is there, else there are none (`Loaded`).

* `decode?_eq`: reading settings is reading the values that are given, and completing them;
* `exists_loadOrDefault_iff`: which settings are loaded.
-/

namespace JetPlot.Settings

/-- Values for some of the options. -/
structure Given where
  /-- The width of the picture in pixels. -/
  width : Option UInt32
  /-- The height of the picture in pixels. -/
  height : Option UInt32
  /-- The thickness of a printed line, in program units. -/
  lineThickness : Option Float
  /-- The padding on every side of what is drawn, in program units. -/
  padding : Option Float

namespace Given

/-- No values. -/
def nothing : Given := ⟨none, none, none, none⟩

/-- The given values, and the default values of the other options. -/
def complete (g : Given) : Options where
  width := g.width.getD Options.default.width
  height := g.height.getD Options.default.height
  lineThickness := g.lineThickness.getD Options.default.lineThickness
  padding := g.padding.getD Options.default.padding

/-- Reads the values in a JSON value. -/
def ofJson? (j : Json) : Option Given := do
  let r ← Json.Record.read? keys 0 j
  return {
    width := ← (r.find? "width").mapM jsonPixels?
    height := ← (r.find? "height").mapM jsonPixels?
    lineThickness := ← (r.find? "line_thickness").mapM Json.float?
    padding := ← (r.find? "padding").mapM Json.float? }

/-- Reads the values in a TOML table. -/
def ofToml? (entries : Toml.Entries) : Option Given :=
  return {
    width := ← (entries.lookup "width").mapM tomlPixels?
    height := ← (entries.lookup "height").mapM tomlPixels?
    lineThickness := ← (entries.lookup "line_thickness").mapM tomlFloat?
    padding := ← (entries.lookup "padding").mapM tomlFloat? }

/-- Reads the values in a text. -/
def ofText? (f : Format) (text : String) : Option Given :=
  match f with
  | .json => do
    let (j, rest) ← Json.split? text.toList
    if rest = [] then ofJson? j else none
  | .toml => (Toml.ofText? text).bind ofToml?

end Given

/-! ## Reading -/

section entries

variable {β : Type} (default : β)

theorem getD?_eq (r : Json.Record) (name : String) (read? : Json → Option β) :
    r.getD? name default read? = ((r.find? name).mapM read?).map (·.getD default) := by
  rw [Json.Record.getD?]
  cases r.find? name with
  | none => rfl
  | some value => simp [Function.comp_def]

theorem tomlEntry?_eq (entries : Toml.Entries) (key : String) (read? : Toml → Option β) :
    tomlEntry? entries key default read? =
      ((entries.lookup key).mapM read?).map (·.getD default) := by
  unfold tomlEntry?
  cases entries.lookup key with
  | none => rfl
  | some value => simp [Function.comp_def]

end entries

theorem ofJson?_eq (j : Json) : ofJson? j = (Given.ofJson? j).map Given.complete := by
  rw [ofJson?, Given.ofJson?]
  simp [getD?_eq, Option.map_bind, Option.bind_map, Function.comp_def, Given.complete]

theorem ofToml?_eq (entries : Toml.Entries) :
    ofToml? entries = (Given.ofToml? entries).map Given.complete := by
  rw [ofToml?, Given.ofToml?]
  simp [tomlEntry?_eq, Option.map_bind, Option.bind_map, Function.comp_def, Given.complete]

/-- Settings are the values that are given in the text, completed. -/
theorem decode?_eq (f : Format) (text : String) :
    decode? f text = (Given.ofText? f text).map Given.complete := by
  cases f with
  | json =>
    rw [decode?, Given.ofText?]
    cases Json.split? text.toList with
    | none => rfl
    | some split =>
      -- What stands behind the object is refused on both sides.
      change (if split.2 = [] then _ else none) = Option.map _ (if split.2 = [] then _ else none)
      split
      · exact ofJson?_eq split.1
      · rfl
  | toml =>
    rw [decode?, Given.ofText?, Option.map_bind]
    exact congrArg _ (funext ofToml?_eq)

/-! ## Loading -/

/-- Whether a file gives some values: its extension tells its format, it holds a text of that
    format, and the completed values are in range. -/
def Gives (t : Files.Tree) (p : Files.Path) (g : Given) : Prop :=
  ∃ f text, Format.ofPath p = .ok f ∧ t.readText p = .ok text ∧ Given.ofText? f text = some g ∧
    g.complete.check = .ok ()

/-- Whether some values are those to begin with: the ones in the file that is asked for, else the
    ones in the usual file if there is one, else none. -/
inductive Loaded (t : Files.Tree) (usual : Files.Path) : Option Files.Path → Given → Prop
  | asked {p : Files.Path} {g : Given} (h : Gives t p g) : Loaded t usual (some p) g
  | usual {g : Given} (hfile : t.isFile usual) (h : Gives t usual g) : Loaded t usual none g
  | nothing (hfile : t.isFile usual = false) : Loaded t usual none .nothing

variable {t : Files.Tree} {p usual : Files.Path} {config : Option Files.Path} {o : Options}

theorem exists_load_iff : (∃ e, load t p = .ok (o, e)) ↔ ∃ g, Gives t p g ∧ o = g.complete := by
  simp only [load_eq_ok_iff, decode?_eq, Option.map_eq_some_iff]
  constructor
  · rintro ⟨e, f, text, hformat, htext, ⟨g, hg, rfl⟩, hcheck, -⟩
    exact ⟨g, ⟨f, text, hformat, htext, hg, hcheck⟩, rfl⟩
  · rintro ⟨g, ⟨f, text, hformat, htext, hg, hcheck⟩, rfl⟩
    exact ⟨_, f, text, hformat, htext, ⟨g, hg, rfl⟩, hcheck, rfl⟩

/-- Settings are loaded from the values to begin with. -/
theorem exists_loadOrDefault_iff : (∃ e, loadOrDefault t usual config = .ok (o, e)) ↔
    ∃ g, Loaded t usual config g ∧ o = g.complete := by
  cases config with
  | some p =>
    rw [loadOrDefault, exists_load_iff]
    exact exists_congr fun g => and_congr_left fun _ => ⟨.asked, fun | .asked h => h⟩
  | none =>
    rw [loadOrDefault]
    cases hfile : t.isFile usual with
    | true =>
      rw [if_pos rfl, exists_load_iff]
      refine exists_congr fun g => and_congr_left fun _ => ⟨.usual hfile, ?_⟩
      rintro (_ | ⟨-, h⟩ | ⟨hfile'⟩)
      · exact h
      · rw [hfile] at hfile'; cases hfile'
    | false =>
      rw [if_neg Bool.false_ne_true]
      constructor
      · rintro ⟨e, h⟩
        cases h
        exact ⟨.nothing, .nothing hfile, rfl⟩
      · rintro ⟨g, _ | ⟨hfile', -⟩ | ⟨-⟩, rfl⟩
        · rw [hfile] at hfile'; cases hfile'
        · exact ⟨_, rfl⟩

end JetPlot.Settings
