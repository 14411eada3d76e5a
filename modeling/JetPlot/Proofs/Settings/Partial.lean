import JetPlot.Proofs.Settings.Given
import JetPlot.Proofs.Settings.Roundtrip
import JetPlot.Proofs.Settings.Whole

/-!
# Settings files with some of the options

A settings file may give only some of the options, in any order and beside other entries. In JSON
and in TOML, it is the values that it gives that decide what is loaded (`load_of_holds`).

The two formats write values differently. A number of pixels is an integer in both. Any other
number is a numeral that is read as this number, or an integer if it is whole (`IsJsonNumber`,
`IsTomlNumber`). Accordingly, `Given.In` tells when the entries of an object or a table give some
values and no others, and `Written` when a text does that the reader of its format accepts.

* `Written.of_spells`, `Written.of_document`: texts of either format that give some values;
* `load_partial`: files of both formats that give the same values are loaded alike.
-/

namespace JetPlot.Settings

/-! ## Values -/

/-- Whether a JSON value is a number of pixels. -/
def IsJsonPixels (n : UInt32) (j : Json) : Prop := j = .ofNat n.toNat

/-- Whether a JSON value is a double: its numeral is read as the double, or it is an integer. -/
inductive IsJsonNumber (x : Float) : Json → Prop
  | decimal {numeral : List Char} (h : Json.numeralFloat? numeral = some x) :
      IsJsonNumber x (.number numeral)
  | whole {n : ℤ} (h : IsWhole x n) (hn : n.natAbs < UInt64.size) :
      IsJsonNumber x (.number (Decimal.integerChars n))

/-- Whether a TOML value is a number of pixels. -/
def IsTomlPixels (n : UInt32) (v : Toml) : Prop := v = .integer n.toNat

/-- Whether a TOML value is a double, perhaps as an integer. -/
inductive IsTomlNumber (x : Float) : Toml → Prop
  | decimal : IsTomlNumber x (.float x)
  | whole {n : ℤ} (h : IsWhole x n) : IsTomlNumber x (.integer n)

section values

variable {n : UInt32} {x : Float}

theorem IsJsonPixels.jsonPixels?_eq {j : Json} (h : IsJsonPixels n j) : jsonPixels? j = some n :=
  h ▸ jsonPixels?_ofNat n

theorem IsTomlPixels.tomlPixels?_eq {v : Toml} (h : IsTomlPixels n v) : tomlPixels? v = some n := by
  rw [h]
  exact pixels?_toNat n

/-- A double is read from JSON, also from an integer. -/
theorem IsJsonNumber.float?_eq {j : Json} (h : IsJsonNumber x j) : j.float? = some x := by
  cases h with
  | decimal h => exact h
  | whole h hn => exact numeralFloat?_integerChars h hn

/-- A double is read from TOML, also from an integer. -/
theorem IsTomlNumber.tomlFloat?_eq {v : Toml} (h : IsTomlNumber x v) : tomlFloat? v = some x := by
  cases h with
  | decimal => rfl
  | whole h => exact congrArg some (floatOfInt_of_isWhole h)

end values

/-! ## Entries -/

/-- Whether no key of the settings is repeated; other keys may be. -/
def KeysOnce (entries : List (String × Json)) : Prop :=
  ((entries.filter fun entry => keys.contains entry.1).map Prod.fst).Nodup

instance : DecidablePred KeysOnce := fun entries =>
  inferInstanceAs <| Decidable
    ((entries.filter fun entry => keys.contains entry.1).map Prod.fst).Nodup

namespace Given

/-- Whether some entries give the values, and no values for the other options; `pixels` and `number`
    tell how values are written. Other entries do not matter, nor does the order. -/
structure In {V : Type} (pixels : UInt32 → V → Prop) (number : Float → V → Prop)
    (entries : List (String × V)) (g : Given) : Prop where
  width : Option.Rel pixels g.width (entries.lookup "width")
  height : Option.Rel pixels g.height (entries.lookup "height")
  lineThickness : Option.Rel number g.lineThickness (entries.lookup "line_thickness")
  padding : Option.Rel number g.padding (entries.lookup "padding")

/-- What is there is read if it is written as it should be, and what is missing stays missing. -/
theorem mapM_eq_of_rel {α V : Type} {written : α → V → Prop} {read? : V → Option α}
    (hread : ∀ a v, written a v → read? v = some a) {a : Option α} {v : Option V}
    (h : Option.Rel written a v) : v.mapM read? = some a := by
  cases h with
  | none => rfl
  | some h => rw [Option.mapM_some, hread _ _ h]; rfl

variable {g : Given}

/-- The values are read from entries that give them. -/
theorem In.read_eq {V : Type} {pixels : UInt32 → V → Prop} {number : Float → V → Prop}
    {pixels? : V → Option UInt32} {number? : V → Option Float} {entries : List (String × V)}
    (hpixels : ∀ n v, pixels n v → pixels? v = some n)
    (hnumber : ∀ x v, number x v → number? v = some x) (h : g.In pixels number entries) :
    (do return {
      width := ← (entries.lookup "width").mapM pixels?
      height := ← (entries.lookup "height").mapM pixels?
      lineThickness := ← (entries.lookup "line_thickness").mapM number?
      padding := ← (entries.lookup "padding").mapM number? }) = some g := by
  rw [mapM_eq_of_rel hpixels h.width, mapM_eq_of_rel hpixels h.height,
    mapM_eq_of_rel hnumber h.lineThickness, mapM_eq_of_rel hnumber h.padding]
  rfl

/-- Values are read from the entries of a JSON object. -/
theorem ofJson?_ofEntries {entries : List (String × Json)}
    (hnodup : KeysOnce entries)
    (h : g.In IsJsonPixels IsJsonNumber entries) : ofJson? (.ofEntries entries) = some g := by
  have hfind {key : String} (hkey : key ∈ keys) := Json.Record.find?_filter hkey entries
  simp only [ofJson?, Json.Record.read?_ofEntries_filter hnodup, Option.bind_eq_bind,
    Option.bind_some, hfind (by decide : "width" ∈ keys), hfind (by decide : "height" ∈ keys),
    hfind (by decide : "line_thickness" ∈ keys), hfind (by decide : "padding" ∈ keys)]
  exact h.read_eq (fun _ _ => IsJsonPixels.jsonPixels?_eq) fun _ _ => IsJsonNumber.float?_eq

/-- Values are read from the entries of a TOML table. -/
theorem ofToml?_of_in {entries : Toml.Entries} (h : g.In IsTomlPixels IsTomlNumber entries) :
    ofToml? entries = some g :=
  h.read_eq (fun _ _ => IsTomlPixels.tomlPixels?_eq) fun _ _ => IsTomlNumber.tomlFloat?_eq

end Given

/-! ## Texts -/

/-- Whether a text gives some values: it is a JSON object that does not repeat the keys of the
    settings, or a TOML document, and its entries give them. -/
inductive Written (g : Given) : Format → String → Prop
  | json {text : String} {entries : List (String × Json)}
      (hread : Json.split? text.toList = some (.ofEntries entries, []))
      (hnodup : KeysOnce entries)
      (h : g.In IsJsonPixels IsJsonNumber entries) : Written g .json text
  | toml {text : String} {entries : Toml.Entries} (hread : Toml.ofText? text = some entries)
      (h : g.In IsTomlPixels IsTomlNumber entries) : Written g .toml text

namespace Written

variable {g : Given} {f : Format} {text : String}

theorem ofText?_eq (h : Written g f text) : Given.ofText? f text = some g := by
  cases h with
  | json hread hnodup h =>
    rw [Given.ofText?, hread]
    exact Given.ofJson?_ofEntries hnodup h
  | toml hread h =>
    rw [Given.ofText?, hread, Option.bind_some]
    exact Given.ofToml?_of_in h

/-- Values are given by a JSON object in any layout. -/
theorem of_spells {entries : List (String × Json)}
    (hspells : Json.Spells (.ofEntries entries) text.toList)
    (hnodup : KeysOnce entries)
    (h : g.In IsJsonPixels IsJsonNumber entries) : Written g .json text :=
  .json (Json.split?_of_spells hspells) hnodup h

/-- Values are given by a TOML document with a line for each of its entries. -/
theorem of_document {entries : Toml.Entries} (hdocument : Toml.Document entries text.toList)
    (hnodup : (entries.map Prod.fst).Nodup) (h : g.In IsTomlPixels IsTomlNumber entries) :
    Written g .toml text :=
  .toml (Toml.ofText?_of_document hdocument hnodup) h

end Written

/-! ## Files -/

/-- Whether a file of the given format gives some values. -/
structure Holds (t : Files.Tree) (p : Files.Path) (f : Format) (g : Given) : Prop where
  format : Format.ofPath p = .ok f
  written : ∃ text, t.readText p = .ok text ∧ Written g f text

variable {t : Files.Tree} {p : Files.Path} {f : Format} {g : Given}

/-- The values in a file are completed and checked. -/
theorem load_of_holds (h : Holds t p f g) :
    load t p = (check g.complete).map fun _ => (g.complete, .loaded p) := by
  obtain ⟨text, htext, hwritten⟩ := h.written
  have hdecode : decode? f text = some g.complete := by
    rw [decode?_eq, hwritten.ofText?_eq]
    rfl
  rw [load, h.format, htext]
  simp only [bind, Except.bind, Except.mapError, hdecode]
  cases check g.complete <;> rfl

/-- A JSON file and a TOML file that give the same values are loaded alike: as these values with the
    default values of the other options if they are in range then, and with the fault of the first
    one that is not otherwise. Any object in JSON and any plain document in TOML will do, in which
    the keys of the settings have the values, in any order and beside any other entries.

    The texts are those that the readers of their formats accept: a whole number beyond 64 bits is
    no integer in TOML, though it may be written there with a point or an exponent, and other values
    may not be nested 80 deep in TOML. -/
theorem load_partial (t : Files.Tree) (p q : Files.Path) (g : Given) :
    (Holds t p .json g → Holds t q .toml g →
      (load t p).map Prod.fst = (load t q).map Prod.fst ∧
      (g.complete.check = .ok () →
        load t p = .ok (g.complete, .loaded p) ∧ load t q = .ok (g.complete, .loaded q)) ∧
      ∀ fault, g.complete.check = .error fault →
        load t p = .error (.invalid fault) ∧ load t q = .error (.invalid fault)) ∧
    (∀ (entries : List (String × Json)) (text : String),
      Json.Spells (.ofEntries entries) text.toList →
      KeysOnce entries →
      g.In IsJsonPixels IsJsonNumber entries → Written g .json text) ∧
    ∀ (entries : Toml.Entries) (text : String), Toml.Document entries text.toList →
      (entries.map Prod.fst).Nodup → g.In IsTomlPixels IsTomlNumber entries →
      Written g .toml text := by
  refine ⟨fun hp hq => ?_, fun _ _ => .of_spells, fun _ _ => .of_document⟩
  rw [load_of_holds hp, load_of_holds hq, check]
  refine ⟨?_, fun hcheck => ?_, fun fault hcheck => ?_⟩
  · cases g.complete.check <;> rfl
  · rw [hcheck]
    exact ⟨rfl, rfl⟩
  · rw [hcheck]
    exact ⟨rfl, rfl⟩

/-- The padding is written as an integer in JSON and as a decimal in TOML, the thickness the other
    way round, and there are other entries. The second picture has no height. -/
theorem load_partial_whole :
    let t : Files.Tree := ⟨[
      (["a.json"], "\x7b\"note\": [1, null], \"padding\": 2, \"width\": 640\x7d".toUTF8),
      (["a.toml"], "width = 640\ncolor = \"red\"\npadding = 2.0\n".toUTF8),
      (["b.json"], "\x7b\"height\": 0, \"line_thickness\": 0.0\x7d".toUTF8),
      (["b.toml"], "line_thickness = 0\nheight = 0\n".toUTF8)], [], []⟩
    (load t ⟨"a.json"⟩ = .ok (⟨640, 600, 1, 2⟩, .loaded ⟨"a.json"⟩) ∧
      load t ⟨"a.toml"⟩ = .ok (⟨640, 600, 1, 2⟩, .loaded ⟨"a.toml"⟩)) ∧
    load t ⟨"b.json"⟩ = .error (.invalid .size) ∧ load t ⟨"b.toml"⟩ = .error (.invalid .size) := by
  intro t
  have htwo : IsWhole 2 2 := ⟨by decide, by rw [Double.value_two]; rfl, by decide⟩
  have hzero : IsWhole 0 0 := ⟨by decide, by rw [Double.value_zero]; rfl, fun _ => rfl⟩
  let g : Given := ⟨some 640, none, none, some 2⟩
  have hjson : Json.split? "\x7b\"note\": [1, null], \"padding\": 2, \"width\": 640\x7d".toList =
      some (.ofEntries [("note", .array [.number ['1'], .null]), ("padding", .number ['2']),
        ("width", .ofNat 640)], []) := by rfl
  have htoml : Toml.ofText? "width = 640\ncolor = \"red\"\npadding = 2.0\n" =
      some [("width", .integer 640), ("color", .text "red"), ("padding", .float 2)] := by rfl
  let g' : Given := ⟨none, some 0, some 0, none⟩
  have hjson' : Json.split? "\x7b\"height\": 0, \"line_thickness\": 0.0\x7d".toList =
      some (.ofEntries [("height", .ofNat 0),
        ("line_thickness", .number ['0', '.', '0'])], []) := by rfl
  have htoml' : Toml.ofText? "line_thickness = 0\nheight = 0\n" =
      some [("line_thickness", .integer 0), ("height", .integer 0)] := by rfl
  have hfirst := (load_partial t ⟨"a.json"⟩ ⟨"a.toml"⟩ g).1
    ⟨by decide, _, by rfl, .json hjson (by decide)
      ⟨.some rfl, .none, .none, .some (.whole htwo (by decide))⟩⟩
    ⟨by decide, _, by rfl, .toml htoml ⟨.some rfl, .none, .none, .some .decimal⟩⟩
  have hsecond := (load_partial t ⟨"b.json"⟩ ⟨"b.toml"⟩ g').1
    ⟨by decide, _, by rfl, .json hjson' (by decide)
      ⟨.none, .some rfl, .some (.decimal (by decide +kernel)), .none⟩⟩
    ⟨by decide, _, by rfl, .toml htoml' ⟨.none, .some rfl, .some (.whole hzero), .none⟩⟩
  exact ⟨hfirst.2.1 (by decide), hsecond.2.2 .size (by decide)⟩

end JetPlot.Settings
