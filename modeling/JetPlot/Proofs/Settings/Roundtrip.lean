import JetPlot.Proofs.Json.Records
import JetPlot.Proofs.Settings.Range
import JetPlot.Proofs.Toml.Documents

/-!
# Settings that were saved

The text of settings in range is read back as the same settings (`decode?_encode`). In TOML this
needs nothing else; in JSON the numerals of the thickness and the padding have to be read back
exactly (`Json.ReadsBack`). Hence settings that were saved are loaded again (`load_of_save`).
-/

namespace JetPlot.Settings

variable {o : Options}

/-! ## Pixels -/

theorem pixels?_toNat (n : UInt32) : pixels? n.toNat = some n := by
  rw [pixels?, if_pos ⟨Int.natCast_nonneg _, by exact_mod_cast n.toNat_lt⟩, Int.toNat_natCast,
    UInt32.ofNat_toNat]

/-- A number of pixels is read back from its numeral. -/
theorem jsonPixels?_ofNat (n : UInt32) : jsonPixels? (.ofNat n.toNat) = some n := by
  rw [jsonPixels?, Json.nat?_ofNat (n.toNat_lt.trans (by simp [UInt64.size])), Option.bind_some,
    pixels?_toNat]

/-! ## JSON -/

theorem writable_toJson (o : Options) : (toJson o).Writable :=
  .object _ (by simp [Json.writable_ofNat, Json.writable_ofFloat])

/-- Settings are read back from a JSON value. -/
theorem ofJson?_toJson (hthickness : o.lineThickness.isFinite ∧ Json.ReadsBack o.lineThickness)
    (hpadding : o.padding.isFinite ∧ Json.ReadsBack o.padding) :
    ofJson? (toJson o) = some o := by
  have hread : Json.Record.read? keys 0 (toJson o) =
      some ⟨[("width", .ofNat o.width.toNat), ("height", .ofNat o.height.toNat),
        ("line_thickness", .ofFloat o.lineThickness), ("padding", .ofFloat o.padding)]⟩ :=
    Json.Record.read?_ofEntries (by simp) 0
  rw [ofJson?, hread]
  change (jsonPixels? (.ofNat o.width.toNat)).bind (fun width =>
    (jsonPixels? (.ofNat o.height.toNat)).bind fun height =>
    (Json.float? (.ofFloat o.lineThickness)).bind fun lineThickness =>
    (Json.float? (.ofFloat o.padding)).bind fun padding =>
      some ⟨width, height, lineThickness, padding⟩) = some o
  rw [jsonPixels?_ofNat, jsonPixels?_ofNat, Json.float?_ofFloat hthickness.1 hthickness.2,
    Json.float?_ofFloat hpadding.1 hpadding.2]
  rfl

/-! ## TOML -/

/-- The entries of settings in a TOML document. -/
def tomlEntries (o : Options) : Toml.Entries :=
  [("width", .integer o.width.toNat), ("height", .integer o.height.toNat),
    ("line_thickness", .float o.lineThickness), ("padding", .float o.padding)]

/-- A line in front of a document. -/
theorem document_tomlLine_append {key text rest : String} {value : Toml} {entries : Toml.Entries}
    (hkey : Toml.IsBareKey key) (hvalue : value.Spells text.toList)
    (h : Toml.Document entries rest.toList) :
    Toml.Document ((key, value) :: entries) (tomlLine key text ++ rest).toList := by
  have hline : (tomlLine key text ++ rest).toList =
      key.toList ++ ' ' :: '=' :: ' ' :: (text.toList ++ '\n' :: rest.toList) := by
    simp [tomlLine]
  exact hline ▸ .cons hkey hvalue h

/-- A number of pixels fits into 64 bits. -/
theorem spells_toNat (n : UInt32) : (Toml.integer n.toNat).Spells (toString n.toNat).toList := by
  have hle : (n.toNat : ℤ) ≤ Int64.maxValue.toInt := by
    have hlt := n.toNat_lt
    change (n.toNat : ℤ) ≤ 9223372036854775807
    omega
  have hchars : (toString n.toNat).toList = Decimal.integerChars n.toNat := by
    rw [integerChars_natCast]
    simp [Decimal.digitChars]
  have hlow : Int64.minValue.toInt ≤ 0 := by decide
  exact hchars ▸ Toml.spells_integerChars (hlow.trans (Int.natCast_nonneg _)) hle

theorem spells_text {x : Float} (hx : x.isFinite) :
    (Toml.float x).Spells (tomlStyle.text x).toList := by
  rw [Style.text, String.toList_ofList]
  exact Toml.spells_chars hx

/-- Settings are written as a document with a line for each of them. -/
theorem document_toTomlText (hthickness : o.lineThickness.isFinite)
    (hpadding : o.padding.isFinite) : Toml.Document (tomlEntries o) (toTomlText o).toList := by
  have hempty : Toml.Document [] "".toList := .nil
  have hpadding := document_tomlLine_append (by decide +kernel : Toml.IsBareKey "padding")
    (spells_text hpadding) hempty
  have hthickness := document_tomlLine_append (by decide +kernel : Toml.IsBareKey "line_thickness")
    (spells_text hthickness) hpadding
  have hheight := document_tomlLine_append (by decide +kernel : Toml.IsBareKey "height")
    (spells_toNat o.height) hthickness
  have hwidth := document_tomlLine_append (by decide +kernel : Toml.IsBareKey "width")
    (spells_toNat o.width) hheight
  simpa [toTomlText, tomlEntries, String.append_assoc] using hwidth

/-- Settings are read back from a TOML table. -/
theorem ofToml?_tomlEntries (o : Options) : ofToml? (tomlEntries o) = some o := by
  have hpixels (n : UInt32) : tomlPixels? (.integer n.toNat) = some n := pixels?_toNat n
  change (tomlPixels? (.integer o.width.toNat)).bind (fun width =>
    (tomlPixels? (.integer o.height.toNat)).bind fun height =>
      some ⟨width, height, o.lineThickness, o.padding⟩) = some o
  rw [hpixels, hpixels]
  rfl

/-! ## Either format -/

/-- The text of settings in range is read back. In JSON, their numerals have to be. -/
theorem decode?_encode {f : Format} (hcheck : o.check = .ok ())
    (hreads : f = .json → Json.ReadsBack o.lineThickness ∧ Json.ReadsBack o.padding) :
    decode? f (encode f o) = some o := by
  obtain ⟨⟨hthickness, -⟩, hpadding, -⟩ := Options.nonneg_of_check hcheck
  cases f with
  | json =>
    obtain ⟨hreadsThickness, hreadsPadding⟩ := hreads rfl
    rw [decode?, encode, (writable_toJson o).split?_prettyText]
    exact ofJson?_toJson ⟨hthickness, hreadsThickness⟩ ⟨hpadding, hreadsPadding⟩
  | toml =>
    have hnodup : ((tomlEntries o).map Prod.fst).Nodup := by simp [tomlEntries]
    rw [decode?, encode, Toml.ofText?_of_document (document_toTomlText hthickness hpadding) hnodup,
      Option.bind_some, ofToml?_tomlEntries]

/-! ## Files -/

/-- Settings that were saved are loaded again from the same path, and the file that it leads to is
    the only one that saving has changed; the values of a JSON file have to be read back exactly.
    All settings in range are saved, in JSON or in TOML, as the extension tells in any letter case,
    wherever there is a place for the file. -/
theorem load_of_save (t : Files.Tree) (p : Files.Path) (o : Options) :
    (∀ t' e, save t p o = .ok (t', e) →
      (Format.ofPath p = .ok .json →
        Json.ReadsBack o.lineThickness ∧ Json.ReadsBack o.padding) →
      load t' p = .ok (o, .loaded p) ∧
        ∃ l, t'.target p = .ok l ∧ ∀ l', l' ≠ l → t'.content? l' = t.content? l') ∧
    ((∃ t' e, save t p o = .ok (t', e)) ↔ o.check = .ok () ∧
      (∃ (f : Format) (extension : String), p.extension? = some extension ∧
        Text.lower extension.toList = f.extension.toList) ∧
      ∃ made l, t.ensureParents p = .ok made ∧ made.target p = .ok l ∧ ¬ made.isDirectory l ∧
        p.ending = .bare) := by
  refine ⟨fun t' e hsave hreads => ?_, by simp only [exists_save_iff, Format.ofPath_eq_ok_iff]⟩
  obtain ⟨hcheck, f, made, hformat, hmade, hwrite, -⟩ := save_eq_ok_iff.1 hsave
  have htext : t'.readText p = .ok (encode f o) :=
    Files.Tree.readText_eq_ok_iff.2 (Files.Tree.read_of_write hwrite)
  have hdecode : decode? f (encode f o) = some o :=
    decode?_encode hcheck fun hf => hreads (hf ▸ hformat)
  refine ⟨load_eq_ok_iff.2 ⟨f, _, hformat, htext, hdecode, hcheck, rfl⟩, ?_⟩
  -- The new directories hold no files, so that writing is the only change of a content.
  obtain ⟨l, htarget, -, -, rfl⟩ := Files.Tree.write_eq_ok_iff.1 hwrite
  refine ⟨l, Files.Tree.target_put htarget l _, fun l' hl' => ?_⟩
  rw [Files.Tree.content?_put_of_ne made hl', Files.Tree.content?, Files.Tree.content?,
    Files.Tree.files_ensureParents hmade]

/-- Settings that were saved in a new directory, under extensions in mixed letters. -/
theorem load_of_save_mixed_case :
    let o : Options := ⟨800, 4294967295, 0.1, -0⟩
    let t : Files.Tree := ⟨[(["part.prg"], "LINE (X,Y),1,2".toUTF8)], [], ["home"]⟩
    ∀ p ∈ [(⟨"new/render.Json"⟩ : Files.Path), ⟨"new/render.tOML"⟩],
      ∃ t' e, save t p o = .ok (t', e) ∧ load t' p = .ok (o, .loaded p) ∧
        ∃ l, t'.target p = .ok l ∧ ∀ l', l' ≠ l → t'.content? l' = t.content? l' := by
  intro o t p hp
  have hok : (save t p o).isOk := by
    rcases List.mem_pair.1 hp with rfl | rfl <;> decide +kernel
  obtain ⟨t', e, hsave⟩ : ∃ t' e, save t p o = .ok (t', e) := by
    cases hsave : save t p o with
    | ok saved => exact ⟨saved.1, saved.2, rfl⟩
    | error fault => rw [hsave] at hok; cases hok
  exact ⟨t', e, hsave, (load_of_save t p o).1 t' e hsave fun _ => by decide +kernel⟩

end JetPlot.Settings
