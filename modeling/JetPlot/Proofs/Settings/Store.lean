import JetPlot.Proofs.Files.Writing
import JetPlot.Proofs.Text.LetterCase
import JetPlot.Settings.Store

/-!
# Loading and saving

Settings are loaded if everything on the way succeeds: the extension tells a format, the file is a
text, the text is decoded, and the values are in range (`load_eq_ok_iff`). They are saved if they
are in range, the extension tells a format, and the file and the directories on the way to it can
be written (`save_eq_ok_iff`, `exists_save_iff`). An extension tells a format in any letter case
(`Format.ofPath_eq_ok_iff`).
-/

namespace JetPlot.Settings

/-! ## Formats -/

/-- The extension of the files of a format, in lower case. -/
def Format.extension : Format → String
  | json => "json"
  | toml => "toml"

/-- The extension tells the format of a file in any letter case. -/
theorem Format.ofPath_eq_ok_iff {p : Files.Path} {f : Format} : ofPath p = .ok f ↔
    ∃ extension, p.extension? = some extension ∧
      Text.lower extension.toList = f.extension.toList := by
  rw [ofPath]
  cases p.extension? with
  | none => simp
  | some extension =>
    simp only [Option.some.injEq, exists_eq_left', Text.lower]
    generalize extension.toList.map Char.toLower = lower
    by_cases hjson : lower = "json".toList
    · rw [if_pos hjson, hjson]
      cases f <;> simp [Format.extension]
    · rw [if_neg hjson]
      by_cases htoml : lower = "toml".toList
      · rw [if_pos htoml, htoml]
        cases f <;> simp [Format.extension]
      · rw [if_neg htoml]
        cases f
        · simpa [Format.extension] using hjson
        · simpa [Format.extension] using htoml

/-! ## Files -/

variable {t t' : Files.Tree} {p : Files.Path} {o : Options} {e : Event}

/-- Settings are in range for a settings file if the options are. -/
theorem check_eq_ok_iff : check o = .ok () ↔ o.check = .ok () := mapError_eq_ok_iff

theorem load_eq_ok_iff : load t p = .ok (o, e) ↔
    ∃ f text, Format.ofPath p = .ok f ∧ t.readText p = .ok text ∧ decode? f text = some o ∧
      o.check = .ok () ∧ e = .loaded p := by
  rw [load, bind_eq_ok_iff]
  simp only [mapError_eq_ok_iff, bind_eq_ok_iff]
  constructor
  · rintro ⟨f, hformat, text, htext, h⟩
    refine ⟨f, text, hformat, htext, ?_⟩
    split at h
    · cases h
    · next o' hdecode =>
      obtain ⟨⟨⟩, hcheck, h⟩ := bind_eq_ok_iff.1 h
      cases h
      exact ⟨hdecode, check_eq_ok_iff.1 hcheck, rfl⟩
  · rintro ⟨f, text, hformat, htext, hdecode, hcheck, rfl⟩
    refine ⟨f, hformat, text, htext, ?_⟩
    rw [hdecode]
    exact bind_eq_ok_iff.2 ⟨(), check_eq_ok_iff.2 hcheck, rfl⟩

theorem tree_trySave_eq_ok_iff : (trySave t p o).tree = .ok t' ↔
    o.check = .ok () ∧ ∃ f, Format.ofPath p = .ok f ∧ ∃ made, t.ensureParents p = .ok made ∧
      made.writeText p (encode f o) = .ok t' := by
  -- What an attempt leaves behind on its way does not matter if it succeeds.
  have hsteps : (trySave t p o).tree = (check o >>= fun _ =>
      (Format.ofPath p).mapError SettingsFault.format >>= fun f =>
        (t.ensureParents p).mapError SettingsFault.directory >>= fun made =>
          (made.writeText p (encode f o)).mapError (SettingsFault.unwritable p)) := by
    rw [trySave]
    cases check o with
    | error fault => rfl
    | ok done =>
      cases (Format.ofPath p).mapError SettingsFault.format with
      | error fault => rfl
      | ok f =>
        refine (Files.Attempt.tree_andThen _ _).trans ?_
        rw [Files.Attempt.tree_mapError]
        rfl
  simp only [hsteps, bind_eq_ok_iff, mapError_eq_ok_iff]
  exact ⟨fun ⟨_, hcheck, h⟩ => ⟨check_eq_ok_iff.1 hcheck, h⟩,
    fun ⟨hcheck, h⟩ => ⟨(), check_eq_ok_iff.2 hcheck, h⟩⟩

theorem save_eq_ok_iff : save t p o = .ok (t', e) ↔
    o.check = .ok () ∧ ∃ f made, Format.ofPath p = .ok f ∧ t.ensureParents p = .ok made ∧
      made.writeText p (encode f o) = .ok t' ∧ e = .saved p := by
  rw [save, map_eq_ok_iff]
  constructor
  · rintro ⟨t', htree, h⟩
    cases h
    obtain ⟨hcheck, f, hformat, made, hmade, hwrite⟩ := tree_trySave_eq_ok_iff.1 htree
    exact ⟨hcheck, f, made, hformat, hmade, hwrite, rfl⟩
  · rintro ⟨hcheck, f, made, hformat, hmade, hwrite, rfl⟩
    exact ⟨t', tree_trySave_eq_ok_iff.2 ⟨hcheck, f, hformat, made, hmade, hwrite⟩, rfl⟩

/-- Settings are saved if they are in range, the extension tells a format, the directories on the
    way to the file can be made, and the path then leads to a place where a file can be. -/
theorem exists_save_iff : (∃ t' e, save t p o = .ok (t', e)) ↔
    o.check = .ok () ∧ (∃ f, Format.ofPath p = .ok f) ∧
      ∃ made l, t.ensureParents p = .ok made ∧ made.target p = .ok l ∧ ¬ made.isDirectory l ∧
        p.ending = .bare := by
  simp only [save_eq_ok_iff, Files.Tree.writeText, Files.Tree.write_eq_ok_iff]
  constructor
  · rintro ⟨t', e, hcheck, f, made, hformat, hmade, ⟨l, htarget, hdirectory, hending, -⟩, -⟩
    exact ⟨hcheck, ⟨f, hformat⟩, made, l, hmade, htarget, hdirectory, hending⟩
  · rintro ⟨hcheck, ⟨f, hformat⟩, made, l, hmade, htarget, hdirectory, hending⟩
    exact ⟨_, _, hcheck, f, made, hformat, hmade, ⟨l, htarget, hdirectory, hending, rfl⟩, rfl⟩

end JetPlot.Settings
