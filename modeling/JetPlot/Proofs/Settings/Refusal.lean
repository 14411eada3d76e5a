import JetPlot.Proofs.Settings.Store

/-!
# Refusing to save

Saving goes through its checks in a fixed order: the values, the extension, the directories on the
way to the file, the file. The first one that fails decides on the fault (`Refused`). Only the last
two touch the tree. Directories that were made before another one, or the file, fails stay where
they are, but no file is written before all else has succeeded.

* `refused_trySave`: the faults with what each of them leaves behind;
* `unchanged_of_refused`: settings that are not saved leave every file as it was, and nothing at all
  has happened if the values or the extension are at fault.
-/

namespace JetPlot.Settings

variable {t left : Files.Tree} {p : Files.Path} {o : Options} {fault : SettingsFault}

/-- How saving settings is refused: the fault, and the tree that is left. -/
inductive Refused (t : Files.Tree) (p : Files.Path) (o : Options) :
    SettingsFault → Files.Tree → Prop
  /-- A value is out of range, whatever the path may be. -/
  | invalid {fault : OptionFault} (hcheck : o.check = .error fault) :
    Refused t p o (.invalid fault) t
  /-- The extension tells no format. -/
  | format {fault : FormatFault} (hcheck : o.check = .ok ())
      (hformat : Format.ofPath p = .error fault) :
    Refused t p o (.format fault) t
  /-- A directory on the way cannot be made. Those before it may be new. -/
  | directory {f : Format} {fault : Files.Fault} (hcheck : o.check = .ok ())
      (hformat : Format.ofPath p = .ok f) (hmade : (t.attemptParents p).result = .error fault) :
    Refused t p o (.directory fault) (t.attemptParents p).left
  /-- The directories on the way are there, but the file cannot be written. -/
  | unwritable {f : Format} {made : Files.Tree} {fault : Files.Fault} (hcheck : o.check = .ok ())
      (hformat : Format.ofPath p = .ok f) (hmade : t.ensureParents p = .ok made)
      (hwrite : made.writeText p (encode f o) = .error fault) :
    Refused t p o (.unwritable p fault) made

/-- Values out of range are refused before anything else is looked at. -/
theorem trySave_of_check_error {f : OptionFault} (h : o.check = .error f) (t : Files.Tree)
    (p : Files.Path) : trySave t p o = .refused t (.invalid f) := by
  rw [trySave, check, h]
  rfl

/-- The extension is looked at before the tree is. -/
theorem trySave_of_format_error {f : FormatFault} (hcheck : o.check = .ok ())
    (h : Format.ofPath p = .error f) (t : Files.Tree) :
    trySave t p o = .refused t (.format f) := by
  rw [trySave, check, hcheck, h]
  rfl

theorem trySave_of_format {f : Format} (hcheck : o.check = .ok ()) (h : Format.ofPath p = .ok f)
    (t : Files.Tree) :
    trySave t p o = ((t.attemptParents p).mapError SettingsFault.directory).andThen fun t =>
      (t.writeText p (encode f o)).mapError (SettingsFault.unwritable p) := by
  rw [trySave, check, hcheck, h]
  rfl

theorem save_eq_error_iff :
    save t p o = .error fault ↔ (trySave t p o).result = .error fault := by
  rw [save, Files.Attempt.tree]
  cases (trySave t p o).result <;> simp [Except.map]

/-- Saving succeeds or is refused for one of four reasons. -/
theorem refused_trySave (h : (trySave t p o).result = .error fault) :
    Refused t p o fault (trySave t p o).left := by
  cases hcheck : o.check with
  | error f =>
    rw [trySave_of_check_error hcheck] at h ⊢
    cases h
    exact .invalid hcheck
  | ok done =>
    cases hformat : Format.ofPath p with
    | error f =>
      rw [trySave_of_format_error hcheck hformat] at h ⊢
      cases h
      exact .format hcheck hformat
    | ok f =>
      rw [trySave_of_format hcheck hformat] at h ⊢
      obtain ⟨hleft, hresult⟩ := Files.Attempt.andThen_error h
      simp only [Files.Attempt.result_mapError, Files.Attempt.left_mapError,
        mapError_eq_error_iff, mapError_eq_ok_iff] at hleft hresult
      rw [hleft]
      obtain ⟨f', hmade, rfl⟩ | ⟨hmade, f', hwrite, rfl⟩ := hresult
      · exact .directory hcheck hformat hmade
      · have htree : t.ensureParents p = .ok (t.attemptParents p).left :=
          map_eq_ok_iff.2 ⟨(), hmade, rfl⟩
        exact .unwritable hcheck hformat htree hwrite

/-- What is left after a refusal are the files as they were, and perhaps new directories. -/
theorem Refused.extends (h : Refused t p o fault left) : t.Extends left := by
  cases h with
  | invalid => exact .refl t
  | format => exact .refl t
  | directory => exact t.extends_attemptParents p
  | unwritable _ _ hmade => exact Files.Attempt.eq_left_of_tree hmade ▸ t.extends_attemptParents p

/-- Settings that are not saved leave every file as it was: the same content at every place, read
    under every path that led to it. If the values are out of range or the extension tells no
    format, no directory is made either; values out of range are reported whatever the path and the
    tree. -/
theorem unchanged_of_refused (h : save t p o = .error fault) :
    Refused t p o fault (trySave t p o).left ∧
    (∀ l, (trySave t p o).left.content? l = t.content? l) ∧
    (∀ q content, t.read q = .ok content → (trySave t p o).left.read q = .ok content) ∧
    ((∃ f, o.check = .error f) ∨ (∃ f, Format.ofPath p = .error f) →
      (trySave t p o).left = t) ∧
    ∀ f, o.check = .error f → fault = .invalid f ∧
      ∀ t' p', trySave t' p' o = .refused t' (.invalid f) := by
  have hrefused : Refused t p o fault (trySave t p o).left :=
    refused_trySave (save_eq_error_iff.1 h)
  refine ⟨hrefused, hrefused.extends.content?, fun _ _ => hrefused.extends.read, ?_, ?_⟩
  · generalize (trySave t p o).left = left at hrefused
    cases hrefused with
    | invalid | format => exact fun _ => rfl
    | directory hcheck hformat | unwritable hcheck hformat =>
      -- Values and extension have passed.
      rintro (⟨f, hf⟩ | ⟨f, hf⟩)
      · cases hcheck.symm.trans hf
      · cases hformat.symm.trans hf
  · intro f hf
    have hresult := save_eq_error_iff.1 h
    rw [trySave_of_check_error hf] at hresult
    cases hresult
    exact ⟨rfl, trySave_of_check_error hf⟩

/-- Settings refused after a directory was made, on the way out of it again and through a file. -/
theorem unchanged_of_refused_midway :
    let t : Files.Tree := ⟨[(["home", "part.toml"], "width = 1".toUTF8)], [], ["home"]⟩
    let p : Files.Path := ⟨"new/../part.toml/render.toml"⟩
    save t p .default = .error (.directory .alreadyExists) ∧
      (trySave t p .default).left.directories = [["home", "new"]] ∧
      (trySave t p .default).left.read ⟨"part.toml"⟩ = .ok "width = 1".toUTF8 ∧
      ∀ l, (trySave t p .default).left.content? l = t.content? l := by
  intro t p
  have h : save t p .default = .error (.directory .alreadyExists) :=
    save_eq_error_iff.2 (by decide +kernel)
  obtain ⟨-, hcontent, hread, -⟩ := unchanged_of_refused h
  exact ⟨h, by decide +kernel, hread ⟨"part.toml"⟩ _ (by decide +kernel), hcontent⟩

end JetPlot.Settings
