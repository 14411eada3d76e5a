import Mathlib.Data.List.Infix
import JetPlot.Files.Tree

/-!
# Writing files

Writing a file puts its content at the place that the path leads to, and changes nothing else
(`write_eq_ok_iff`). Whatever was a directory remains one, so all paths lead where they did
before, and the file is read back as it was written. Making directories changes no file at all,
also where not all of them can be made.

* `read_of_write`: a file that was written is read back;
* `extends_attemptParents`: trying to make directories only adds directories.
-/

namespace JetPlot

/-! ## Steps that may fail -/

section steps

variable {ε ε' α β : Type} {x : Except ε α}

/-- Two steps succeed if the first one does, and the second one on its result. -/
theorem bind_eq_ok_iff {f : α → Except ε β} {b : β} :
    x >>= f = .ok b ↔ ∃ a, x = .ok a ∧ f a = .ok b := by
  cases x with
  | error fault => exact ⟨nofun, nofun⟩
  | ok a => exact ⟨fun h => ⟨a, rfl, h⟩, fun ⟨_, ha, h⟩ => Except.ok.inj ha ▸ h⟩

theorem map_eq_ok_iff {f : α → β} {b : β} : x.map f = .ok b ↔ ∃ a, x = .ok a ∧ f a = b := by
  cases x <;> simp [Except.map]

theorem mapError_eq_ok_iff {f : ε → ε'} {a : α} : x.mapError f = .ok a ↔ x = .ok a := by
  cases x <;> simp [Except.mapError]

theorem mapError_eq_error_iff {f : ε → ε'} {fault : ε'} :
    x.mapError f = .error fault ↔ ∃ fault', x = .error fault' ∧ f fault' = fault := by
  cases x <;> simp [Except.mapError]

end steps

namespace Files.Tree

variable {t t' : Tree} {l l' : Location} {p : Path} {content : ByteArray}

/-! ## Contents -/

@[simp] theorem content?_put_self (t : Tree) (l : Location) (content : ByteArray) :
    (t.put l content).content? l = some content := List.lookup_cons_self

/-- A file that is put somewhere is the only one that changes. -/
theorem content?_put_of_ne (t : Tree) (h : l' ≠ l) (content : ByteArray) :
    (t.put l content).content? l' = t.content? l' := by
  have hlookup (files : List (Location × ByteArray)) :
      (files.filter fun file => file.1 ≠ l).lookup l' = files.lookup l' := by
    induction files with
    | nil => rfl
    | cons file files ih =>
      by_cases hfile : file.1 = l
      · -- The file that is replaced is not the one that is looked for.
        have hne : (l' == file.1) = false := beq_false_of_ne (hfile ▸ h)
        rw [List.filter_cons_of_neg (by simpa using hfile), List.lookup_cons, hne, ih]
      · rw [List.filter_cons_of_pos (by simpa using hfile), List.lookup_cons, List.lookup_cons, ih]
  have hne : (l' == l) = false := beq_false_of_ne h
  rw [content?, put, List.lookup_cons, hne]
  exact hlookup t.files

/-! ## Directories -/

theorem isDirectory_iff : t.isDirectory l ↔
    (∃ d ∈ t.current :: t.directories, l <+: d) ∨ ∃ file ∈ t.files, l <+: file.1 ∧ l ≠ file.1 := by
  simp [isDirectory]

/-- A directory remains one when a file is put somewhere. -/
theorem isDirectory_put (h : t.isDirectory l') (l : Location) (content : ByteArray) :
    (t.put l content).isDirectory l' := by
  rw [isDirectory_iff] at h ⊢
  refine h.imp_right ?_
  rintro ⟨file, hfile, hprefix, hne⟩
  by_cases hl : file.1 = l
  · exact ⟨(l, content), List.mem_cons_self, hl ▸ hprefix, hl ▸ hne⟩
  · have hkept : file ∈ t.files.filter fun file => file.1 ≠ l :=
      List.mem_filter.2 ⟨hfile, decide_eq_true hl⟩
    exact ⟨file, List.mem_cons_of_mem _ hkept, hprefix, hne⟩

/-- A walk leads to the same place in every tree that has the directories on the way. -/
theorem walk_mono (h : ∀ d, t.isDirectory d → t'.isDirectory d) {steps : List PathStep}
    (hwalk : t.walk l steps = .ok l') : t'.walk l steps = .ok l' := by
  induction steps generalizing l with
  | nil => exact hwalk
  | cons step steps ih =>
    cases step with
    | up => exact ih hwalk
    | into name =>
      rw [walk] at hwalk ⊢
      split at hwalk
      · next hdirectory =>
        rw [if_pos (h _ hdirectory)]
        exact ih hwalk
      · split at hwalk <;> cases hwalk

/-- A path leads to the same place in every tree that has the directories on the way. -/
theorem target_mono (hdirectories : ∀ d, t.isDirectory d → t'.isDirectory d)
    (hcurrent : t'.current = t.current) (h : t.target p = .ok l) : t'.target p = .ok l := by
  rw [target] at h ⊢
  split at h
  · split at h <;> cases h
  · -- A path that ends with a step upwards leads to no file.
    obtain ⟨_, -, h⟩ := bind_eq_ok_iff.1 h
    cases h
  · obtain ⟨d, hwalk, h⟩ := bind_eq_ok_iff.1 h
    have hwalk' : t'.walk (t'.start p) p.steps.dropLast = .ok d := by
      rw [start, hcurrent]
      exact walk_mono hdirectories hwalk
    exact bind_eq_ok_iff.2 ⟨d, hwalk', h⟩

/-- A path leads to the same place after a file has been put somewhere. -/
theorem target_put (h : t.target p = .ok l') (l : Location) (content : ByteArray) :
    (t.put l content).target p = .ok l' :=
  target_mono (fun _ hd => isDirectory_put hd l content) rfl h

/-! ## Files -/

/-- A file is written if its path ends with a name, the directories on the way to it exist and it is
    none itself. -/
theorem write_eq_ok_iff : t.write p content = .ok t' ↔
    ∃ l, t.target p = .ok l ∧ ¬ t.isDirectory l ∧ p.ending = .bare ∧ t' = t.put l content := by
  rw [write, bind_eq_ok_iff]
  refine exists_congr fun l => and_congr_right fun _ => ?_
  split
  · next hdirectory => exact ⟨nofun, fun h => absurd hdirectory h.1⟩
  · next hdirectory =>
    cases hending : p.ending with
    | bare => exact ⟨fun h => ⟨hdirectory, rfl, (Except.ok.inj h).symm⟩, fun h => h.2.2 ▸ rfl⟩
    | slash => exact ⟨nofun, nofun⟩
    | point =>
      refine ⟨fun h => ?_, nofun⟩
      dsimp only at h
      split at h <;> cases h

/-- A file is read if its path ends with a name and leads to the file. -/
theorem read_eq_ok_iff : t.read p = .ok content ↔
    ∃ l, t.target p = .ok l ∧ t.content? l = some content ∧ p.ending = .bare := by
  rw [read, bind_eq_ok_iff]
  refine exists_congr fun l => and_congr_right fun _ => ?_
  cases hcontent : t.content? l with
  | none =>
    refine ⟨fun h => ?_, nofun⟩
    dsimp only at h
    split at h <;> cases h
  | some content' =>
    dsimp only
    split
    · next hending => simp [hending]
    · next hending => exact ⟨nofun, fun h => absurd h.2 hending⟩

theorem fromUTF8?_eq_some_iff {text : String} :
    String.fromUTF8? content = some text ↔ content = text.toUTF8 := by
  constructor
  · intro h
    rw [String.fromUTF8?] at h
    split at h
    · cases h; rfl
    · cases h
  · rintro rfl
    exact dif_pos text.isValidUTF8

/-- A text is read from the file that holds its characters. -/
theorem readText_eq_ok_iff {text : String} :
    t.readText p = .ok text ↔ t.read p = .ok text.toUTF8 := by
  rw [readText, bind_eq_ok_iff]
  constructor
  · rintro ⟨content, hread, h⟩
    split at h
    · next htext =>
      cases h
      rw [hread, fromUTF8?_eq_some_iff.1 htext]
    · cases h
  · intro hread
    exact ⟨_, hread, by rw [fromUTF8?_eq_some_iff.2 rfl]⟩

/-- A file that was written is read back. -/
theorem read_of_write (h : t.write p content = .ok t') : t'.read p = .ok content := by
  obtain ⟨l, htarget, -, hending, rfl⟩ := write_eq_ok_iff.1 h
  exact read_eq_ok_iff.2 ⟨l, target_put htarget l content, content?_put_self t l content, hending⟩

/-! ## Making directories -/

/-- The first tree with further directories. -/
structure Extends (t t' : Tree) : Prop where
  /-- The files and their contents are the same. -/
  files : t'.files = t.files
  /-- The current directory is the same. -/
  current : t'.current = t.current
  /-- No directory is missing. -/
  directories : t.directories ⊆ t'.directories

namespace Extends

theorem refl (t : Tree) : Extends t t := ⟨rfl, rfl, List.Subset.refl _⟩

theorem trans {t'' : Tree} (h : Extends t t') (h' : Extends t' t'') : Extends t t'' :=
  ⟨h'.files.trans h.files, h'.current.trans h.current,
    List.Subset.trans h.directories h'.directories⟩

theorem content? (h : Extends t t') (l : Location) : t'.content? l = t.content? l := by
  rw [Tree.content?, h.files, Tree.content?]

theorem isDirectory (h : Extends t t') (hl : t.isDirectory l) : t'.isDirectory l := by
  rw [isDirectory_iff] at hl ⊢
  rw [h.current, h.files]
  exact hl.imp_left fun ⟨d, hd, hprefix⟩ =>
    ⟨d, List.cons_subset_cons _ h.directories hd, hprefix⟩

/-- A path that leads somewhere still leads there. -/
theorem target (h : Extends t t') (htarget : t.target p = .ok l) : t'.target p = .ok l :=
  target_mono (fun _ => h.isDirectory) h.current htarget

/-- What can be read is still read in the same way. -/
theorem read (h : Extends t t') (hread : t.read p = .ok content) : t'.read p = .ok content := by
  obtain ⟨l, htarget, hcontent, hending⟩ := read_eq_ok_iff.1 hread
  exact read_eq_ok_iff.2 ⟨l, h.target htarget, (h.content? l).trans hcontent, hending⟩

end Extends

theorem extends_of_makeDirectory {before : List PathStep} {last : PathStep}
    (h : t.makeDirectory l before last = .ok t') : Extends t t' := by
  rw [makeDirectory] at h
  cases hwalk : t.walk l before with
  | error fault => rw [hwalk] at h; cases h
  | ok d =>
    rw [hwalk] at h
    cases last with
    | up => cases h
    | into name =>
      change (if _ then _ else _) = _ at h
      split at h <;> cases h
      exact ⟨rfl, rfl, List.subset_cons_self _ _⟩

theorem extends_of_ensureDirectory {before : List PathStep} {last : PathStep}
    (h : t.ensureDirectory l before last = .ok t') : Extends t t' := by
  rw [ensureDirectory] at h
  split at h
  · next hmade => cases h; exact extends_of_makeDirectory hmade
  · split at h <;> cases h
    exact .refl t

end Files.Tree

namespace Files.Attempt

variable {ε ε' : Type} {a : Attempt ε} {step : Tree → Except ε Tree} {fault : ε} {t' : Tree}

@[simp] theorem tree_none (t : Tree) : (none t : Attempt ε).tree = .ok t := rfl

@[simp] theorem tree_refused (t : Tree) (fault : ε) : (refused t fault).tree = .error fault := rfl

@[simp] theorem left_mapError (a : Attempt ε) (f : ε → ε') : (a.mapError f).left = a.left := rfl

@[simp] theorem result_mapError (a : Attempt ε) (f : ε → ε') :
    (a.mapError f).result = a.result.mapError f := rfl

@[simp] theorem tree_mapError (a : Attempt ε) (f : ε → ε') :
    (a.mapError f).tree = a.tree.mapError f := by
  obtain ⟨left, result⟩ := a
  cases result <;> rfl

/-- A further step takes the tree that is left by the steps before it. -/
theorem tree_andThen (a : Attempt ε) (step : Tree → Except ε Tree) :
    (a.andThen step).tree = a.tree >>= step := by
  obtain ⟨left, result⟩ := a
  cases result with
  | error fault => rfl
  | ok done =>
    change _ = step left
    rw [andThen]
    dsimp only
    cases step left <;> rfl

theorem eq_left_of_tree (h : a.tree = .ok t') : t' = a.left := by
  obtain ⟨_, -, h⟩ := map_eq_ok_iff.1 h
  exact h.symm

/-- Where steps fail, the last of them has changed nothing. -/
theorem andThen_error (h : (a.andThen step).result = .error fault) :
    (a.andThen step).left = a.left ∧
      (a.result = .error fault ∨ a.result = .ok () ∧ step a.left = .error fault) := by
  obtain ⟨left, result⟩ := a
  cases result with
  | error fault' => exact ⟨rfl, .inl h⟩
  | ok done =>
    rw [andThen] at h ⊢
    dsimp only at h ⊢
    cases hstep : step left with
    | error fault' =>
      rw [hstep] at h
      cases h
      exact ⟨rfl, .inr ⟨rfl, rfl⟩⟩
    | ok t =>
      rw [hstep] at h
      cases h

/-- What is left after a further step is left before it, or comes of the step. -/
theorem left_andThen {P : Tree → Prop} (hleft : P a.left)
    (hstep : ∀ t, step a.left = .ok t → P t) : P (a.andThen step).left := by
  rw [andThen]
  split
  · exact hleft
  · split
    · next h => exact hstep _ h
    · exact hleft

end Files.Attempt

namespace Files.Tree

variable {t t' : Tree} {l : Location} {p : Path}

/-- Whether or not all directories on a way can be made, those that are made are all that
    changes. -/
theorem extends_ensureDirectories (t : Tree) (l : Location) (backward : List PathStep) :
    Extends t (t.ensureDirectories l backward).left := by
  induction backward with
  | nil => exact .refl t
  | cons last before ih =>
    rw [ensureDirectories]
    split
    · next hmade => exact extends_of_ensureDirectory hmade
    · exact Attempt.left_andThen ih fun made hmade => ih.trans (extends_of_ensureDirectory hmade)
    · exact .refl t

/-- Trying to make the directories on the way to a file changes no file. -/
theorem extends_attemptParents (t : Tree) (p : Path) : Extends t (t.attemptParents p).left :=
  extends_ensureDirectories t _ _

/-- Making the directories on the way to a file leaves all files as they are. -/
theorem files_ensureParents (h : t.ensureParents p = .ok t') : t'.files = t.files :=
  Attempt.eq_left_of_tree h ▸ (extends_attemptParents t p).files

end Files.Tree

end JetPlot
