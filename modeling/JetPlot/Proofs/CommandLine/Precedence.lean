import JetPlot.Proofs.CommandLine.Delivery
import JetPlot.Proofs.Settings.Given
import JetPlot.Proofs.Settings.Range

/-!
# Where options come from

Every option comes from the command line if it is given there, else from the settings file if it
is given there, else from the defaults. A settings file is checked on its own, and the options are
checked once more when all of them are known. So nothing is ever rendered with options out of
range: a run in which rendering asks for that (`Run.asserted?`) goes no other way.

* `options_eq_ok_iff`: which options a run has;
* `options_precedence`: precedence and checks of the options.
-/

namespace JetPlot

/-- Renders a text, provided that the options are in range. -/
def Rendered.ofText? (text : String) (o : Options) : Option Rendered :=
  if o.check = .ok () then some (ofText text o) else none

namespace Run

variable {a : Arguments} {t : Files.Tree} {usual : Files.Path} {o : Options}
  {log : List Log.Record}

/-- A run in which rendering is only possible with options in range. There is no such run if it gets
    as far as rendering with any other options. -/
def asserted? (a : Arguments) (t : Files.Tree) (usual : Files.Path) (stdin : String) :
    Option Run :=
  match options a t usual with
  | (.error fault, log) => some (failed fault t log)
  | (.ok o, log) =>
    let log := log ++ [optionsRecord o]
    match programText a t stdin with
    | .error fault => some (failed fault t log)
    | .ok text =>
      (Rendered.ofText? text o).map fun rendered =>
        deliver a t rendered (log ++ Rendered.renderingLog text o)

/-! ## Options -/

/-- The options of a run are the settings with the values that are given on the command line
    instead, provided that they are in range. -/
theorem options_eq_ok_iff : (options a t usual).1 = .ok o ↔
    ∃ s e, Settings.loadOrDefault t usual a.config = .ok (s, e) ∧ o = override a s ∧
      o.check = .ok () := by
  rw [options]
  split
  · next hload => exact ⟨nofun, fun ⟨_, _, h, _⟩ => nomatch hload.symm.trans h⟩
  · next s e hload =>
    simp only [map_eq_ok_iff, mapError_eq_ok_iff]
    constructor
    · rintro ⟨⟨⟩, hcheck, rfl⟩
      exact ⟨s, e, hload, rfl, hcheck⟩
    · rintro ⟨s', e', hload', rfl, hcheck⟩
      cases hload.symm.trans hload'
      exact ⟨(), hcheck, rfl⟩

/-- The options of a run are in range. -/
theorem check_of_options (h : (options a t usual).1 = .ok o) : o.check = .ok () := by
  obtain ⟨-, -, -, -, hcheck⟩ := options_eq_ok_iff.1 h
  exact hcheck

/-- What is given on the command line counts before the settings, and these before the defaults. -/
theorem eq_override_complete_iff {g : Settings.Given} : o = override a g.complete ↔
    o.width = (a.width.or g.width).getD Options.default.width ∧
      o.height = (a.height.or g.height).getD Options.default.height ∧
      o.lineThickness = (a.lineWidth.or g.lineThickness).getD Options.default.lineThickness ∧
      o.padding = (a.padding.or g.padding).getD Options.default.padding := by
  cases o
  simp only [override, Settings.Given.complete, Option.getD_or, Options.mk.injEq]

/-! ## Rendering -/

/-- Every run gets by with rendering for options in range. -/
theorem asserted?_eq (a : Arguments) (t : Files.Tree) (usual : Files.Path) (stdin : String) :
    asserted? a t usual stdin = some (ofArguments a t usual stdin) := by
  rw [asserted?]
  split
  · next hoptions => rw [ofArguments, hoptions]
  · next o log hoptions =>
    dsimp only
    split
    · next htext =>
      rw [ofArguments, hoptions]
      dsimp only
      rw [htext]
    · next text htext =>
      -- Options that a run finds have been checked, so the condition is never false.
      have hcheck : o.check = .ok () := check_of_options (congrArg Prod.fst hoptions)
      rw [ofArguments_of_ok hoptions htext, Rendered.ofText?, if_pos hcheck, Option.map_some]

/-- A run has options if the settings can be loaded and the options are in range that come from the
    command line, else from the settings file, else from the defaults; these are its options.
    Rendering never gets options out of range. Whether options are checked for a picture or as
    settings, what is reported is the first of the size, the thickness and the padding that is out
    of range. -/
theorem options_precedence (a : Arguments) (t : Files.Tree) (usual : Files.Path) :
    (∀ o, (options a t usual).1 = .ok o ↔ ∃ g, Settings.Loaded t usual a.config g ∧
      (o.width = (a.width.or g.width).getD Options.default.width ∧
        o.height = (a.height.or g.height).getD Options.default.height ∧
        o.lineThickness = (a.lineWidth.or g.lineThickness).getD Options.default.lineThickness ∧
        o.padding = (a.padding.or g.padding).getD Options.default.padding) ∧
      o.check = .ok ()) ∧
    (∀ stdin, asserted? a t usual stdin = some (ofArguments a t usual stdin)) ∧
    ∀ o : Options, match o.outOfRange? with
      | none => o.check = .ok () ∧ Settings.check o = .ok ()
      | some key => ∃ fault, o.check = .error fault ∧ Settings.check o = .error (.invalid fault) ∧
        fault.text = "Invalid option '" ++ key ++ "': " ++ fault.reason ∧
        (SettingsFault.invalid fault).text =
          "Invalid setting '" ++ key ++ "': " ++ fault.reason := by
  refine ⟨fun o => ?_, asserted?_eq a t usual, fun o => ?_⟩
  · simp only [options_eq_ok_iff, ← eq_override_complete_iff]
    constructor
    · rintro ⟨s, e, hload, rfl, hcheck⟩
      obtain ⟨g, hg, rfl⟩ := Settings.exists_loadOrDefault_iff.1 ⟨e, hload⟩
      exact ⟨g, hg, rfl, hcheck⟩
    · rintro ⟨g, hg, rfl, hcheck⟩
      obtain ⟨e, hload⟩ := Settings.exists_loadOrDefault_iff.2 ⟨g, hg, rfl⟩
      exact ⟨g.complete, e, hload, rfl, hcheck⟩
  · split
    · next hrange => exact Options.check_of_inRange hrange
    · next key hrange => exact Options.check_of_outOfRange hrange

end Run

end JetPlot
