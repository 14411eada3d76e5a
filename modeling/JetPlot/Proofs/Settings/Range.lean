import JetPlot.Proofs.Double.Value
import JetPlot.Proofs.Settings.Store

/-!
# Options in range

There are three requirements on options (`Options.requirements`): the picture has a size, the
thickness is a positive number and the padding is a number that is not negative. Neither an
infinity nor a NaN meets the last two. Checking options tells the first requirement that they do
not meet (`Options.mapError_key_check`).
-/

namespace JetPlot.Options

/-- The requirements on options in order, each with the name under which a fault is reported. -/
def requirements : List (String × (Options → Bool)) :=
  [("size", fun o => o.width ≠ 0 ∧ o.height ≠ 0),
    ("line_thickness", fun o => o.lineThickness.isFinite ∧ 0 < o.lineThickness),
    ("padding", fun o => o.padding.isFinite ∧ 0 ≤ o.padding)]

/-- The name of the first requirement that options do not meet. -/
def outOfRange? (o : Options) : Option String :=
  (requirements.find? fun requirement => !requirement.2 o).map Prod.fst

/-- Checking options tells the first requirement that they do not meet. -/
theorem mapError_key_check (o : Options) :
    o.check.mapError OptionFault.key = o.outOfRange?.elim (.ok ()) .error := by
  have hsize : (o.width = 0 ∨ o.height = 0) ↔ ¬ (o.width ≠ 0 ∧ o.height ≠ 0) := by
    rw [not_and_or, not_not, not_not]
  -- A requirement is negated by the opposite comparison, but only for finite numbers.
  have hthickness : (!o.lineThickness.isFinite || o.lineThickness ≤ 0) ↔
      ¬ (o.lineThickness.isFinite ∧ 0 < o.lineThickness) := by
    cases hfinite : o.lineThickness.isFinite with
    | false => simp
    | true => simp [← Double.not_le_iff hfinite (by rfl : (0 : Float).isFinite)]
  have hpadding : (!o.padding.isFinite || o.padding < 0) ↔
      ¬ (o.padding.isFinite ∧ 0 ≤ o.padding) := by
    cases hfinite : o.padding.isFinite with
    | false => simp
    | true => simp [← Double.not_lt_iff hfinite (by rfl : (0 : Float).isFinite)]
  simp only [check, outOfRange?, requirements, List.find?_cons, hsize, hthickness, hpadding]
  by_cases h₁ : o.width ≠ 0 ∧ o.height ≠ 0
  · by_cases h₂ : o.lineThickness.isFinite ∧ 0 < o.lineThickness
    · by_cases h₃ : o.padding.isFinite ∧ 0 ≤ o.padding <;> simp [h₁, h₂, h₃] <;> rfl
    · simp [h₁, h₂]
      rfl
  · simp only [h₁]
    rfl

variable {o : Options}

/-- Options are in range if they meet all requirements. -/
theorem check_eq_ok_iff : o.check = .ok () ↔ ∀ requirement ∈ requirements, requirement.2 o := by
  have hfind : o.outOfRange? = none ↔ ∀ requirement ∈ requirements, requirement.2 o := by
    simp [outOfRange?]
  rw [← hfind, ← mapError_eq_ok_iff (f := OptionFault.key), mapError_key_check]
  cases o.outOfRange? <;> simp

/-- The thickness and the padding of options in range are finite and not negative. -/
theorem nonneg_of_check (h : o.check = .ok ()) :
    (o.lineThickness.isFinite ∧ 0 ≤ o.lineThickness) ∧ o.padding.isFinite ∧ 0 ≤ o.padding := by
  obtain ⟨-, hthickness, hpadding⟩ : _ ∧ _ ∧ _ := by
    simpa [requirements] using check_eq_ok_iff.1 h
  exact ⟨⟨hthickness.1, Double.le_of_lt_of_isFinite rfl hthickness.1 hthickness.2⟩, hpadding⟩

/-- Options that meet all requirements pass, whether they are checked for a picture or as
    settings. -/
theorem check_of_inRange (h : o.outOfRange? = none) :
    o.check = .ok () ∧ Settings.check o = .ok () := by
  have hcheck := mapError_key_check o
  rw [h] at hcheck
  have hcheck : o.check = .ok () := mapError_eq_ok_iff.1 hcheck
  exact ⟨hcheck, Settings.check_eq_ok_iff.2 hcheck⟩

/-- Options that do not meet all requirements are rejected with the name of the first one that they
    do not meet, and the same reason for a picture and as settings. -/
theorem check_of_outOfRange {key : String} (h : o.outOfRange? = some key) :
    ∃ fault, o.check = .error fault ∧ Settings.check o = .error (.invalid fault) ∧
      fault.text = "Invalid option '" ++ key ++ "': " ++ fault.reason ∧
      (SettingsFault.invalid fault).text = "Invalid setting '" ++ key ++ "': " ++ fault.reason := by
  have hcheck := mapError_key_check o
  rw [h] at hcheck
  cases hfault : o.check with
  | ok => rw [hfault] at hcheck; cases hcheck
  | error fault =>
    rw [hfault] at hcheck
    obtain rfl : fault.key = key := Except.error.inj hcheck
    exact ⟨fault, rfl, by rw [Settings.check, hfault]; rfl, rfl, rfl⟩

end JetPlot.Options
