import Mathlib.Data.List.Forall2
import JetPlot.Proofs.Text.Lines
import JetPlot.Text.Digit
import JetPlot.Text.UpperCase

/-!
# Letter case

A text in lower case has the capital letters of ASCII made small, and all other characters as they
were (`Text.lower`). Two texts are the same in lower case if they differ at most in the case of
such letters. Which characters are white space, digits or marks does not change with the case of
letters. Hence a text in lower case has the same lines in lower case, and the same upper case.

* `lower_eq_lower_iff`: which texts are the same in lower case;
* `lines_lower`, `trim_lower`: the lines of a text in lower case, and lines without white space;
* `upper_lower`: the upper case of a text in lower case.
-/

namespace JetPlot.Text

/-- The capital letters of ASCII. -/
def capitals : List Char :=
  ['A', 'B', 'C', 'D', 'E', 'F', 'G', 'H', 'I', 'J', 'K', 'L', 'M', 'N', 'O', 'P', 'Q', 'R', 'S',
    'T', 'U', 'V', 'W', 'X', 'Y', 'Z']

/-- A text with the capital letters of ASCII made small. -/
def lower (cs : List Char) : List Char := cs.map Char.toLower

/-! ## Characters -/

theorem toLower_eq_self_or_mem (c : Char) : c.toLower = c ∨ c ∈ capitals := by
  by_cases h : c.val ≥ 'A'.val ∧ c.val ≤ 'Z'.val
  · have hcapitals : (List.range' 65 26).all fun n => Char.ofNat n ∈ capitals := by decide
    have hrange : c.toNat ∈ List.range' 65 26 := by
      obtain ⟨hlow, hhigh⟩ := h
      rw [List.mem_range'_1]
      exact ⟨hlow, Nat.lt_succ_of_le hhigh⟩
    have hmem := of_decide_eq_true (List.all_eq_true.1 hcapitals c.toNat hrange)
    exact .inr (Char.ofNat_toNat c ▸ hmem)
  · exact .inl (dif_neg h)

/-- What is the same for every capital letter and its small letter does not depend on letter case.
    The letters are few enough to be tried one by one. -/
theorem apply_toLower {β : Type} [DecidableEq β] {f : Char → β}
    (h : capitals.all fun c => f c.toLower = f c) (c : Char) : f c.toLower = f c :=
  (toLower_eq_self_or_mem c).elim (congrArg f) fun hc =>
    of_decide_eq_true (List.all_eq_true.1 h c hc)

theorem isBlank_toLower (c : Char) : isBlank c.toLower = isBlank c := apply_toLower (by decide) c

theorem isDecimalDigit_toLower (c : Char) : isDecimalDigit c.toLower = isDecimalDigit c :=
  apply_toLower (by decide +kernel) c

theorem isDigit_toLower (c : Char) : c.toLower.isDigit = c.isDigit := apply_toLower (by decide) c

theorem isAlpha_toLower (c : Char) : c.toLower.isAlpha = c.isAlpha := apply_toLower (by decide) c

theorem upperChar_toLower (c : Char) : upperChar c.toLower = upperChar c :=
  apply_toLower (by decide) c

theorem toLower_toLower (c : Char) : c.toLower.toLower = c.toLower := apply_toLower (by decide) c

theorem toLower_of_isDigit {c : Char} (hc : c.isDigit) : c.toLower = c := by
  refine dif_neg fun hupper => ?_
  have hle := of_decide_eq_true (Bool.and_eq_true_iff.1 hc).2
  exact absurd (UInt32.le_trans hupper.1 hle) (by decide)

theorem isAlpha_of_mem_capitals {c : Char} (hc : c ∈ capitals) : c.isAlpha :=
  List.all_eq_true.1 (by decide : capitals.all Char.isAlpha) c hc

/-- A character that is no letter stands where it stood. -/
theorem toLower_eq_iff {c d : Char} (hd : d.isAlpha = false) : c.toLower = d ↔ c = d := by
  -- Only capitals change, and these become letters, which `d` is not.
  rcases toLower_eq_self_or_mem c with h | h
  · rw [h]
  · have halpha := isAlpha_of_mem_capitals h
    constructor
    · rintro rfl
      rw [isAlpha_toLower, halpha] at hd
      cases hd
    · rintro rfl
      rw [halpha] at hd
      cases hd

/-- A letter in either case stands where it stood in either case. -/
theorem toLower_eq_or_iff {c d : Char} (hd : d ∈ capitals) :
    c.toLower = d ∨ c.toLower = d.toLower ↔ c = d ∨ c = d.toLower := by
  have h : capitals.all fun d => capitals.all fun c =>
      decide (c.toLower = d ∨ c.toLower = d.toLower) = decide (c = d ∨ c = d.toLower) := by
    decide +kernel
  rw [← decide_eq_decide]
  exact apply_toLower (f := fun c => decide (c = d ∨ c = d.toLower)) (List.all_eq_true.1 h d hd) c

/-- Whether two characters are the same but for the case of a letter of ASCII. -/
def SameLetter (c d : Char) : Prop :=
  c = d ∨ c ∈ capitals ∧ d = c.toLower ∨ d ∈ capitals ∧ c = d.toLower

theorem toLower_eq_toLower_iff {c d : Char} : c.toLower = d.toLower ↔ SameLetter c d := by
  constructor
  · intro h
    rcases toLower_eq_self_or_mem c with hc | hc
    · rcases toLower_eq_self_or_mem d with hd | hd
      · exact .inl (hc ▸ hd ▸ h)
      · exact .inr (.inr ⟨hd, hc ▸ h⟩)
    · rcases toLower_eq_self_or_mem d with hd | hd
      · exact .inr (.inl ⟨hc, (hd ▸ h).symm⟩)
      -- Different capitals have different small letters, as a look at all pairs shows.
      · have hinjective : capitals.all fun c => capitals.all fun d =>
            c.toLower = d.toLower → c = d := by
          decide +kernel
        have hinjective := List.all_eq_true.1 (List.all_eq_true.1 hinjective c hc) d hd
        exact .inl (of_decide_eq_true hinjective h)
  · rintro (rfl | ⟨-, rfl⟩ | ⟨-, rfl⟩)
    · rfl
    · exact (toLower_toLower c).symm
    · exact toLower_toLower d

/-! ## Texts -/

section texts

variable {cs : List Char} {p : Char → Bool}

@[simp] theorem lower_nil : lower [] = [] := rfl

@[simp] theorem lower_cons (c : Char) (cs : List Char) :
    lower (c :: cs) = c.toLower :: lower cs := rfl

@[simp] theorem lower_append (cs ds : List Char) : lower (cs ++ ds) = lower cs ++ lower ds :=
  List.map_append

/-- Two texts are the same in lower case if they differ at most in the case of letters. -/
theorem lower_eq_lower_iff {ds : List Char} :
    lower cs = lower ds ↔ List.Forall₂ SameLetter cs ds := by
  rw [lower, lower, ← List.forall₂_eq_eq_eq, List.forall₂_map_left_iff, List.forall₂_map_right_iff]
  simp only [toLower_eq_toLower_iff]

theorem lower_lower (cs : List Char) : lower (lower cs) = lower cs := by
  rw [lower, lower, List.map_map]
  exact List.map_congr_left fun c _ => toLower_toLower c

theorem lower_eq_nil_iff : lower cs = [] ↔ cs = [] := List.map_eq_nil_iff

/-- Digits have no case. -/
theorem lower_eq_self (h : ∀ c ∈ cs, c.isDigit) : lower cs = cs :=
  (List.map_congr_left fun c hc => toLower_of_isDigit (h c hc)).trans cs.map_id

/-- A text begins with a character that is no letter if it does so in lower case. -/
theorem lower_eq_cons_iff {d : Char} (hd : d.isAlpha = false) {ds : List Char} :
    lower cs = d :: ds ↔ ∃ rest, cs = d :: rest ∧ lower rest = ds := by
  rw [lower, List.map_eq_cons_iff]
  constructor
  · rintro ⟨c, rest, rfl, hc, rfl⟩
    exact ⟨rest, congrArg (· :: rest) ((toLower_eq_iff hd).1 hc), rfl⟩
  · rintro ⟨rest, rfl, rfl⟩
    exact ⟨d, rest, rfl, (toLower_eq_iff hd).2 rfl, rfl⟩

theorem lower_ne_cons {d : Char} (hd : d.isAlpha = false) (h : ∀ rest, cs = d :: rest → False)
    (rest : List Char) : lower cs = d :: rest → False := fun heq =>
  let ⟨rest, hcs, _⟩ := (lower_eq_cons_iff hd).1 heq
  h rest hcs

theorem takeWhile_lower (hp : ∀ c : Char, p c.toLower = p c) (cs : List Char) :
    (lower cs).takeWhile p = lower (cs.takeWhile p) := by
  have hcomp : p ∘ Char.toLower = p := funext hp
  rw [lower, List.takeWhile_map, hcomp, lower]

theorem dropWhile_lower (hp : ∀ c : Char, p c.toLower = p c) (cs : List Char) :
    (lower cs).dropWhile p = lower (cs.dropWhile p) := by
  have hcomp : p ∘ Char.toLower = p := funext hp
  rw [lower, List.dropWhile_map, hcomp, lower]

theorem takeWhile_isDigit_lower (cs : List Char) :
    (lower cs).takeWhile Char.isDigit = cs.takeWhile Char.isDigit := by
  rw [takeWhile_lower isDigit_toLower]
  exact lower_eq_self (List.all_eq_true.1 List.all_takeWhile)

theorem all_isDigit_lower (cs : List Char) : (lower cs).all Char.isDigit = cs.all Char.isDigit := by
  rw [lower, List.all_map]
  exact congrArg cs.all (funext isDigit_toLower)

theorem skipBlanks_lower (cs : List Char) : skipBlanks (lower cs) = lower (skipBlanks cs) :=
  dropWhile_lower isBlank_toLower cs

theorem trim_lower (cs : List Char) : trim (lower cs) = lower (trim cs) := by
  have hreverse (ds : List Char) : (lower ds).reverse = lower ds.reverse := List.map_reverse.symm
  rw [trim, trim, skipBlanks_lower, hreverse, skipBlanks_lower, hreverse]

/-- The upper case of a text does not depend on the case of the letters of ASCII. -/
theorem upper_lower (cs : List Char) : upper (lower cs) = upper cs := by
  rw [upper, upper, lower, List.flatMap_map]
  exact congrArg (cs.flatMap ·) (funext upperChar_toLower)

theorem pushChar_lower (c : Char) (ls : List (List Char)) :
    pushChar c.toLower (ls.map lower) = (pushChar c ls).map lower := by
  cases ls <;> rfl

/-- Lines end at the same places whatever the case of letters is. -/
theorem lines_lower (cs : List Char) : lines (lower cs) = (lines cs).map lower := by
  fun_induction lines cs with
  | case1 => rfl
  | case2 cs ih => exact congrArg ([] :: ·) ih
  | case3 cs ih => exact congrArg ([] :: ·) ih
  | case4 c cs hreturn hnewline ih =>
    rw [lower_cons, lines_cons, ih, pushChar_lower]
    · exact (toLower_eq_iff (by decide)).not.2 hnewline
    · intro hc hhead
      obtain rfl := (toLower_eq_iff (by decide)).1 hc
      cases cs with
      | nil => cases hhead
      | cons d cs =>
        obtain rfl := (toLower_eq_iff (by decide)).1 (Option.some.inj hhead)
        exact hreturn cs rfl rfl

end texts

end JetPlot.Text
