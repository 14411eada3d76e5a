import Mathlib.Data.List.TakeDrop
import JetPlot.Program.Reading
import JetPlot.Svg
import JetPlot.Proofs.Text.LetterCase

/-!
# Letter case of programs

Letter case does not matter anywhere in a program text. In lower case, every step of reading yields
what it yields for the text itself, or the same texts in lower case: the words and marks of a line
are looked for in upper case, the marker of the parameters is known in either case, and so are the
letters of a numeral, such as the `e` in front of an exponent.

* `readFloat?_lower`: the number that a numeral stands for;
* `Line.classify_lower`: what a line is;
* `Template.find?_lower`, `Parameters.read_lower`: the parameters in a line;
* `Program.ofText_congr_sameLetter`: programs of texts that differ in letter case only.
-/

namespace JetPlot

open Text

/-! ## Numerals -/

namespace Decimal

theorem readSign_lower (cs : List Char) :
    readSign (lower cs) = ((readSign cs).1, lower (readSign cs).2) := by
  fun_cases readSign cs with
  | case1 | case2 => rfl
  | case3 _ hminus hplus =>
    rw [readSign]
    · exact lower_ne_cons (by decide) hminus
    · exact lower_ne_cons (by decide) hplus

/-- An exponent is an `e` and digits, which may have a sign. -/
theorem readExponent?_cons (e : Char) (rest : List Char) :
    readExponent? (e :: rest) =
      if e = 'e' ∨ e = 'E' then
        if (readSign rest).2 ≠ [] ∧ (readSign rest).2.all Char.isDigit then
          some (if (readSign rest).1 then -(ofDigitChars (readSign rest).2 : Int)
            else (ofDigitChars (readSign rest).2 : Int))
        else none
      else none := rfl

theorem readExponent?_lower (cs : List Char) : readExponent? (lower cs) = readExponent? cs := by
  cases cs with
  | nil => rfl
  | cons e rest =>
    have he : (e.toLower = 'e' ∨ e.toLower = 'E') ↔ (e = 'e' ∨ e = 'E') :=
      or_comm.trans ((toLower_eq_or_iff (by decide)).trans or_comm)
    rw [lower_cons, readExponent?_cons, readExponent?_cons, readSign_lower]
    simp only [he, all_isDigit_lower, lower_eq_nil_iff, ne_eq]
    by_cases hds : (readSign rest).2.all Char.isDigit
    · rw [lower_eq_self (List.all_eq_true.1 hds)]
    · simp only [hds, and_false, if_false, Bool.false_eq_true]

/-- A numeral without a point has no places. -/
theorem readUnsigned?_of_not_point {negative : Bool} {cs : List Char}
    (h : ∀ rest, cs.dropWhile Char.isDigit = '.' :: rest → False) :
    readUnsigned? negative cs =
      if cs.takeWhile Char.isDigit = [] then none
      else (readExponent? (cs.dropWhile Char.isDigit)).map fun exponent =>
        ⟨negative, ofDigitChars (cs.takeWhile Char.isDigit), exponent⟩ := by
  dsimp only [readUnsigned?]
  generalize cs.dropWhile Char.isDigit = rest at h ⊢
  split
  · exact (h _ rfl).elim
  · simp only [List.append_nil, List.length_nil, Int.natCast_zero, Int.sub_zero, Option.map_eq_bind]
    rfl

theorem readUnsigned?_lower (negative : Bool) (cs : List Char) :
    readUnsigned? negative (lower cs) = readUnsigned? negative cs := by
  by_cases hpoint : ∃ rest, cs.dropWhile Char.isDigit = '.' :: rest
  · obtain ⟨rest, hrest⟩ := hpoint
    have hrest' : (lower cs).dropWhile Char.isDigit = '.' :: lower rest := by
      rw [dropWhile_lower isDigit_toLower, hrest]
      rfl
    simp only [readUnsigned?, hrest, hrest', takeWhile_isDigit_lower,
      dropWhile_lower isDigit_toLower, readExponent?_lower]
  · have h : ∀ rest, cs.dropWhile Char.isDigit = '.' :: rest → False := not_exists.1 hpoint
    rw [readUnsigned?_of_not_point h, readUnsigned?_of_not_point]
    · rw [takeWhile_isDigit_lower, dropWhile_lower isDigit_toLower, readExponent?_lower]
    · rw [dropWhile_lower isDigit_toLower]
      exact lower_ne_cons (by decide) h

end Decimal

theorem readFloat?_lower (cs : List Char) : readFloat? (lower cs) = readFloat? cs := by
  have hword (ds : List Char) : (lower ds).map Char.toLower = ds.map Char.toLower := lower_lower ds
  simp only [readFloat?, Decimal.readSign_lower, hword, Decimal.readUnsigned?_lower]

/-! ## Lines -/

theorem Line.classify_lower (cs : List Char) : classify (lower cs) = classify cs := by
  fun_cases classify cs with
  | case1 | case2 | case3 => rfl
  | case4 _ hnil hcomment hheader =>
    rw [classify, upper_lower]
    · exact fun h => hnil (lower_eq_nil_iff.1 h)
    · exact lower_ne_cons (by decide) hcomment
    · exact lower_ne_cons (by decide) hheader

/-! ## Parameters -/

namespace Template

/-- The texts of the parameters in lower case. -/
def lowerCase (t : Template) : Template := ⟨lower t.x, lower t.y, t.third.map lower⟩

theorem afterMarker?_lower (cs : List Char) :
    afterMarker? (lower cs) = (afterMarker? cs).map lower := by
  fun_cases afterMarker? cs with
  | case1 x y rest h =>
    exact if_pos ⟨(toLower_eq_or_iff (by decide)).2 h.1, (toLower_eq_or_iff (by decide)).2 h.2⟩
  | case2 x y rest h =>
    exact if_neg fun h' =>
      h ⟨(toLower_eq_or_iff (by decide)).1 h'.1, (toLower_eq_or_iff (by decide)).1 h'.2⟩
  | case3 _ h =>
    rw [afterMarker?]
    · rfl
    · -- A text that is a marker in lower case is one itself, character by character.
      intro _ _ _ h₁
      obtain ⟨cs₁, rfl, h₂⟩ := (lower_eq_cons_iff (by decide)).1 h₁
      obtain ⟨x, cs₂, rfl, -, h₃⟩ := List.map_eq_cons_iff.1 h₂
      obtain ⟨cs₃, rfl, h₄⟩ := (lower_eq_cons_iff (by decide)).1 h₃
      obtain ⟨y, cs₄, rfl, -, h₅⟩ := List.map_eq_cons_iff.1 h₄
      obtain ⟨cs₅, rfl, h₆⟩ := (lower_eq_cons_iff (by decide)).1 h₅
      obtain ⟨rest, rfl, -⟩ := (lower_eq_cons_iff (by decide)).1 h₆
      exact h x y rest rfl

theorem afterComma?_lower (cs : List Char) :
    afterComma? (lower cs) = (afterComma? cs).map lower := by
  fun_cases afterComma? cs with
  | case1 rest h =>
    rw [afterComma?, skipBlanks_lower, h]
    exact congrArg some (skipBlanks_lower rest)
  | case2 h =>
    rw [afterComma?, skipBlanks_lower]
    split
    · next heq =>
      obtain ⟨rest, hrest, -⟩ := (lower_eq_cons_iff (by decide)).1 heq
      exact absurd hrest (h rest)
    · rfl

theorem splitDigits_lower (cs : List Char) :
    splitDigits (lower cs) = (lower (splitDigits cs).1, lower (splitDigits cs).2) := by
  simp only [splitDigits, List.span_eq_takeWhile_dropWhile, takeWhile_lower isDecimalDigit_toLower,
    dropWhile_lower isDecimalDigit_toLower]

/-- A numeral without a point consists of digits only. -/
theorem splitUnsigned?_of_not_point {cs : List Char}
    (h : ∀ rest, (splitDigits cs).2 = '.' :: rest → False) :
    splitUnsigned? cs = if (splitDigits cs).1 = [] then none else some (splitDigits cs) := by
  fun_cases splitUnsigned? cs <;> simp_all

theorem splitUnsigned?_lower (cs : List Char) :
    splitUnsigned? (lower cs) = (splitUnsigned? cs).map (Prod.map lower lower) := by
  -- What follows the digits is a point if it is one in lower case.
  have hnone {whole rest : List Char} (h : ∀ rest', rest = '.' :: rest' → False)
      (hsplit : splitDigits cs = (whole, rest)) :
      splitUnsigned? (lower cs) = if whole = [] then none else some (lower whole, lower rest) := by
    have hlower : splitDigits (lower cs) = (lower whole, lower rest) := by
      rw [splitDigits_lower, hsplit]
    rw [splitUnsigned?_of_not_point (hlower ▸ lower_ne_cons (by decide) h), hlower]
    simp only [lower_eq_nil_iff]
  fun_cases splitUnsigned? cs with
  | case1 rest hpoint _ hplaces => simp [splitUnsigned?, splitDigits_lower, hpoint, hplaces]
  | case2 rest hpoint places rest' hne hplaces =>
    obtain ⟨d, places, rfl⟩ := List.exists_cons_of_ne_nil hne
    simp [splitUnsigned?, splitDigits_lower, hpoint, hplaces]
  | case3 rest hpoint hwhole => exact hnone hpoint hwhole
  | case4 whole rest hne hpoint places rest' hplaces =>
    obtain ⟨d, whole, rfl⟩ := List.exists_cons_of_ne_nil hne
    simp [splitUnsigned?, splitDigits_lower, hpoint, hplaces]
  | case5 whole rest _ hne hpoint hwhole => exact (hnone hpoint hwhole).trans (if_neg hne)

theorem splitNumeral?_lower (cs : List Char) :
    splitNumeral? (lower cs) = (splitNumeral? cs).map (Prod.map lower lower) := by
  have hsign (sign : Char) (rest : List Char) :
      (splitUnsigned? (lower rest)).map (fun split => (sign.toLower :: split.1, split.2)) =
        ((splitUnsigned? rest).map fun split => (sign :: split.1, split.2)).map
          (Prod.map lower lower) := by
    rw [splitUnsigned?_lower, Option.map_map, Option.map_map]
    rfl
  fun_cases splitNumeral? cs with
  | case1 rest => exact hsign '+' rest
  | case2 rest => exact hsign '-' rest
  | case3 _ hplus hminus =>
    rw [splitNumeral?, splitUnsigned?_lower]
    · exact lower_ne_cons (by decide) hplus
    · exact lower_ne_cons (by decide) hminus

theorem third?_lower (cs : List Char) : third? (lower cs) = (third? cs).map lower := by
  have hends : ∀ c : Char, (!(c.toLower = ',' || c.toLower = ';' || isBlank c.toLower)) =
      !(c = ',' || c = ';' || isBlank c) :=
    apply_toLower (f := fun c => !(c = ',' || c = ';' || isBlank c)) (by decide)
  rw [third?, third?, afterComma?_lower]
  cases afterComma? cs with
  | none => rfl
  | some rest =>
    simp only [Option.map_some, Option.bind_eq_bind, Option.bind_some,
      takeWhile_lower (p := fun c => !(c = ',' || c = ';' || isBlank c)) hends]
    cases rest.takeWhile fun c => !(c = ',' || c = ';' || isBlank c) <;> rfl

theorem readAt?_lower (cs : List Char) : readAt? (lower cs) = (readAt? cs).map lowerCase := by
  simp only [readAt?, afterMarker?_lower, Option.bind_eq_bind, Option.map_bind, Option.bind_map,
    Function.comp_def, skipBlanks_lower, splitNumeral?_lower, Prod.map_fst, Prod.map_snd,
    afterComma?_lower, third?_lower]
  rfl

theorem find?_lower (cs : List Char) : find? (lower cs) = (find? cs).map lowerCase := by
  induction cs with
  | nil => rfl
  | cons c cs ih =>
    rw [lower_cons, find?, find?, ih, ← lower_cons, readAt?_lower]
    cases readAt? (c :: cs) <;> rfl

end Template

namespace Parameters

theorem read_lower (cs : List Char) : read (lower cs) = read cs := by
  have hfinite (ds : List Char) : readFinite? (lower ds) = readFinite? ds := by
    rw [readFinite?, readFinite?, readFloat?_lower]
  have hpoint (x y : List Char) : readPoint? (lower x) (lower y) = readPoint? x y := by
    rw [readPoint?, readPoint?, hfinite, hfinite]
  rw [read, read, Template.find?_lower]
  cases Template.find? cs with
  | none => rfl
  | some t =>
    simp only [Option.map_some, Template.lowerCase, hpoint, Option.bind_map, Function.comp_def,
      hfinite]

end Parameters

/-! ## Programs -/

namespace Reading

theorem ofLine_lower (shutterOpen : Bool) (number : Nat) (line : List Char) (kind : Line) :
    ofLine shutterOpen number (lower line) kind = ofLine shutterOpen number line kind := by
  have hcommand (keyword : Keyword) :
      command? number keyword (lower line) = command? number keyword line := by
    simp only [command?, Parameters.read_lower]
  cases kind <;> simp only [ofLine, hcommand]

/-- The lines of a text yield the same in lower case. -/
theorem ofLines_lower (shutterOpen : Bool) (number : Nat) (lines : List (List Char)) :
    ofLines shutterOpen number (lines.map lower) = ofLines shutterOpen number lines := by
  induction lines generalizing shutterOpen number with
  | nil => rfl
  | cons raw rest ih =>
    rw [List.map_cons, ofLines_cons, ofLines_cons, trim_lower, Line.classify_lower, ofLine_lower,
      ih]

/-- A text is read like the text in lower case. -/
theorem ofText_eq_ofLines_lower (text : String) :
    ofText text = ofLines false 1 (lines (lower text.toList)) := by
  rw [lines_lower, ofLines_lower, ofText]

end Reading

namespace Program

/-- Texts that differ at most in the case of letters stand for the same program, with the same
    commands, states of the shutter and skipped lines. So they have the same toolpath, and the same
    picture. -/
theorem ofText_congr_sameLetter (a b : String) (h : List.Forall₂ SameLetter a.toList b.toList) :
    ofText a = ofText b ∧ Toolpath.trace (ofText a) = Toolpath.trace (ofText b) ∧
      ∀ o : Options, o.check = .ok () → Svg.render (ofText a) o = Svg.render (ofText b) o := by
  have hreading : Reading.ofText a = Reading.ofText b := by
    rw [Reading.ofText_eq_ofLines_lower, lower_eq_lower_iff.2 h, ← Reading.ofText_eq_ofLines_lower]
  have hprogram : ofText a = ofText b := congrArg ofReading hreading
  exact ⟨hprogram, by rw [hprogram], fun o _ => by rw [hprogram]⟩

/-- A segment, read alike in two spellings; the sharp s is no letter of ASCII. -/
theorem ofText_congr_sameLetter_segment :
    let a := "shutterOpen\nmSeg (x,Y), 1,2 , 5E1 straße\nEnds\nwait inF"
    let b := "SHUTTERopen\nMsEG (X,y), 1,2 , 5e1 STRAßE\neNDS\nWAIT INf"
    (ofText a).steps = [⟨⟨.mseg, some ⟨1, 2⟩, none, some 50, 2⟩, true⟩,
      ⟨⟨.ends, none, none, none, 3⟩, true⟩] ∧
    ofText a = ofText b ∧ Svg.render (ofText a) .default = Svg.render (ofText b) .default := by
  intro a b
  obtain ⟨hprogram, -, hpicture⟩ :=
    ofText_congr_sameLetter a b (lower_eq_lower_iff.1 (by decide +kernel))
  exact ⟨by decide +kernel, hprogram, hpicture .default (by decide +kernel)⟩

end Program

end JetPlot
