import JetPlot.Proofs.Decimal.Numeral
import JetPlot.Proofs.Reading.Backtracking

/-!
# Where the parameters occur

The parameters of a line are read where their form occurs first (`Template.OccursAt`), with the
longest numerals there. The coordinates are a point if both are finite numbers, and otherwise no
later place is tried.

* `readAt?_eq_some_iff`, `find?_eq_some_iff`: where the form occurs, and where it occurs first;
* `read_spec`: the parameters of any line.
-/

namespace JetPlot

open Text

namespace Template

/-- The marker in front of the parameters, in either case. -/
def markers : List (List Char) :=
  ["(X,Y),".toList, "(x,Y),".toList, "(X,y),".toList, "(x,y),".toList]

/-- Whether a text is white space. -/
def IsBlanks (cs : List Char) : Prop := ∀ c ∈ cs, isBlank c

/-- Whether the numerals of two coordinates are in front of a text, the longest ones there, with the
    given text behind them. -/
def Numerals (cs x y rest : List Char) : Prop :=
  ∃ before after, IsBlanks before ∧ IsBlanks after ∧
    cs = x ++ (before ++ ',' :: (after ++ (y ++ rest))) ∧ IsLongest x cs ∧ IsLongest y (y ++ rest)

/-- Whether the form of the parameters occurs in a line at a position, with the given numerals and
    the given text behind it. -/
def OccursAt (line : List Char) (k : ℕ) (x y rest : List Char) : Prop :=
  ∃ marker ∈ markers, ∃ blanks cs, IsBlanks blanks ∧ line.drop k = marker ++ (blanks ++ cs) ∧
    Numerals cs x y rest

/-- Whether a text continues with a comma and a word. -/
def Continues (rest word : List Char) : Prop :=
  ∃ before after tail, IsBlanks before ∧ IsBlanks after ∧
    rest = before ++ ',' :: (after ++ (word ++ tail)) ∧ word ≠ [] ∧ (∀ c ∈ word, isWordChar c) ∧
    ∀ c ∈ tail.head?, isWordChar c = false

/-! ## White space and commas -/

section scan

variable {cs rest word x y : List Char}

theorem isBlanks_takeWhile (cs : List Char) : IsBlanks (cs.takeWhile isBlank) :=
  fun _ => List.mem_takeWhile_imp

theorem skipBlanks_append {blanks : List Char} (h : IsBlanks blanks)
    (hcs : ∀ c ∈ cs.head?, isBlank c = false) : skipBlanks (blanks ++ cs) = cs :=
  dropWhile_append_eq h hcs

theorem head?_dropWhile {p : Char → Bool} (cs : List Char) :
    ∀ c ∈ (cs.dropWhile p).head?, p c = false := by
  intro c hc
  have h := List.head?_dropWhile_not p cs
  rwa [Option.mem_def.1 hc] at h

theorem afterComma?_eq_some_iff : afterComma? cs = some rest ↔
    ∃ before after, IsBlanks before ∧ IsBlanks after ∧ cs = before ++ ',' :: (after ++ rest) ∧
      ∀ c ∈ rest.head?, isBlank c = false := by
  constructor
  · intro h
    rw [afterComma?] at h
    split at h
    · next tail htail =>
      obtain rfl := Option.some.inj h
      refine ⟨cs.takeWhile isBlank, tail.takeWhile isBlank, isBlanks_takeWhile cs,
        isBlanks_takeWhile tail, ?_, head?_dropWhile tail⟩
      rw [skipBlanks, List.takeWhile_append_dropWhile, ← htail]
      exact List.takeWhile_append_dropWhile.symm
    · cases h
  · rintro ⟨before, after, hbefore, hafter, rfl, hrest⟩
    have hcomma : ∀ c ∈ (',' :: (after ++ rest)).head?, isBlank c = false := by
      intro c hc
      obtain rfl := Option.some.inj hc
      decide
    rw [afterComma?, skipBlanks_append hbefore hcomma]
    exact congrArg some (skipBlanks_append hafter hrest)

theorem isBlank_of_isWordChar {c : Char} (hc : isWordChar c) : isBlank c = false := by
  by_contra hblank
  rw [Bool.not_eq_false] at hblank
  rw [isWordChar, hblank, Bool.or_true] at hc
  cases hc

theorem third?_eq_some_iff : third? rest = some word ↔ Continues rest word := by
  rw [third?_eq, Option.bind_eq_some_iff]
  constructor
  · rintro ⟨cs, hcomma, hword⟩
    obtain ⟨before, after, hbefore, hafter, rfl, -⟩ := afterComma?_eq_some_iff.1 hcomma
    have happend : cs = cs.takeWhile isWordChar ++ cs.dropWhile isWordChar :=
      List.takeWhile_append_dropWhile.symm
    split at hword
    · cases hword
    · next hne =>
      obtain rfl := Option.some.inj hword
      exact ⟨before, after, cs.dropWhile isWordChar, hbefore, hafter,
        congrArg (fun cs => before ++ ',' :: (after ++ cs)) happend, hne,
        fun _ => List.mem_takeWhile_imp, head?_dropWhile cs⟩
  · rintro ⟨before, after, tail, hbefore, hafter, rfl, hne, hword, htail⟩
    obtain ⟨c, word, rfl⟩ := List.exists_cons_of_ne_nil hne
    have hblank : ∀ d ∈ (c :: word ++ tail).head?, isBlank d = false := by
      intro d hd
      obtain rfl := Option.some.inj hd
      exact isBlank_of_isWordChar (hword c List.mem_cons_self)
    have htake : (c :: word ++ tail).takeWhile isWordChar = c :: word :=
      takeWhile_append_eq hword htail
    refine ⟨c :: word ++ tail,
      afterComma?_eq_some_iff.2 ⟨before, after, hbefore, hafter, rfl, hblank⟩, ?_⟩
    rw [htake, if_neg hne]

theorem afterMarker?_eq_some_iff :
    afterMarker? cs = some rest ↔ ∃ marker ∈ markers, cs = marker ++ rest := by
  constructor
  · intro h
    rw [afterMarker?.eq_def] at h
    split at h
    · split at h
      · next hxy =>
        obtain rfl := Option.some.inj h
        obtain ⟨rfl | rfl, rfl | rfl⟩ := hxy
        · exact ⟨"(X,Y),".toList, by decide, rfl⟩
        · exact ⟨"(X,y),".toList, by decide, rfl⟩
        · exact ⟨"(x,Y),".toList, by decide, rfl⟩
        · exact ⟨"(x,y),".toList, by decide, rfl⟩
      · cases h
    · cases h
  · rintro ⟨marker, hmarker, rfl⟩
    simp only [markers, List.mem_cons, List.not_mem_nil, or_false] at hmarker
    rcases hmarker with rfl | rfl | rfl | rfl <;> rfl

/-! ## The numerals -/

theorem IsCoordinate.head?_append {n : List Char} (h : IsCoordinate n) (rest : List Char) :
    ∀ c ∈ (n ++ rest).head?, isBlank c = false := by
  intro c hc
  rw [List.head?_append_of_ne_nil _ h.ne_nil] at hc
  exact h.not_isBlank (List.mem_of_head? hc)

theorem readNumerals?_eq_some_iff {t : Template} : readNumerals? cs = some t ↔
    ∃ rest, Numerals cs t.x t.y rest ∧ t.third = third? rest := by
  constructor
  · intro h
    obtain ⟨⟨x, rest⟩, hx, h⟩ := Option.bind_eq_some_iff.1 h
    obtain ⟨rest, hcomma, h⟩ := Option.bind_eq_some_iff.1 h
    obtain ⟨⟨y, rest⟩, hy, h⟩ := Option.bind_eq_some_iff.1 h
    obtain rfl := Option.some.inj h
    obtain ⟨rfl, hx⟩ := splitNumeral?_eq_some_iff.1 hx
    obtain ⟨rfl, hy⟩ := splitNumeral?_eq_some_iff.1 hy
    obtain ⟨before, after, hbefore, hafter, rfl, -⟩ := afterComma?_eq_some_iff.1 hcomma
    exact ⟨rest, ⟨before, after, hbefore, hafter, rfl, hx, hy⟩, rfl⟩
  · rintro ⟨rest, ⟨before, after, hbefore, hafter, hcs, hx, hy⟩, hthird⟩
    have hcomma := afterComma?_eq_some_iff.2
      ⟨before, after, hbefore, hafter, rfl, hy.1.head?_append rest⟩
    have hsplit := splitNumeral?_eq_some_iff.2 ⟨rfl, hy⟩
    simp only [readNumerals?, splitNumeral?_eq_some_iff.2 ⟨hcs, hx⟩, hcomma, hsplit,
      Option.bind_eq_bind, Option.bind_some, ← hthird]
    rfl

/-- The template is read at a position if the form of the parameters occurs there. -/
theorem readAt?_eq_some_iff {line : List Char} {k : ℕ} {t : Template} :
    readAt? (line.drop k) = some t ↔
      ∃ rest, OccursAt line k t.x t.y rest ∧ t.third = third? rest := by
  rw [readAt?_eq, Option.bind_eq_some_iff]
  constructor
  · rintro ⟨cs, hmarker, h⟩
    obtain ⟨marker, hmem, hdrop⟩ := afterMarker?_eq_some_iff.1 hmarker
    obtain ⟨rest, hnumerals, hthird⟩ := readNumerals?_eq_some_iff.1 h
    refine ⟨rest, ⟨marker, hmem, cs.takeWhile isBlank, skipBlanks cs, isBlanks_takeWhile cs, ?_,
      hnumerals⟩, hthird⟩
    rw [skipBlanks, List.takeWhile_append_dropWhile, hdrop]
  · rintro ⟨rest, ⟨marker, hmem, blanks, cs, hblanks, hdrop, hnumerals⟩, hthird⟩
    refine ⟨blanks ++ cs, afterMarker?_eq_some_iff.2 ⟨marker, hmem, hdrop⟩, ?_⟩
    -- The numeral ends the white space, so all of that is skipped and nothing else.
    have hhead : ∀ c ∈ cs.head?, isBlank c = false := by
      obtain ⟨_, _, -, -, rfl, hx, -⟩ := hnumerals
      exact hx.1.head?_append _
    rw [skipBlanks_append hblanks hhead]
    exact readNumerals?_eq_some_iff.2 ⟨rest, hnumerals, hthird⟩

/-! ## The first occurrence -/

theorem readAt?_eq_none_iff {line : List Char} {k : ℕ} :
    readAt? (line.drop k) = none ↔ ∀ x y rest, ¬ OccursAt line k x y rest := by
  constructor
  · intro h x y rest hoccurs
    rw [(@readAt?_eq_some_iff _ _ ⟨x, y, third? rest⟩).2 ⟨rest, hoccurs, rfl⟩] at h
    cases h
  · intro h
    by_contra hsome
    obtain ⟨t, ht⟩ := Option.ne_none_iff_exists'.1 hsome
    obtain ⟨rest, hoccurs, -⟩ := readAt?_eq_some_iff.1 ht
    exact h _ _ _ hoccurs

/-- The template is found at the first position where it is read. -/
theorem find?_eq_of_first {line : List Char} {k : ℕ} {t : Template}
    (hk : readAt? (line.drop k) = some t) (hfirst : ∀ j < k, readAt? (line.drop j) = none) :
    find? line = some t := by
  induction k generalizing line with
  | zero =>
    cases line with
    | nil => cases hk
    | cons c line => exact (congrArg (Option.or · _) hk).trans rfl
  | succ k ih =>
    cases line with
    | nil => cases hk
    | cons c line =>
      have hzero : readAt? (c :: line) = none := hfirst 0 (Nat.succ_pos k)
      rw [find?, hzero]
      exact ih hk fun j hj => hfirst (j + 1) (Nat.succ_lt_succ hj)

theorem find?_eq_none {line : List Char} (h : ∀ k, readAt? (line.drop k) = none) :
    find? line = none := by
  induction line with
  | nil => rfl
  | cons c line ih =>
    have hzero : readAt? (c :: line) = none := h 0
    rw [find?, hzero]
    exact ih fun k => h (k + 1)

end scan

end Template

namespace Parameters

theorem readFinite?_eq_some_iff {n : List Char} {v : Float} :
    readFinite? n = some v ↔ readFloat? n = some v ∧ v.isFinite := by
  rw [readFinite?, Option.filter_eq_some_iff]

theorem readPoint?_eq_some_iff {x y : List Char} {p : Point} :
    readPoint? x y = some p ↔ readFinite? x = some p.x ∧ readFinite? y = some p.y := by
  constructor
  · intro h
    obtain ⟨v, hv, h⟩ := Option.bind_eq_some_iff.1 h
    obtain ⟨w, hw, h⟩ := Option.bind_eq_some_iff.1 h
    obtain rfl := Option.some.inj h
    exact ⟨hv, hw⟩
  · rintro ⟨hx, hy⟩
    rw [readPoint?, hx, hy]
    rfl

/-- The parameters of a line are read where their form occurs first, at full length. Both
    coordinates have to be finite numbers, and so has the third parameter; if it or a coordinate is
    not, no other place is tried. -/
theorem read_spec (line : List Char) :
    Pattern.parameters.captures? line = (Template.find? line).map Template.captures ∧
    ((∀ k x y rest, ¬ Template.OccursAt line k x y rest) → read line = ⟨none, none⟩) ∧
    ∀ k x y rest, Template.OccursAt line k x y rest →
      (∀ j < k, ∀ x y rest, ¬ Template.OccursAt line j x y rest) →
      (∀ p, (read line).point = some p ↔ (readFloat? x = some p.x ∧ p.x.isFinite) ∧
        readFloat? y = some p.y ∧ p.y.isFinite) ∧
      ∀ v, (read line).third = some v ↔ (read line).point.isSome ∧
        ∃ word, Template.Continues rest word ∧ readFloat? word = some v ∧ v.isFinite := by
  refine ⟨Pattern.captures?_parameters line, fun hnone => ?_, fun k x y rest hk hfirst => ?_⟩
  · have hfind := Template.find?_eq_none fun k => Template.readAt?_eq_none_iff.2 (hnone k)
    rw [read, hfind]
  · have hread : Template.readAt? (line.drop k) = some ⟨x, y, Template.third? rest⟩ :=
      Template.readAt?_eq_some_iff.2 ⟨rest, hk, rfl⟩
    have hfind := Template.find?_eq_of_first hread fun j hj =>
      Template.readAt?_eq_none_iff.2 (hfirst j hj)
    simp only [read, hfind, ← readFinite?_eq_some_iff]
    cases hpoint : readPoint? x y with
    | none =>
      refine ⟨fun p => ?_, fun v => ?_⟩
      · rw [← readPoint?_eq_some_iff, hpoint]
      · constructor
        · intro h
          cases h
        · rintro ⟨h, -⟩
          cases h
    | some q =>
      refine ⟨fun p => ?_, fun v => ?_⟩
      · rw [← readPoint?_eq_some_iff, hpoint]
      · rw [Option.bind_eq_some_iff]
        simp only [Option.isSome_some, true_and, Template.third?_eq_some_iff]

example : read "line (x,Y), +5. ,.5 , 2e1; end".toList = ⟨some ⟨5, 0.5⟩, some 20⟩ := by
  decide +kernel

end Parameters

end JetPlot
