import JetPlot.Program.Template
import JetPlot.Proofs.Reading.Pattern
import Mathlib.Data.List.TakeWhile

/-!
# Numerals of coordinates

A coordinate is written as a numeral (`Template.IsCoordinate`): an optional sign, then digits that
may have a point and more digits behind them, or a point and digits. The digits may be of any
script.

* `splitNumeral?_eq_some_iff`: what is split off the front of a text is its longest numeral.
-/

namespace JetPlot

namespace Template

open Pattern Text

/-- Whether a text is a numeral without a sign. -/
def IsUnsigned (n : List Char) : Prop :=
  (∃ whole fraction, n = whole ++ fraction ∧ whole ≠ [] ∧ (∀ c ∈ whole, isDecimalDigit c) ∧
    (fraction = [] ∨ ∃ places, fraction = '.' :: places ∧ ∀ c ∈ places, isDecimalDigit c)) ∨
  ∃ places, n = '.' :: places ∧ places ≠ [] ∧ ∀ c ∈ places, isDecimalDigit c

/-- Whether a text is a numeral, which may have a sign. -/
def IsCoordinate (n : List Char) : Prop :=
  ∃ sign unsigned, n = sign ++ unsigned ∧ (sign = [] ∨ sign = ['+'] ∨ sign = ['-']) ∧
    IsUnsigned unsigned

/-- Whether a text is the longest numeral at the front of another one. -/
def IsLongest (n cs : List Char) : Prop :=
  IsCoordinate n ∧ n <+: cs ∧ ∀ m, IsCoordinate m → m <+: cs → m.length ≤ n.length

/-! ## Characters -/

/-- A character that may stand in a numeral behind its sign. -/
def isPlace (c : Char) : Bool := Text.isDecimalDigit c || c = '.'

theorem isPlace_of_isDecimalDigit {c : Char} (hc : Text.isDecimalDigit c) : isPlace c :=
  Bool.or_eq_true_iff.2 (.inl hc)

/-- A point is no digit. -/
theorem not_begins_point {cs : List Char} (h : Begins Text.isDecimalDigit cs) :
    ¬ Begins (· = '.') cs := by
  refine not_begins_of_false (fun c hc => decide_eq_false ?_) h
  rintro rfl
  exact absurd hc (by decide)

/-- A sign in front of a numeral. -/
def isSign (c : Char) : Bool := c = '+' ∨ c = '-'

theorem isPlace_of_isSign {c : Char} (hc : isSign c) : isPlace c = false := by
  rcases of_decide_eq_true hc with rfl | rfl <;> decide

/-- No white space is a digit. -/
theorem isDecimalDigit_of_isBlank {c : Char} (hc : isBlank c) : isDecimalDigit c = false := by
  have hdisjoint : ∀ range ∈ blankRanges, ∀ first ∈ zeros,
      range.2 < first ∨ first + 9 < range.1 := by decide +kernel
  rw [Bool.eq_false_iff]
  intro hdigit
  obtain ⟨range, hrange, hblank⟩ := List.any_eq_true.1 hc
  obtain ⟨first, hfirst, hdigit⟩ := List.any_eq_true.1 hdigit
  have hblank := of_decide_eq_true hblank
  have hdigit := of_decide_eq_true hdigit
  rcases hdisjoint range hrange first hfirst with hlt | hlt <;> omega

theorem isPlace_of_isBlank {c : Char} (hc : isBlank c) : isPlace c = false := by
  refine Bool.or_eq_false_iff.2 ⟨isDecimalDigit_of_isBlank hc, decide_eq_false ?_⟩
  rintro rfl
  exact absurd hc (by decide)

theorem isSign_of_isBlank {c : Char} (hc : isBlank c) : isSign c = false := by
  refine decide_eq_false ?_
  rintro (rfl | rfl) <;> exact absurd hc (by decide)

/-! ## Splitting -/

section numerals

variable {cs rest n : List Char}

theorem splitDigits_eq (cs : List Char) :
    splitDigits cs = (cs.takeWhile isDecimalDigit, cs.dropWhile isDecimalDigit) :=
  List.span_eq_takeWhile_dropWhile ..

/-- A numeral without a sign is a point and digits, or digits with a fraction behind them if there
    is a point. -/
theorem splitUnsigned?_eq_some (h : splitUnsigned? cs = some (n, rest)) :
    (∃ tail, cs = '.' :: tail ∧ tail.takeWhile isDecimalDigit ≠ [] ∧
      n = '.' :: tail.takeWhile isDecimalDigit ∧ rest = tail.dropWhile isDecimalDigit) ∨
    cs.takeWhile isDecimalDigit ≠ [] ∧
      ((∃ tail, cs.dropWhile isDecimalDigit = '.' :: tail ∧
        n = cs.takeWhile isDecimalDigit ++ '.' :: tail.takeWhile isDecimalDigit ∧
        rest = tail.dropWhile isDecimalDigit) ∨
      ¬ Begins (· = '.') (cs.dropWhile isDecimalDigit) ∧ n = cs.takeWhile isDecimalDigit ∧
        rest = cs.dropWhile isDecimalDigit) := by
  have happend := @List.takeWhile_append_dropWhile _ isDecimalDigit cs
  rw [splitUnsigned?, splitDigits_eq] at h
  split at h
  · next tail hsplit =>
    obtain ⟨hwhole, htail⟩ := Prod.mk.inj hsplit
    rw [hwhole, htail] at happend
    rw [splitDigits_eq] at h
    split at h
    · cases h
    · next fraction _ hne hfraction =>
      obtain ⟨rfl, rfl⟩ := Prod.mk.inj hfraction
      obtain ⟨rfl, rfl⟩ := Prod.mk.inj (Option.some.inj h)
      exact .inl ⟨tail, happend.symm, hne, rfl, rfl⟩
  · cases h
  · next whole tail hne hsplit =>
    obtain ⟨rfl, htail⟩ := Prod.mk.inj hsplit
    rw [splitDigits_eq] at h
    obtain ⟨rfl, rfl⟩ := Prod.mk.inj (Option.some.inj h)
    exact .inr ⟨hne, .inl ⟨tail, htail, rfl, rfl⟩⟩
  · next whole tail _ hne hpoint hsplit =>
    obtain ⟨rfl, rfl⟩ := Prod.mk.inj hsplit
    obtain ⟨rfl, rfl⟩ := Prod.mk.inj (Option.some.inj h)
    refine .inr ⟨hne, .inr ⟨fun ⟨c, hc, hp⟩ => ?_, rfl, rfl⟩⟩
    obtain ⟨tail, htail⟩ := List.head?_eq_some_iff.1 hc
    exact hpoint tail (htail.trans (by rw [of_decide_eq_true hp]))

/-- Without a numeral, there is neither a digit nor a point with a digit behind it. -/
theorem splitUnsigned?_eq_none (h : splitUnsigned? cs = none) :
    cs.takeWhile isDecimalDigit = [] ∧
      ∀ tail, cs = '.' :: tail → tail.takeWhile isDecimalDigit = [] := by
  rw [splitUnsigned?, splitDigits_eq] at h
  split at h
  · next tail hsplit =>
    obtain ⟨hwhole, htail⟩ := Prod.mk.inj hsplit
    rw [splitDigits_eq] at h
    split at h
    · next hfraction =>
      refine ⟨hwhole, fun tail' hcs => ?_⟩
      rw [hcs] at htail
      obtain rfl := (List.cons.inj htail).2
      exact (Prod.mk.inj hfraction).1
    · cases h
  · next hpoint hsplit =>
    obtain ⟨hwhole, rfl⟩ := Prod.mk.inj hsplit
    exact ⟨hwhole, fun tail hcs => absurd (by rw [hcs]; rfl) (hpoint tail)⟩
  · cases h
  · cases h

theorem splitUnsigned?_of_not_begins (h : ¬ Begins isPlace cs) :
    splitUnsigned? cs = none := by
  by_contra hsome
  obtain ⟨⟨n, rest⟩, hsplit⟩ := Option.ne_none_iff_exists'.1 hsome
  obtain ⟨tail, rfl, -⟩ | ⟨hne, -⟩ := splitUnsigned?_eq_some hsplit
  · exact h ⟨'.', rfl, rfl⟩
  · exact hne (takeWhile_eq_nil_of_not_begins fun hcs => h (hcs.mono @isPlace_of_isDecimalDigit))

theorem splitNumeral?_sign {c : Char} (hc : isSign c) (cs : List Char) :
    splitNumeral? (c :: cs) =
      (splitUnsigned? cs).map fun split => (c :: split.1, split.2) := by
  rcases of_decide_eq_true hc with rfl | rfl <;> rfl

theorem splitNumeral?_of_not_begins (h : ¬ Begins isSign cs) :
    splitNumeral? cs = splitUnsigned? cs := by
  refine splitNumeral?.eq_3 cs ?_ ?_
  · rintro rest rfl
    exact h ⟨'+', rfl, rfl⟩
  · rintro rest rfl
    exact h ⟨'-', rfl, rfl⟩

/-- What is split off is a numeral, and what is left follows it. -/
theorem spec_of_splitUnsigned? (h : splitUnsigned? cs = some (n, rest)) :
    cs = n ++ rest ∧ IsUnsigned n := by
  have hdigits (cs : List Char) : ∀ c ∈ cs.takeWhile isDecimalDigit, isDecimalDigit c :=
    fun c => List.mem_takeWhile_imp
  have happend (cs : List Char) :
      cs = cs.takeWhile isDecimalDigit ++ cs.dropWhile isDecimalDigit :=
    List.takeWhile_append_dropWhile.symm
  obtain ⟨tail, rfl, hne, rfl, rfl⟩ | ⟨hne, ⟨tail, htail, rfl, rfl⟩ | ⟨-, rfl, rfl⟩⟩ :=
    splitUnsigned?_eq_some h
  · exact ⟨congrArg _ (happend tail), .inr ⟨_, rfl, hne, hdigits tail⟩⟩
  · refine ⟨?_, .inl ⟨_, _, rfl, hne, hdigits cs, .inr ⟨_, rfl, hdigits tail⟩⟩⟩
    rw [List.append_assoc, List.cons_append, ← happend tail, ← htail]
    exact happend cs
  · exact ⟨happend cs, .inl ⟨_, [], (List.append_nil _).symm, hne, hdigits cs, .inl rfl⟩⟩

/-- Behind digits, all digits are split off, and a fraction if there is one. -/
theorem exists_splitUnsigned?_of_digits {whole fraction : List Char} (hne : whole ≠ [])
    (hwhole : ∀ c ∈ whole, isDecimalDigit c) (hfraction : fraction = [] ∨
      ∃ places, fraction = '.' :: places ∧ ∀ c ∈ places, isDecimalDigit c) (rest : List Char) :
    ∃ n tail, splitUnsigned? (whole ++ fraction ++ rest) = some (n, tail) ∧
      (whole ++ fraction).length ≤ n.length := by
  have htake (cs : List Char) : (whole ++ cs).takeWhile isDecimalDigit =
      whole ++ cs.takeWhile isDecimalDigit := List.takeWhile_append_of_pos hwhole
  have hdrop (cs : List Char) : (whole ++ cs).dropWhile isDecimalDigit =
      cs.dropWhile isDecimalDigit := List.dropWhile_append_of_pos hwhole
  rw [List.append_assoc]
  have hsome : splitUnsigned? (whole ++ (fraction ++ rest)) ≠ none := by
    intro hnone
    have hnil := (splitUnsigned?_eq_none hnone).1
    rw [htake] at hnil
    exact hne (List.append_eq_nil_iff.1 hnil).1
  obtain ⟨⟨n, tail⟩, hsplit⟩ := Option.ne_none_iff_exists'.1 hsome
  refine ⟨n, tail, hsplit, ?_⟩
  obtain ⟨tail, hcs, -⟩ | ⟨-, ⟨tail, htail, rfl, -⟩ | ⟨hpoint, rfl, -⟩⟩ :=
    splitUnsigned?_eq_some hsplit
  · -- No point comes before the digits.
    have hnil := htake (fraction ++ rest)
    rw [hcs, List.takeWhile_cons_of_neg (by decide)] at hnil
    exact absurd (List.append_eq_nil_iff.1 hnil.symm).1 hne
  · rw [htake, List.length_append, List.length_append, List.length_append]
    rcases hfraction with rfl | ⟨places, rfl, hplaces⟩
    · simp only [List.length_nil]
      omega
    · rw [hdrop, List.cons_append, List.dropWhile_cons_of_neg (by decide)] at htail
      obtain rfl := (List.cons.inj htail).2
      rw [List.takeWhile_append_of_pos hplaces, List.length_cons, List.length_cons,
        List.length_append]
      omega
  · rw [htake, List.length_append, List.length_append]
    rcases hfraction with rfl | ⟨places, rfl, -⟩
    · exact Nat.add_le_add_left (Nat.zero_le _) _
    · rw [hdrop, List.cons_append, List.dropWhile_cons_of_neg (by decide)] at hpoint
      exact absurd ⟨'.', rfl, rfl⟩ hpoint

/-- In front of a text that begins with a numeral, one that is not shorter is split off. -/
theorem exists_splitUnsigned? {u : List Char} (h : IsUnsigned u) (rest : List Char) :
    ∃ n tail, splitUnsigned? (u ++ rest) = some (n, tail) ∧ u.length ≤ n.length := by
  obtain ⟨whole, fraction, rfl, hne, hwhole, hfraction⟩ | ⟨places, rfl, hne, hplaces⟩ := h
  · exact exists_splitUnsigned?_of_digits hne hwhole hfraction rest
  · have hnil : ('.' :: places ++ rest).takeWhile isDecimalDigit = [] :=
      List.takeWhile_cons_of_neg (by decide)
    have htake := @List.takeWhile_append_of_pos _ isDecimalDigit places rest hplaces
    have hsome : splitUnsigned? ('.' :: places ++ rest) ≠ none := by
      intro hnone
      have hdigits := (splitUnsigned?_eq_none hnone).2 (places ++ rest) rfl
      rw [htake] at hdigits
      exact hne (List.append_eq_nil_iff.1 hdigits).1
    obtain ⟨⟨n, tail⟩, hsplit⟩ := Option.ne_none_iff_exists'.1 hsome
    refine ⟨n, tail, hsplit, ?_⟩
    obtain ⟨tail, hcs, -, rfl, -⟩ | ⟨hdigits, -⟩ := splitUnsigned?_eq_some hsplit
    · rw [← (List.cons.inj hcs).2]
      change _ ≤ (('.' :: (places ++ rest).takeWhile isDecimalDigit).length)
      rw [htake, List.length_cons, List.length_cons, List.length_append]
      omega
    · exact absurd hnil hdigits

theorem IsUnsigned.begins (h : IsUnsigned cs) : Begins isPlace cs := by
  obtain ⟨whole, fraction, rfl, hne, hwhole, -⟩ | ⟨places, rfl, -, -⟩ := h
  · obtain ⟨c, whole, rfl⟩ := List.exists_cons_of_ne_nil hne
    exact ⟨c, rfl, isPlace_of_isDecimalDigit (hwhole c List.mem_cons_self)⟩
  · exact ⟨'.', rfl, rfl⟩

/-- A numeral is split off behind the sign, or without one. -/
theorem splitNumeral?_eq_some (h : splitNumeral? cs = some (n, rest)) :
    (∃ c tail u, isSign c ∧ cs = c :: tail ∧ n = c :: u ∧ splitUnsigned? tail = some (u, rest)) ∨
      ¬ Begins isSign cs ∧ splitUnsigned? cs = some (n, rest) := by
  by_cases hcs : Begins isSign cs
  · obtain ⟨c, hc, hsign⟩ := hcs
    obtain ⟨tail, rfl⟩ := List.head?_eq_some_iff.1 hc
    rw [splitNumeral?_sign hsign] at h
    obtain ⟨⟨u, _⟩, hsplit, heq⟩ := Option.map_eq_some_iff.1 h
    obtain ⟨rfl, rfl⟩ := Prod.mk.inj heq
    exact .inl ⟨c, tail, u, hsign, rfl, rfl, hsplit⟩
  · rw [splitNumeral?_of_not_begins hcs] at h
    exact .inr ⟨hcs, h⟩

/-- What is split off is a numeral, and what is left follows it. -/
theorem spec_of_splitNumeral? (h : splitNumeral? cs = some (n, rest)) :
    cs = n ++ rest ∧ IsCoordinate n := by
  obtain ⟨c, tail, u, hsign, rfl, rfl, hsplit⟩ | ⟨-, hsplit⟩ := splitNumeral?_eq_some h
  · obtain ⟨rfl, hu⟩ := spec_of_splitUnsigned? hsplit
    refine ⟨rfl, [c], u, rfl, ?_, hu⟩
    rcases of_decide_eq_true hsign with rfl | rfl
    exacts [.inr (.inl rfl), .inr (.inr rfl)]
  · obtain ⟨rfl, hn⟩ := spec_of_splitUnsigned? hsplit
    exact ⟨rfl, [], n, rfl, .inl rfl, hn⟩

/-- In front of a text that begins with a numeral, one that is not shorter is split off. -/
theorem exists_splitNumeral? (h : IsCoordinate cs) (rest : List Char) :
    ∃ n tail, splitNumeral? (cs ++ rest) = some (n, tail) ∧ cs.length ≤ n.length := by
  obtain ⟨sign, u, rfl, hsign, hu⟩ := h
  obtain ⟨n, tail, hsplit, hle⟩ := exists_splitUnsigned? hu rest
  have hcons {c : Char} (hc : isSign c) : ∃ n tail, splitNumeral? (c :: (u ++ rest)) =
      some (n, tail) ∧ u.length + 1 ≤ n.length := by
    rw [splitNumeral?_sign hc, hsplit]
    exact ⟨_, _, rfl, Nat.succ_le_succ hle⟩
  rcases hsign with rfl | rfl | rfl
  · have hcs : ¬ Begins isSign (u ++ rest) := by
      obtain ⟨c, hc, hplace⟩ := hu.begins
      obtain ⟨u, rfl⟩ := List.head?_eq_some_iff.1 hc
      refine not_begins_of_false (fun c hc => ?_) ⟨c, rfl, hplace⟩
      by_contra hsign
      rw [isPlace_of_isSign (Bool.not_eq_false _ ▸ hsign)] at hc
      cases hc
    rw [List.nil_append, splitNumeral?_of_not_begins hcs]
    exact ⟨n, tail, hsplit, hle⟩
  · exact hcons (by decide)
  · exact hcons (by decide)

/-- The longest numeral is split off the front of a text. -/
theorem splitNumeral?_eq_some_iff :
    splitNumeral? cs = some (n, rest) ↔ cs = n ++ rest ∧ IsLongest n cs := by
  constructor
  · intro h
    obtain ⟨hcs, hn⟩ := spec_of_splitNumeral? h
    refine ⟨hcs, hn, ⟨rest, hcs.symm⟩, fun m hm ⟨tail, htail⟩ => ?_⟩
    obtain ⟨n', rest', hsplit, hle⟩ := exists_splitNumeral? hm tail
    rw [htail, h] at hsplit
    rwa [(Prod.mk.inj (Option.some.inj hsplit)).1]
  · rintro ⟨rfl, hn, -, hmax⟩
    obtain ⟨m, tail, hsplit, hle⟩ := exists_splitNumeral? hn rest
    obtain ⟨heq, hm⟩ := spec_of_splitNumeral? hsplit
    have hlength := Nat.le_antisymm hle (hmax m hm ⟨tail, heq.symm⟩)
    obtain ⟨rfl, rfl⟩ := List.append_inj heq hlength
    exact hsplit

end numerals

/-! ## What is in a numeral -/

section characters

variable {a n rest x : List Char}

theorem IsCoordinate.mem (h : IsCoordinate n) {c : Char} (hc : c ∈ n) :
    isSign c ∨ isPlace c := by
  obtain ⟨sign, u, rfl, hsign, hu⟩ := h
  rcases List.mem_append.1 hc with hc | hc
  · rcases hsign with rfl | rfl | rfl
    · cases hc
    · exact .inl (List.mem_singleton.1 hc ▸ by decide)
    · exact .inl (List.mem_singleton.1 hc ▸ by decide)
  · right
    have hdigits {ds : List Char} (hds : ∀ c ∈ ds, isDecimalDigit c) (hc : c ∈ ds) : isPlace c :=
      isPlace_of_isDecimalDigit (hds c hc)
    obtain ⟨whole, fraction, rfl, -, hwhole, hfraction⟩ | ⟨places, rfl, -, hplaces⟩ := hu
    · rcases List.mem_append.1 hc with hc | hc
      · exact hdigits hwhole hc
      · obtain rfl | ⟨places, rfl, hplaces⟩ := hfraction
        · cases hc
        · rcases List.mem_cons.1 hc with rfl | hc
          exacts [rfl, hdigits hplaces hc]
    · rcases List.mem_cons.1 hc with rfl | hc
      exacts [rfl, hdigits hplaces hc]

/-- There is no white space in a numeral. -/
theorem IsCoordinate.not_isBlank (h : IsCoordinate n) {c : Char} (hc : c ∈ n) :
    isBlank c = false := by
  by_contra hblank
  rw [Bool.not_eq_false] at hblank
  have hmem := h.mem hc
  rw [isSign_of_isBlank hblank, isPlace_of_isBlank hblank] at hmem
  rcases hmem with hfalse | hfalse <;> cases hfalse

theorem IsCoordinate.ne_nil (h : IsCoordinate n) : n ≠ [] := by
  obtain ⟨sign, u, rfl, -, hu⟩ := h
  refine List.append_ne_nil_of_right_ne_nil sign ?_
  rintro rfl
  obtain ⟨c, hc, -⟩ := hu.begins
  cases hc

theorem IsCoordinate.not_comma (h : IsCoordinate n) : ',' ∉ n := by
  intro hcomma
  rcases h.mem hcomma with hsign | hplace
  · exact absurd hsign (by decide)
  · exact absurd hplace (by decide)

/-- A numeral in front of a comma is in front of what precedes the comma. -/
theorem prefix_of_not_comma (hx : ',' ∉ x) : x <+: a ++ ',' :: rest ↔ x <+: a := by
  constructor
  · intro h
    by_contra hnot
    have hlt : a.length < x.length := by
      by_contra hle
      exact hnot (List.prefix_of_prefix_length_le h (List.prefix_append a _) (not_lt.1 hle))
    have hcomma : a ++ [','] <+: x := by
      refine List.prefix_of_prefix_length_le (List.prefix_append_right_inj a |>.2 ⟨rest, rfl⟩) h ?_
      rw [List.length_append]
      exact hlt
    exact hx (hcomma.subset (List.mem_append_right a List.mem_cons_self))
  · exact fun h => h.trans (List.prefix_append a _)

theorem isLongest_append_comma : IsLongest x (a ++ ',' :: rest) ↔ IsLongest x a := by
  constructor
  · rintro ⟨hx, hprefix, hmax⟩
    exact ⟨hx, (prefix_of_not_comma hx.not_comma).1 hprefix, fun m hm hma =>
      hmax m hm ((prefix_of_not_comma hm.not_comma).2 hma)⟩
  · rintro ⟨hx, hprefix, hmax⟩
    exact ⟨hx, (prefix_of_not_comma hx.not_comma).2 hprefix, fun m hm hma =>
      hmax m hm ((prefix_of_not_comma hm.not_comma).1 hma)⟩

/-- A numeral is its own longest one. -/
theorem IsCoordinate.isLongest_self (h : IsCoordinate a) : IsLongest a a :=
  ⟨h, List.prefix_rfl, fun _ _ hm => hm.length_le⟩

end characters

end Template

end JetPlot
