import JetPlot.Proofs.Reading.Numerals

/-!
# Backtracking

The form of the parameters is a regular expression: a marker in either case, two numerals and,
behind another comma, an optional third text (`Pattern.parameters`). The search for it backtracks,
but in vain: a shorter numeral would leave a digit or a point behind, and less white space would
leave white space, where a comma or a numeral has to follow.

* `captures?_parameters`: reading without backtracking finds what the pattern finds.
-/

namespace JetPlot

namespace Template

/-- A character of a third parameter. -/
def isWordChar (c : Char) : Bool := !(c = ',' || c = ';' || Text.isBlank c)

/-- The texts of the parameters in the order in which they are captured. -/
def captures (t : Template) : List (List Char) := t.x :: t.y :: t.third.toList

/-- Reads the template behind its marker. -/
def readNumerals? (cs : List Char) : Option Template := do
  let (x, rest) ← splitNumeral? cs
  let rest ← afterComma? rest
  let (y, rest) ← splitNumeral? rest
  return ⟨x, y, third? rest⟩

/-- A third parameter is the word behind a comma, if there is one. -/
theorem third?_eq (cs : List Char) : third? cs = (afterComma? cs).bind fun rest =>
    if rest.takeWhile isWordChar = [] then none else some (rest.takeWhile isWordChar) := by
  rw [third?]
  cases afterComma? cs with
  | none => rfl
  | some rest =>
    simp only [bind, Option.bind_some]
    split
    · next hnil => exact (if_pos hnil).symm
    · next hne => exact (if_neg hne).symm

theorem readAt?_eq (cs : List Char) :
    readAt? cs = (afterMarker? cs).bind fun rest => readNumerals? (Text.skipBlanks rest) := rfl

end Template

namespace Pattern

open Text Template

/-- A point and digits, which may be missing behind it. -/
def fraction : Pattern := seq (char '.') (many isDecimalDigit)

/-- A numeral without a sign. -/
def unsigned : Pattern :=
  alt (seq (several isDecimalDigit) (optional fraction))
    (seq (char '.') (several isDecimalDigit))

/-- A numeral. -/
def numeral : Pattern := seq (optional (either '+' '-')) unsigned

/-- A comma and the white space around it. -/
def comma : Pattern := seq (many isBlank) (seq (char ',') (many isBlank))

/-- The marker in front of the parameters. -/
def marker : Pattern :=
  seq (char '(') (seq (either 'X' 'x') (seq (char ',') (seq (either 'Y' 'y')
    (seq (char ')') (char ',')))))

/-- A third parameter. -/
def third : Pattern := seq comma (group (several isWordChar))

/-- The second coordinate and what follows it. -/
def secondAndThird : Pattern := seq (group numeral) (optional third)

/-- The parameters of a line. With `n` for a numeral, `[+-]?(?:\d+(?:\.\d*)?|\.\d+)`, the pattern is
    `(?i)\(X,Y\),\s*(n)\s*,\s*(n)(?:\s*,\s*([^,;\s]+))?`. -/
def parameters : Pattern :=
  seq marker (seq (many isBlank) (seq (group numeral) (seq comma secondAndThird)))

/-! ## Numerals -/

section numerals

variable {cs rest n : List Char}

/-- Behind digits, a point and digits are taken if there is a point. -/
theorem ledBy_optional_fraction (rest : List Char) :
    LedBy isPlace ⟨'.' :: rest.takeWhile isDecimalDigit, [], rest.dropWhile isDecimalDigit⟩
      ((optional fraction).ways ('.' :: rest)) := by
  refine LedBy.optional ?_ ⟨'.', rfl, rfl⟩
  rw [fraction, char, ways_seq_one (by rfl)]
  exact ((ledBy_many _ rest).mono @isPlace_of_isDecimalDigit).map_append _

theorem ways_optional_fraction (h : ¬ Begins (· = '.') rest) :
    (optional fraction).ways rest = [⟨[], [], rest⟩] :=
  ways_optional_of_nil (ways_seq_one_of_not_begins h)

/-- Digits are a numeral together with the fraction that follows them. -/
theorem ledBy_unsigned_of_digits {m : Match} (h : cs.takeWhile isDecimalDigit ≠ [])
    (hfraction : LedBy isPlace m ((optional fraction).ways (cs.dropWhile isDecimalDigit))) :
    LedBy isPlace ⟨cs.takeWhile isDecimalDigit ++ m.text, m.groups, m.rest⟩
      (unsigned.ways cs) := by
  refine ((ledBy_several h).seq hfraction fun rest hrest w hw => ?_).append fun w hw => ?_
  · -- Fewer digits leave a digit behind, which is no point.
    rw [ways_optional_fraction (not_begins_point hrest)] at hw
    obtain rfl := List.mem_singleton.1 hw
    exact hrest.mono @isPlace_of_isDecimalDigit
  · have hcs : Begins isDecimalDigit cs := by
      by_contra hbegins
      exact h (takeWhile_eq_nil_of_not_begins hbegins)
    rw [char, ways_seq_one_of_not_begins (not_begins_point hcs)] at hw
    cases hw

/-- A numeral without a sign is tried at its full length first. -/
theorem ledBy_unsigned (h : Template.splitUnsigned? cs = some (n, rest)) :
    LedBy isPlace ⟨n, [], rest⟩ (unsigned.ways cs) := by
  obtain ⟨tail, rfl, hne, rfl, rfl⟩ | ⟨hne, ⟨tail, htail, rfl, rfl⟩ | ⟨hpoint, rfl, rfl⟩⟩ :=
    Template.splitUnsigned?_eq_some h
  · have hdigits : (several isDecimalDigit).ways ('.' :: tail) = [] :=
      ways_several_of_nil (List.takeWhile_cons_of_neg (by decide))
    rw [unsigned, ways, ways_seq_of_nil hdigits, List.nil_append, char, ways_seq_one (by rfl)]
    exact ((ledBy_several hne).mono @isPlace_of_isDecimalDigit).map_append _
  · exact ledBy_unsigned_of_digits hne (htail ▸ ledBy_optional_fraction tail)
  · have hfraction : LedBy isPlace ⟨[], [], cs.dropWhile isDecimalDigit⟩
        ((optional fraction).ways (cs.dropWhile isDecimalDigit)) := by
      rw [ways_optional_fraction hpoint]
      exact .singleton _ _
    have hled := ledBy_unsigned_of_digits hne hfraction
    rwa [List.append_nil] at hled

theorem ways_unsigned_of_none (h : Template.splitUnsigned? cs = none) : unsigned.ways cs = [] := by
  obtain ⟨hwhole, hpoint⟩ := Template.splitUnsigned?_eq_none h
  rw [unsigned, ways, ways_seq_of_nil (ways_several_of_nil hwhole), List.nil_append]
  by_cases hcs : Begins (· = '.') cs
  · obtain ⟨c, hc, hp⟩ := hcs
    obtain ⟨tail, rfl⟩ := List.head?_eq_some_iff.1 hc
    obtain rfl := of_decide_eq_true hp
    rw [char, ways_seq_one (by rfl), ways_several_of_nil (hpoint tail rfl), List.map_nil]
  · exact ways_seq_one_of_not_begins hcs

theorem ways_unsigned_of_not_begins (h : ¬ Begins isPlace cs) : unsigned.ways cs = [] :=
  ways_unsigned_of_none (splitUnsigned?_of_not_begins h)

/-- No sign is left out, since no numeral without a sign begins with one. -/
theorem ways_numeral_sign {c : Char} (hc : isSign c) (cs : List Char) :
    numeral.ways (c :: cs) = (unsigned.ways cs).map (Match.append ⟨[c], [], cs⟩) := by
  have hsign : (either '+' '-').ways (c :: cs) = [⟨[c], [], cs⟩] := if_pos hc
  have hled : LedBy isSign ⟨[c], [], cs⟩ ((optional (either '+' '-')).ways (c :: cs)) :=
    LedBy.optional (hsign ▸ .singleton _ _) ⟨c, rfl, hc⟩
  exact hled.ways_seq fun rest hrest =>
    ways_unsigned_of_not_begins (not_begins_of_false @isPlace_of_isSign hrest)

theorem ways_numeral_of_not_begins (h : ¬ Begins isSign cs) :
    numeral.ways cs = unsigned.ways cs := by
  have hsign : (either '+' '-').ways cs = [] := ways_one_of_not_begins h
  rw [numeral, ways, ways_optional_of_nil hsign, List.flatMap_singleton]
  exact List.map_id _

/-- A numeral is tried at its full length first. -/
theorem ledBy_numeral (h : Template.splitNumeral? cs = some (n, rest)) :
    LedBy isPlace ⟨n, [], rest⟩ (numeral.ways cs) := by
  obtain ⟨c, tail, u, hsign, rfl, rfl, hsplit⟩ | ⟨hcs, hsplit⟩ := splitNumeral?_eq_some h
  · rw [ways_numeral_sign hsign]
    exact (ledBy_unsigned hsplit).map_append _
  · rw [ways_numeral_of_not_begins hcs]
    exact ledBy_unsigned hsplit

theorem ways_numeral_of_none (h : Template.splitNumeral? cs = none) : numeral.ways cs = [] := by
  by_cases hcs : Begins isSign cs
  · obtain ⟨c, hc, hsign⟩ := hcs
    obtain ⟨tail, rfl⟩ := List.head?_eq_some_iff.1 hc
    rw [splitNumeral?_sign hsign, Option.map_eq_none_iff] at h
    rw [ways_numeral_sign hsign, ways_unsigned_of_none h, List.map_nil]
  · rw [splitNumeral?_of_not_begins hcs] at h
    rw [ways_numeral_of_not_begins hcs, ways_unsigned_of_none h]

end numerals

/-! ## Parameters -/

section parameters

variable {p : Char → Bool} {b : Pattern} {cs rest : List Char}

/-- No white space begins a numeral. -/
theorem ways_numeral_of_begins_blank (h : Begins isBlank cs) : numeral.ways cs = [] := by
  rw [ways_numeral_of_not_begins (not_begins_of_false @isSign_of_isBlank h)]
  exact ways_unsigned_of_not_begins (not_begins_of_false @isPlace_of_isBlank h)

theorem begins_comma {c : Char} (hc : c ≠ ',') (cs : List Char) :
    ¬ Begins (· = ',') (c :: cs) := by
  rintro ⟨d, hd, hcomma⟩
  obtain rfl := Option.some.inj hd
  exact hc (of_decide_eq_true hcomma)

/-- Less white space in front of a comma leaves white space behind, which is no comma. -/
theorem ways_comma (cs : List Char) : comma.ways cs =
    ((seq (char ',') (many isBlank)).ways (skipBlanks cs)).map
      (Match.append ⟨cs.takeWhile isBlank, [], skipBlanks cs⟩) := by
  refine (ledBy_many isBlank cs).ways_seq fun rest hrest => ways_seq_one_of_not_begins ?_
  refine not_begins_of_false (fun c hc => decide_eq_false ?_) hrest
  rintro rfl
  exact absurd hc (by decide)

theorem ledBy_comma (h : Template.afterComma? cs = some rest) :
    ∃ text, LedBy isBlank ⟨text, [], rest⟩ (comma.ways cs) := by
  rw [Template.afterComma?] at h
  split at h
  · next tail hcs =>
    obtain rfl := Option.some.inj h
    rw [ways_comma, hcs, char, ways_seq_one (by rfl)]
    exact ⟨_, ((ledBy_many isBlank tail).map_append _).map_append _⟩
  · cases h

theorem ways_comma_of_none (h : Template.afterComma? cs = none) : comma.ways cs = [] := by
  rw [Template.afterComma?] at h
  split at h
  · cases h
  · next hcs =>
    rw [ways_comma, char, ways_seq_one_of_not_begins, List.map_nil]
    rintro ⟨c, hc, hcomma⟩
    obtain ⟨tail, htail⟩ := List.head?_eq_some_iff.1 hc
    exact hcs tail (htail.trans (by rw [of_decide_eq_true hcomma]))

/-- No digit and no point is a comma or white space. -/
theorem ways_comma_of_begins_place (h : Begins isPlace cs) : comma.ways cs = [] := by
  obtain ⟨c, hc, hplace⟩ := h
  obtain ⟨tail, rfl⟩ := List.head?_eq_some_iff.1 hc
  have hblank : ¬ isBlank c := fun hblank => by
    rw [isPlace_of_isBlank hblank] at hplace
    cases hplace
  have hcomma : c ≠ ',' := by
    rintro rfl
    exact absurd hplace (by decide)
  rw [ways_comma, skipBlanks, List.dropWhile_cons_of_neg hblank]
  exact List.map_eq_nil_iff.2 (ways_seq_one_of_not_begins (begins_comma hcomma tail))

theorem first?_third (cs : List Char) : third.first? cs = (Template.third? cs).map ([·]) := by
  rw [Template.third?_eq]
  cases hcomma : Template.afterComma? cs with
  | none => exact first?_seq_of_nil (ways_comma_of_none hcomma)
  | some rest =>
    obtain ⟨text, hled⟩ := ledBy_comma hcomma
    -- Less white space behind the comma leaves white space, with which no word begins.
    have hstop (rest : List Char) (h : Begins isBlank rest) :
        (group (several isWordChar)).ways rest = [] := by
      refine ways_group_of_nil (ways_seq_one_of_not_begins (not_begins_of_false ?_ h))
      intro c hc
      rw [isWordChar, hc, Bool.or_true, Bool.not_true]
    rw [third, hled.first?_seq hstop, Option.bind_some, first?]
    split
    · next hnil =>
      rw [ways_group_of_nil (ways_several_of_nil hnil)]
      rfl
    · next hne =>
      rw [(ledBy_several hne).group.head?]
      rfl

theorem first?_secondAndThird (cs : List Char) : secondAndThird.first? cs =
    (Template.splitNumeral? cs).map fun split => split.1 :: (Template.third? split.2).toList := by
  cases hsplit : Template.splitNumeral? cs with
  | none => exact first?_seq_of_nil (ways_group_of_nil (ways_numeral_of_none hsplit))
  | some split =>
    -- Nothing has to follow the second numeral, so that it keeps its full length.
    refine (ledBy_numeral hsplit).group.first?_seq_of_some ?_
    rw [first?_optional, first?_third]
    cases Template.third? split.2 <;> rfl

/-- The first numeral keeps its full length, too, as a comma has to follow it. -/
theorem first?_numerals (cs : List Char) :
    (seq (group numeral) (seq comma secondAndThird)).first? cs =
      (Template.readNumerals? cs).map Template.captures := by
  rw [Template.readNumerals?]
  cases hx : Template.splitNumeral? cs with
  | none => exact first?_seq_of_nil (ways_group_of_nil (ways_numeral_of_none hx))
  | some split =>
    obtain ⟨x, rest⟩ := split
    rw [(ledBy_numeral hx).group.first?_seq fun rest hrest =>
      ways_seq_of_nil (ways_comma_of_begins_place hrest)]
    simp only [Option.bind_eq_bind, Option.bind_some]
    cases hcomma : Template.afterComma? rest with
    | none =>
      rw [first?_seq_of_nil (ways_comma_of_none hcomma)]
      rfl
    | some rest =>
      obtain ⟨text, hled⟩ := ledBy_comma hcomma
      have hstop (rest : List Char) (h : Begins isBlank rest) : secondAndThird.ways rest = [] :=
        ways_seq_of_nil (ways_group_of_nil (ways_numeral_of_begins_blank h))
      rw [hled.first?_seq hstop, first?_secondAndThird, Option.bind_some]
      cases Template.splitNumeral? rest <;> rfl

/-! ### The marker -/

theorem ways_marker (h : Template.afterMarker? cs = some rest) :
    ∃ text, marker.ways cs = [⟨text, [], rest⟩] := by
  rw [Template.afterMarker?.eq_def] at h
  split at h
  · split at h
    · next hxy =>
      obtain rfl := Option.some.inj h
      simp only [marker, char, either]
      rw [ways_seq_one (by rfl), ways_seq_one (decide_eq_true hxy.1), ways_seq_one (by rfl),
        ways_seq_one (decide_eq_true hxy.2), ways_seq_one (by rfl)]
      exact ⟨_, rfl⟩
    · cases h
  · cases h

theorem ways_marker_of_none (h : Template.afterMarker? cs = none) : marker.ways cs = [] := by
  by_contra hways
  obtain ⟨c, cs, rfl, hc, hways⟩ := exists_cons_of_ways_ne_nil hways
  obtain ⟨x, cs, rfl, hx, hways⟩ := exists_cons_of_ways_ne_nil hways
  obtain ⟨d, cs, rfl, hd, hways⟩ := exists_cons_of_ways_ne_nil hways
  obtain ⟨y, cs, rfl, hy, hways⟩ := exists_cons_of_ways_ne_nil hways
  obtain ⟨e, cs, rfl, he, hlast⟩ := exists_cons_of_ways_ne_nil hways
  obtain rfl := of_decide_eq_true hc
  obtain rfl := of_decide_eq_true hd
  obtain rfl := of_decide_eq_true he
  have hcomma : Begins (· = ',') cs := by
    by_contra hcs
    exact hlast (ways_one_of_not_begins hcs)
  obtain ⟨f, hf, hcomma⟩ := hcomma
  obtain ⟨tail, rfl⟩ := List.head?_eq_some_iff.1 hf
  obtain rfl := of_decide_eq_true hcomma
  rw [Template.afterMarker?, if_pos ⟨of_decide_eq_true hx, of_decide_eq_true hy⟩] at h
  cases h

theorem first?_parameters (cs : List Char) :
    parameters.first? cs = (Template.readAt? cs).map Template.captures := by
  rw [Template.readAt?_eq]
  cases hmarker : Template.afterMarker? cs with
  | none => exact first?_seq_of_nil (ways_marker_of_none hmarker)
  | some rest =>
    obtain ⟨text, hways⟩ := ways_marker hmarker
    have hstop (rest : List Char) (h : Begins isBlank rest) :
        (seq (group numeral) (seq comma secondAndThird)).ways rest = [] :=
      ways_seq_of_nil (ways_group_of_nil (ways_numeral_of_begins_blank h))
    rw [parameters, first?_seq_of_singleton hways, (ledBy_many isBlank rest).first?_seq hstop,
      first?_numerals]
    simp only [List.nil_append, Option.map_id', Option.bind_some]
    rfl

/-- Reading without backtracking finds what the pattern finds with backtracking. -/
theorem captures?_parameters (line : List Char) :
    parameters.captures? line = (Template.find? line).map Template.captures := by
  induction line with
  | nil => rfl
  | cons c line ih =>
    rw [captures?, first?_parameters, ih, Template.find?]
    cases Template.readAt? (c :: line) <;> rfl

end parameters

end Pattern

end JetPlot
