import JetPlot.Json.Reader
import JetPlot.Proofs.Decimal.Nearest
import JetPlot.Proofs.Decimal.Numeral

/-!
# Written scalars

Numbers and strings are written in JSON so that they end where they should. The escapes of a
string are undone one by one (`splitString?_escape`). A double is written as a numeral of the
JSON grammar, which knows no superfluous zeros (`isNumeral_chars`), and the numeral ends where
no digit, no point and no exponent follows (`splitNumeral?_append`).
-/

namespace JetPlot.Json

/-! ## Strings -/

/-- The number of a control character, written in base sixteen, is read back. -/
theorem hexNumber?_hexDigit {n : Nat} (h : n < 0x20) :
    Text.hexNumber? '0' '0' (hexDigit (n / 16)) (hexDigit (n % 16)) = some n := by
  revert n
  decide

theorem spell?_inr {n : Nat} (h : n < 0x20) (units : List (Char ⊕ Nat)) :
    spell? (.inr n :: units) = (spell? units).map (Char.ofNat n :: ·) := by
  have hhigh : isHighSurrogate n = false := decide_eq_false (by omega)
  have hlow : isLowSurrogate n = false := decide_eq_false (by omega)
  cases units with
  | nil => simp [spell?, hhigh, hlow]
  | cons unit units => cases unit <;> simp [spell?, hhigh, hlow]

/-- A unit in front of others is taken off, and spells its character. -/
theorem exists_units?_escape (c : Char) {rest rest' : List Char} {units : List (Char ⊕ Nat)}
    {cs : List Char} (h : units? rest = some (units, rest')) (hspell : spell? units = some cs) :
    ∃ units', units? (escape c ++ rest) = some (units', rest') ∧
      spell? units' = some (c :: cs) := by
  have hsimple (d : Char) (hd : simpleEscape? d = some c) (hu : d ≠ 'u') :
      ∃ units', units? ('\\' :: d :: rest) = some (units', rest') ∧
        spell? units' = some (c :: cs) := by
    refine ⟨.inl c :: units, ?_, by rw [spell?, hspell]; rfl⟩
    rw [units?]
    · rw [hd, h]
      rfl
    · rintro _ _ _ _ _ rfl
      exact absurd rfl hu
  rw [escape.eq_def]
  split
  · exact hsimple '"' rfl (by decide)
  · exact hsimple '\\' rfl (by decide)
  · exact hsimple 'b' rfl (by decide)
  · exact hsimple 't' rfl (by decide)
  · exact hsimple 'n' rfl (by decide)
  · exact hsimple 'f' rfl (by decide)
  · exact hsimple 'r' rfl (by decide)
  · next hquote hbackslash _ _ _ _ _ =>
    split
    · next hcontrol =>
      refine ⟨.inr c.toNat :: units, ?_, ?_⟩
      · rw [List.cons_append, List.cons_append, List.cons_append, List.cons_append,
          List.cons_append, List.cons_append, List.nil_append, units?,
          hexNumber?_hexDigit hcontrol, h]
        rfl
      · rw [spell?_inr hcontrol, hspell, Char.ofNat_toNat]
        rfl
    · next hcontrol =>
      refine ⟨.inl c :: units, ?_, by rw [spell?, hspell]; rfl⟩
      rw [List.singleton_append, units?]
      · rw [if_neg hcontrol, h]
        rfl
      · exact hquote
      · exact fun _ _ _ _ _ hc => absurd hc hbackslash
      · exact fun _ _ hc => absurd hc hbackslash

/-- A written text is read back up to its closing quote. -/
theorem splitString?_escape (s : String) (rest : List Char) :
    splitString? (s.toList.flatMap escape ++ '"' :: rest) = some (some s, rest) := by
  have hunits (cs : List Char) : ∃ units,
      units? (cs.flatMap escape ++ '"' :: rest) = some (units, rest) ∧ spell? units = some cs := by
    induction cs with
    | nil => exact ⟨[], rfl, rfl⟩
    | cons c cs ih =>
      obtain ⟨units, hunits, hspell⟩ := ih
      rw [List.flatMap_cons, List.append_assoc]
      exact exists_units?_escape c hunits hspell
  obtain ⟨units, hunits, hspell⟩ := hunits s.toList
  rw [splitString?, hunits]
  simp only [Option.bind_eq_bind, Option.bind_some, hspell, Option.map_some, String.ofList_toList]
  rfl

/-! ## Numerals -/

/-- Whether characters are a numeral of JSON. -/
def IsNumeral (cs : List Char) : Prop :=
  ∃ sign whole fraction exponent, cs = sign ++ (whole ++ (fraction ++ exponent)) ∧
    (sign = [] ∨ sign = ['-']) ∧ IsDigits whole ∧ (whole.head? = some '0' → whole = ['0']) ∧
    (fraction = [] ∨ ∃ ds, IsDigits ds ∧ fraction = '.' :: ds) ∧
    (exponent = [] ∨ ∃ sign ds, (sign = '+' ∨ sign = '-') ∧ IsDigits ds ∧
      exponent = 'e' :: sign :: ds)

/-- Whether what follows a numeral does not go on with it. -/
def EndsNumeral (rest : List Char) : Prop :=
  ∀ c ∈ rest.head?, c.isDigit = false ∧ c ≠ '.' ∧ c ≠ 'e' ∧ c ≠ 'E'

section split

variable {cs ds rest : List Char}

theorem splitDigits?_append (h : IsDigits ds) (hrest : ∀ c ∈ rest.head?, c.isDigit = false) :
    splitDigits? (ds ++ rest) = some (ds, rest) := by
  have hspan := span_append_eq h.2 hrest
  obtain ⟨d, ds, rfl⟩ := List.exists_cons_of_ne_nil h.1
  rw [splitDigits?, hspan]

theorem splitExponent?_append (hrest : EndsNumeral rest)
    (h : cs = [] ∨ ∃ sign ds, (sign = '+' ∨ sign = '-') ∧ IsDigits ds ∧ cs = 'e' :: sign :: ds) :
    splitExponent? (cs ++ rest) = some (cs, rest) := by
  rcases h with rfl | ⟨sign, ds, hsign, hds, rfl⟩
  · cases rest with
    | nil => rfl
    | cons c rest =>
      obtain ⟨-, -, he, hE⟩ := hrest c rfl
      exact if_neg (not_or.2 ⟨he, hE⟩)
  · have hdigits := splitDigits?_append hds fun c hc => (hrest c hc).1
    rcases hsign with rfl | rfl
    · change (splitDigits? (ds ++ rest)).map _ = _
      rw [hdigits]
      rfl
    · change (splitDigits? (ds ++ rest)).map _ = _
      rw [hdigits]
      rfl

theorem splitFraction?_append (hrest : ∀ c ∈ rest.head?, c.isDigit = false ∧ c ≠ '.')
    (h : cs = [] ∨ ∃ ds, IsDigits ds ∧ cs = '.' :: ds) :
    splitFraction? (cs ++ rest) = some (cs, rest) := by
  rcases h with rfl | ⟨ds, hds, rfl⟩
  · rw [List.nil_append, splitFraction?]
    rintro rest' rfl
    exact (hrest '.' rfl).2 rfl
  · rw [List.cons_append, splitFraction?, splitDigits?_append hds fun c hc => (hrest c hc).1]
    rfl

theorem splitWhole?_append (h : IsDigits cs) (hzero : cs.head? = some '0' → cs = ['0'])
    (hrest : ∀ c ∈ rest.head?, c.isDigit = false) :
    splitWhole? (cs ++ rest) = some (cs, rest) := by
  rw [splitWhole?, splitDigits?_append h hrest]
  exact if_neg fun hne => hne.2 (hzero hne.1)

/-- A numeral is split off as a whole. -/
theorem splitNumeral?_append (h : IsNumeral cs) (hrest : EndsNumeral rest) :
    splitNumeral? (cs ++ rest) = some (cs, rest) := by
  obtain ⟨sign, whole, fraction, exponent, rfl, hsign, hwhole, hzero, hfraction, hexponent⟩ := h
  -- Neither the digits nor the fraction go on with what stands behind them.
  have hhead : ∀ c ∈ (exponent ++ rest).head?, c.isDigit = false ∧ c ≠ '.' := by
    rcases hexponent with rfl | ⟨sign, ds, -, -, rfl⟩
    · exact fun c hc => ⟨(hrest c hc).1, (hrest c hc).2.1⟩
    · rintro c ⟨⟩
      decide
  have hhead' : ∀ c ∈ (fraction ++ (exponent ++ rest)).head?, c.isDigit = false := by
    rcases hfraction with rfl | ⟨ds, -, rfl⟩
    · exact fun c hc => (hhead c hc).1
    · rintro c ⟨⟩
      decide
  have hwhole' := splitWhole?_append hwhole hzero hhead'
  have hfraction' := splitFraction?_append hhead hfraction
  have hexponent' := splitExponent?_append hrest hexponent
  rw [List.append_assoc, List.append_assoc, List.append_assoc]
  rcases hsign with rfl | rfl
  · obtain ⟨d, whole, rfl⟩ := List.exists_cons_of_ne_nil hwhole.1
    have hd : d ≠ '-' := by
      rintro rfl
      exact absurd (hwhole.2 '-' List.mem_cons_self) (by decide)
    rw [List.nil_append, splitNumeral?]
    · simp only [hwhole', hfraction', hexponent', Option.bind_eq_bind, Option.bind_some,
        List.append_assoc]
      rfl
    · exact fun _ hminus => absurd (List.cons.inj hminus).1 hd
  · rw [List.singleton_append, splitNumeral?]
    simp only [hwhole', hfraction', hexponent', Option.bind_eq_bind, Option.bind_some,
      List.append_assoc]
    rfl

/-- A numeral begins with a minus sign or a digit. -/
theorem IsNumeral.exists_cons (h : IsNumeral cs) :
    ∃ c cs', cs = c :: cs' ∧ (c = '-' ∨ c.isDigit) := by
  obtain ⟨sign, whole, fraction, exponent, rfl, hsign, hwhole, -⟩ := h
  rcases hsign with rfl | rfl
  · obtain ⟨d, whole, rfl⟩ := List.exists_cons_of_ne_nil hwhole.1
    exact ⟨d, _, rfl, .inr (hwhole.2 d List.mem_cons_self)⟩
  · exact ⟨'-', _, rfl, .inl rfl⟩

end split

/-! ## Written numbers -/

/-- An integer is written as a numeral. -/
theorem isNumeral_integerChars (n : ℤ) : IsNumeral (Decimal.integerChars n) := by
  obtain ⟨sign, heq, hsign⟩ := exists_integerChars_eq n
  exact ⟨sign, Decimal.digitChars n.natAbs, [], [], by simpa using heq,
    hsign.imp And.left And.left, isDigits_digitChars _, digitChars_of_head?, .inl rfl, .inl rfl⟩

theorem isNumeral_digitChars (n : ℕ) : IsNumeral (Decimal.digitChars n) :=
  integerChars_natCast n ▸ isNumeral_integerChars n

/-- A number in positional notation with a point is written as a numeral. -/
theorem isNumeral_positionalChars {sign : List Char} {n : ℕ} {exponent : ℤ}
    (hsign : sign = [] ∨ sign = ['-']) (hzero : n = 0 → exponent = 0) :
    IsNumeral (sign ++ Style.positionalChars true (Decimal.digitChars n) exponent) := by
  obtain ⟨whole, places, -, heq, hwhole, hhead, hplaces, -⟩ := positionalChars_pointed hzero
  exact ⟨sign, whole, '.' :: places, [], by rw [heq, List.append_nil], hsign, hwhole, hhead,
    .inr ⟨places, hplaces, rfl⟩, .inl rfl⟩

/-- Digits with an exponent are a numeral if they begin with no zero. -/
theorem isNumeral_scientificChars {sign ds : List Char} (hsign : sign = [] ∨ sign = ['-'])
    (hds : IsDigits ds) (hzero : ds.head? ≠ some '0') (leading : ℤ) :
    IsNumeral (sign ++ Style.scientificChars true ds leading) := by
  have hexponent : ∃ sign digits, (sign = '+' ∨ sign = '-') ∧ IsDigits digits ∧
      'e' :: Style.exponentChars true leading = 'e' :: sign :: digits := by
    cases leading with
    | ofNat k => exact ⟨'+', _, .inl rfl, isDigits_digitChars k, rfl⟩
    | negSucc k => exact ⟨'-', _, .inr rfl, isDigits_digitChars (k + 1), rfl⟩
  obtain ⟨d, ds, rfl⟩ := List.exists_cons_of_ne_nil hds.1
  have hd : IsDigits [d] := hds.of_mem (List.cons_ne_nil _ _) fun c hc =>
    List.mem_singleton.1 hc ▸ List.mem_cons_self
  cases ds with
  | nil =>
    exact ⟨sign, [d], [], _, rfl, hsign, hd, fun h => absurd h hzero, .inl rfl, .inr hexponent⟩
  | cons d' ds =>
    have hds' : IsDigits (d' :: ds) := hds.of_mem (List.cons_ne_nil _ _) fun c hc =>
      List.mem_cons_of_mem d hc
    exact ⟨sign, [d], '.' :: d' :: ds, _, rfl, hsign, hd, fun h => absurd h hzero,
      .inr ⟨_, hds', rfl⟩, .inr hexponent⟩

/-- A finite double is written as a numeral. -/
theorem isNumeral_chars {x : Float} (hx : x.isFinite) : IsNumeral (style.chars x) := by
  obtain ⟨d, hd⟩ := Decimal.exists_shortest? style.tie hx
  obtain ⟨-, c, hc⟩ := Decimal.shortest?_spec hd
  have hzero (h : d.digits = 0) : d.exponent = 0 := by
    rw [hc] at h ⊢
    exact Decimal.exponent_canonical h
  have hsign := sign_cases d.negative
  rw [Style.chars, hd]
  change IsNumeral ((if d.negative then ['-'] else []) ++ (if _ then _ else _))
  generalize (if d.negative then ['-'] else []) = sign at hsign ⊢
  split
  · exact isNumeral_positionalChars hsign hzero
  · next hscientific =>
    have hdigits : d.digits ≠ 0 := fun h => hscientific (.inl h)
    exact isNumeral_scientificChars hsign (isDigits_digitChars d.digits)
      (head?_digitChars hdigits) _

end JetPlot.Json
