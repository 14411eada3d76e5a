import JetPlot.Proofs.Decimal.Roundtrip
import JetPlot.Settings.Codec

/-!
# Written numbers in TOML

An integer is written with its digits, a double with a point and digits on either side of it
(`IsPointed`). At the end of a line, the one is read back as an integer and the other as a double,
and neither is taken for a date or a time.

* `splitNumeric?_integerChars`: an integer that fits into 64 bits is read back;
* `splitNumeric?_chars`: a finite double is read back.
-/

namespace JetPlot.Toml

/-! ## Digits -/

section digits

variable {ds rest : List Char}

/-- Digits are split off in front of what is neither a digit nor an underscore. -/
theorem splitMore_append (hds : ∀ c ∈ ds, c.isDigit)
    (hrest : ∀ c ∈ rest.head?, c.isDigit = false ∧ c ≠ '_') :
    splitMore Char.isDigit (ds ++ rest) = (ds, rest) := by
  induction ds with
  | nil =>
    cases rest with
    | nil => rfl
    | cons c rest =>
      obtain ⟨hc, hunderscore⟩ := hrest c rfl
      rw [List.nil_append, splitMore]
      · rw [hc]
        rfl
      · rintro _ _ rfl
        exact absurd rfl hunderscore
  | cons d ds ih =>
    obtain ⟨hd, hds⟩ := List.forall_mem_cons.1 hds
    rw [List.cons_append, splitMore]
    · rw [if_pos hd, ih hds]
    · rintro _ _ rfl
      cases hd

theorem splitDigits?_append (hds : IsDigits ds)
    (hrest : ∀ c ∈ rest.head?, c.isDigit = false ∧ c ≠ '_') :
    splitDigits? Char.isDigit (ds ++ rest) = some (ds, rest) := by
  obtain ⟨d, ds, rfl⟩ := List.exists_cons_of_ne_nil hds.1
  obtain ⟨hd, hds⟩ := List.forall_mem_cons.1 hds.2
  rw [List.cons_append, splitDigits?, if_pos hd, splitMore_append hds hrest]

/-- The digits of an integer are split off, of which zero itself only begins with a zero. -/
theorem splitWhole?_append (hds : IsDigits ds) (hzero : ds.head? = some '0' → ds = ['0'])
    (hrest : ∀ c ∈ rest.head?, c.isDigit = false ∧ c ≠ '_') :
    splitWhole? (ds ++ rest) = some (ds, rest) := by
  by_cases h : ds.head? = some '0'
  · rw [hzero h]
    rfl
  · obtain ⟨d, ds, rfl⟩ := List.exists_cons_of_ne_nil hds.1
    rw [← splitDigits?_append hds hrest, List.cons_append, splitWhole?]
    rintro _ ⟨⟩
    exact h rfl

/-! ## Dates and times -/

/-- Behind a field of digits that is part of a number, the number goes on or ends, so that no mark
    of a date or a time follows. -/
theorem after?_of_splitField? {c mark : Char} {count low high n : ℕ} {rest' : List Char}
    (hds : ∀ d ∈ ds, d.isDigit) (hc : c.isDigit = false) (hmark : mark.isDigit = false)
    (hne : ds ≠ [] → mark ≠ c) (hcount : count ≠ 0)
    (h : splitField? count low high (ds ++ c :: rest) = some (n, rest')) :
    after? mark rest' = none := by
  rw [splitField?] at h
  split at h
  · next hfield =>
    obtain ⟨-, hdigits, -⟩ := hfield
    obtain rfl : (ds ++ c :: rest).drop count = rest' := congrArg Prod.snd (Option.some.inj h)
    have hdigits := List.all_eq_true.1 hdigits
    -- The field ends within the digits, since what follows them is no digit.
    have hle : count ≤ ds.length := by
      by_contra hlt
      have hmem : c ∈ (ds ++ c :: rest).take count := by
        rw [List.take_append, List.mem_append]
        obtain ⟨k, hk⟩ : ∃ k, count - ds.length = k + 1 := Nat.exists_eq_succ_of_ne_zero (by omega)
        exact .inr (by rw [hk]; exact List.mem_cons_self)
      rw [hdigits c hmem] at hc
      cases hc
    rw [List.drop_append_of_le_length hle]
    cases hdrop : ds.drop count with
    | nil =>
      refine if_neg (hne ?_)
      rintro rfl
      exact hcount (Nat.le_zero.1 hle)
    | cons d ds' =>
      have hd : d.isDigit := hds d (List.mem_of_mem_drop (hdrop ▸ List.mem_cons_self))
      refine if_neg ?_
      rintro rfl
      rw [hd] at hmark
      cases hmark
  · cases h

/-- A number is not taken for a date or a time. -/
theorem splitDateTime?_eq_none {c : Char} (hds : ∀ d ∈ ds, d.isDigit) (hc : c.isDigit = false)
    (hne : ds ≠ [] → '-' ≠ c ∧ ':' ≠ c) : splitDateTime? (ds ++ c :: rest) = none := by
  have hdate : afterDate? (ds ++ c :: rest) = none := by
    rw [afterDate?]
    cases h : splitField? 4 0 9999 (ds ++ c :: rest) with
    | none => rfl
    | some field =>
      have hafter := after?_of_splitField? hds hc (by decide) (fun h => (hne h).1) (by decide) h
      simp only [Option.bind_eq_bind, Option.bind_some, hafter, Option.bind_none]
  have htime : afterTime? (ds ++ c :: rest) = none := by
    rw [afterTime?]
    cases h : splitField? 2 0 23 (ds ++ c :: rest) with
    | none => rfl
    | some field =>
      have hafter := after?_of_splitField? hds hc (by decide) (fun h => (hne h).2) (by decide) h
      simp only [Option.bind_eq_bind, Option.bind_some, hafter, Option.bind_none]
  rw [splitDateTime?, hdate, htime]
  rfl

/-- No digit stands in front of a minus sign. -/
theorem splitDateTime?_minus (rest : List Char) : splitDateTime? ('-' :: rest) = none := by
  have hnone : splitDateTime? ([] ++ '-' :: rest) = none :=
    splitDateTime?_eq_none (List.forall_mem_nil _) (by decide) fun h => absurd rfl h
  exact hnone

/-! ## Integers -/

/-- A number begins with a sign or with a digit. -/
theorem splitSign_append {sign : List Char} (hsign : sign = [] ∨ sign = ['-']) (hds : IsDigits ds)
    (rest : List Char) : splitSign (sign ++ (ds ++ rest)) = (sign, ds ++ rest) := by
  rcases hsign with rfl | rfl
  · obtain ⟨d, ds, rfl⟩ := List.exists_cons_of_ne_nil hds.1
    have hd : d.isDigit := hds.2 d List.mem_cons_self
    rw [List.nil_append, List.cons_append, splitSign]
    · rintro _ ⟨⟩
      cases hd
    · rintro _ ⟨⟩
      cases hd
  · rw [List.singleton_append, splitSign]

/-- Digits at the end of a line are no floating-point number, with a sign or without. -/
theorem splitFloat?_digits {sign : List Char} (hsign : sign = [] ∨ sign = ['-']) (hds : IsDigits ds)
    (hzero : ds.head? = some '0' → ds = ['0']) :
    splitFloat? (sign ++ (ds ++ '\n' :: rest)) = none := by
  have hwhole : splitWhole? (ds ++ '\n' :: rest) = some (ds, '\n' :: rest) :=
    splitWhole?_append hds hzero (by rintro c ⟨⟩; decide)
  have hsplit := splitSign_append hsign hds ('\n' :: rest)
  have hnumeral : splitFloatNumeral? (sign ++ (ds ++ '\n' :: rest)) = none := by
    simp only [splitFloatNumeral?, hsplit, hwhole, Option.bind_eq_bind, Option.bind_some]
    rfl
  have hspecial : splitSpecialFloat? (sign ++ (ds ++ '\n' :: rest)) = none := by
    obtain ⟨d, ds, rfl⟩ := List.exists_cons_of_ne_nil hds.1
    have hd : d.isDigit := hds.2 d List.mem_cons_self
    simp only [splitSpecialFloat?, hsplit]
    split
    · next heq =>
      obtain rfl := (List.cons.inj heq).1
      cases hd
    · next heq =>
      obtain rfl := (List.cons.inj heq).1
      cases hd
    · rfl
  rw [splitFloat?, hnumeral]
  exact hspecial

theorem digitsValue_eq (hds : ∀ d ∈ ds, d.isDigit) :
    digitsValue 10 ds = Decimal.ofDigitChars ds := by
  have hfold (n : ℕ) : ds.foldl (fun n c => n * 10 + (Text.hexValue? c).getD 0) n =
      Nat.ofDigitChars 10 ds n := by
    induction ds generalizing n with
    | nil => rfl
    | cons d ds ih =>
      obtain ⟨hd, hds⟩ := List.forall_mem_cons.1 hds
      have hvalue : Text.hexValue? d = some (d.toNat - 48) := if_pos hd
      rw [List.foldl_cons, hvalue, Option.getD_some, ih hds, Nat.mul_comm n 10]
      rfl
  exact hfold 0

/-- An integer that fits into 64 bits is read back. -/
theorem splitNumeric?_integerChars {n : ℤ} (hlow : Int64.minValue.toInt ≤ n)
    (hhigh : n ≤ Int64.maxValue.toInt) (rest : List Char) :
    splitNumeric? (Decimal.integerChars n ++ '\n' :: rest) = some (integer n, '\n' :: rest) := by
  obtain ⟨sign, heq, hsign⟩ := exists_integerChars_eq n
  have hds := isDigits_digitChars n.natAbs
  have hsign' : sign = [] ∨ sign = ['-'] := hsign.imp And.left And.left
  have hsplit := splitSign_append hsign' hds ('\n' :: rest)
  have hwhole : splitWhole? (Decimal.digitChars n.natAbs ++ '\n' :: rest) =
      some (Decimal.digitChars n.natAbs, '\n' :: rest) :=
    splitWhole?_append hds digitChars_of_head? (by rintro c ⟨⟩; decide)
  have hvalue : (if sign = ['-'] then -(digitsValue 10 (Decimal.digitChars n.natAbs) : ℤ)
      else digitsValue 10 (Decimal.digitChars n.natAbs)) = n := by
    rw [digitsValue_eq hds.2, Decimal.ofDigitChars_digitChars]
    rcases hsign with ⟨rfl, hn⟩ | ⟨rfl, hn⟩
    · rw [if_neg (by decide)]
      omega
    · rw [if_pos rfl]
      omega
  have hdate : splitDateTime? (sign ++ (Decimal.digitChars n.natAbs ++ '\n' :: rest)) = none := by
    rcases hsign' with rfl | rfl
    · exact splitDateTime?_eq_none hds.2 (by decide) fun _ => by decide
    · exact splitDateTime?_minus _
  have hinteger : integer? n = some (integer n) := if_pos ⟨hlow, hhigh⟩
  rw [heq, List.append_assoc, splitNumeric?, hdate,
    splitFloat?_digits hsign' hds digitChars_of_head?, Option.none_or, Option.none_or,
    splitInteger?]
  · rw [hsplit]
    simp only [hwhole, Option.bind_eq_bind, Option.bind_some, hvalue, hinteger]
    rfl
  all_goals
    -- Nothing follows a zero but the end of the line.
    intro cs hcs
    rcases hsign' with rfl | rfl
    · rw [List.nil_append] at hcs
      have hhead : (Decimal.digitChars n.natAbs).head? = some '0' := by
        rw [← List.head?_append_of_ne_nil _ hds.1, hcs]
        rfl
      rw [digitChars_of_head? hhead] at hcs
      cases hcs
    · cases hcs

/-! ## Doubles -/

/-- Whether characters are a numeral with a point and digits on either side of it. -/
def IsPointed (cs : List Char) : Prop :=
  ∃ sign whole places, cs = sign ++ (whole ++ '.' :: places) ∧ (sign = [] ∨ sign = ['-']) ∧
    IsDigits whole ∧ (whole.head? = some '0' → whole = ['0']) ∧ IsDigits places

/-- A numeral with a point at the end of a line is split off. -/
theorem splitFloatNumeral?_append {cs : List Char} (h : IsPointed cs) (rest : List Char) :
    splitFloatNumeral? (cs ++ '\n' :: rest) = some (cs, '\n' :: rest) := by
  obtain ⟨sign, whole, places, rfl, hsign, hwhole, hzero, hplaces⟩ := h
  have hsplit : splitSign (sign ++ (whole ++ '.' :: places) ++ '\n' :: rest) =
      (sign, whole ++ '.' :: (places ++ '\n' :: rest)) := by
    simpa using splitSign_append hsign hwhole ('.' :: (places ++ '\n' :: rest))
  have hwhole' : splitWhole? (whole ++ '.' :: (places ++ '\n' :: rest)) =
      some (whole, '.' :: (places ++ '\n' :: rest)) :=
    splitWhole?_append hwhole hzero (by rintro c ⟨⟩; decide)
  have hfraction : splitFraction? ('.' :: (places ++ '\n' :: rest)) =
      some ('.' :: places, '\n' :: rest) := by
    rw [splitFraction?, splitDigits?_append hplaces (by rintro c ⟨⟩; decide)]
    rfl
  have hexponent : splitExponent? ('\n' :: rest) = none := rfl
  simp only [splitFloatNumeral?, hsplit, hwhole', Option.bind_eq_bind, Option.bind_some, hfraction,
    hexponent]
  simp

theorem splitDateTime?_pointed {cs : List Char} (h : IsPointed cs) (rest : List Char) :
    splitDateTime? (cs ++ '\n' :: rest) = none := by
  obtain ⟨sign, whole, places, rfl, rfl | rfl, hwhole, -, -⟩ := h
  · rw [List.nil_append, List.append_assoc, List.cons_append]
    exact splitDateTime?_eq_none hwhole.2 (by decide) fun _ => by decide
  · exact splitDateTime?_minus _

/-- A double is written in positional notation, with a point in any case. -/
theorem exists_chars_eq {x : Float} (hx : x.isFinite) :
    ∃ d : Decimal, d.toFloat = x ∧ (d.digits = 0 → d.exponent = 0) ∧
      Settings.tomlStyle.chars x = (if d.negative then ['-'] else []) ++
        Style.positionalChars true (Decimal.digitChars d.digits) d.exponent := by
  obtain ⟨d, hd⟩ := Decimal.exists_shortest? Settings.tomlStyle.tie hx
  obtain ⟨hfloat, c, rfl⟩ := Decimal.shortest?_spec hd
  refine ⟨c.canonical, hfloat, Decimal.exponent_canonical, ?_⟩
  rw [Style.chars, hd]
  exact congrArg (_ ++ ·) (if_pos (.inr rfl))

theorem isPointed_chars {x : Float} (hx : x.isFinite) : IsPointed (Settings.tomlStyle.chars x) := by
  obtain ⟨d, -, hzero, hchars⟩ := exists_chars_eq hx
  obtain ⟨whole, places, -, heq, hwhole, hhead, hplaces, -⟩ := positionalChars_pointed hzero
  refine ⟨_, whole, places, heq ▸ hchars, ?_, hwhole, hhead, hplaces⟩
  cases d.negative
  exacts [.inl rfl, .inr rfl]

theorem readFloat?_chars {x : Float} (hx : x.isFinite) :
    readFloat? (Settings.tomlStyle.chars x) = some x := by
  obtain ⟨d, rfl, hzero, hchars⟩ := exists_chars_eq hx
  obtain ⟨e, hread, hnegative, hmagnitude⟩ :=
    Decimal.exists_readUnsigned?_pointed d.negative hzero
  obtain ⟨whole, places, -, heq, hwhole, -⟩ := positionalChars_pointed hzero
  have hdigit := heq ▸ hwhole.exists_append_eq_cons ('.' :: places)
  rw [hchars, readFloat?_signed hdigit hread]
  exact congrArg some (Decimal.toFloat_congr hnegative hmagnitude)

/-- A finite double is read back. -/
theorem splitNumeric?_chars {x : Float} (hx : x.isFinite) (rest : List Char) :
    splitNumeric? (Settings.tomlStyle.chars x ++ '\n' :: rest) = some (float x, '\n' :: rest) := by
  have hpointed := isPointed_chars hx
  have hne : ¬ x == 1 / 0 := by
    obtain ⟨-, -, hinfinity, -⟩ := Double.compare_infinity (Double.regular_of_isFinite hx)
    have hunpack : (1 / 0 : Float).toModel.unpack = .infinity .positive := rfl
    rw [Double.beq_iff_compare, hunpack, hinfinity]
    exact nofun
  rw [splitNumeric?, splitDateTime?_pointed hpointed, splitFloat?,
    splitFloatNumeral?_append hpointed]
  simp only [readFloat?_chars hx, Option.bind_eq_bind, Option.bind_some, if_neg hne]
  rfl

end digits

end JetPlot.Toml
