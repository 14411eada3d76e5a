import JetPlot.Viewport
import Mathlib.Algebra.Group.Nat.Defs
import Mathlib.Data.List.Basic
import Mathlib.Data.List.TakeDrop

/-!
# Plain numerals

A double is written without an exponent as a decimal numeral (`IsNumeral`): an optional minus
sign, digits, and an optional point with more digits behind it.

* `span_append_eq`: what is scanned ends in front of what does not belong to it;
* `positionalChars_spec`, `positionalChars_pointed`: digits in positional notation keep their
  number;
* `isNumeral_chars_plain`, `isNumeral_numberText`: finite doubles are written as numerals.
-/

namespace JetPlot

/-- Whether characters are decimal digits, at least one. -/
def IsDigits (cs : List Char) : Prop := cs ≠ [] ∧ ∀ c ∈ cs, c.isDigit

/-- Whether characters are a decimal numeral without an exponent. -/
def IsNumeral (cs : List Char) : Prop :=
  ∃ sign whole fraction, cs = sign ++ whole ++ fraction ∧ (sign = [] ∨ sign = ['-']) ∧
    IsDigits whole ∧ (fraction = [] ∨ ∃ ds, IsDigits ds ∧ fraction = '.' :: ds)

/-- A numeral consists of digits, signs and points. -/
theorem IsNumeral.mem {cs : List Char} (h : IsNumeral cs) {c : Char} (hc : c ∈ cs) :
    c.isDigit ∨ c = '-' ∨ c = '.' := by
  obtain ⟨sign, whole, fraction, rfl, hsign, ⟨-, hwhole⟩, hfraction⟩ := h
  simp only [List.mem_append] at hc
  rcases hc with (hc | hc) | hc
  · rcases hsign with rfl | rfl
    · cases hc
    · exact .inr (.inl (List.mem_singleton.1 hc))
  · exact .inl (hwhole c hc)
  · rcases hfraction with rfl | ⟨ds, ⟨-, hds⟩, rfl⟩
    · cases hc
    · rcases List.mem_cons.1 hc with rfl | hc
      exacts [.inr (.inr rfl), .inl (hds c hc)]

section scan

variable {p : Char → Bool} {cs rest : List Char}

theorem takeWhile_append_eq (hcs : ∀ c ∈ cs, p c) (hrest : ∀ c ∈ rest.head?, p c = false) :
    (cs ++ rest).takeWhile p = cs := by
  rw [List.takeWhile_append_of_pos hcs]
  cases rest with
  | nil => rw [List.takeWhile_nil, List.append_nil]
  | cons c rest =>
    rw [List.takeWhile_cons_of_neg (Bool.eq_false_iff.1 (hrest c rfl)), List.append_nil]

theorem dropWhile_append_eq (hcs : ∀ c ∈ cs, p c) (hrest : ∀ c ∈ rest.head?, p c = false) :
    (cs ++ rest).dropWhile p = rest := by
  rw [List.dropWhile_append_of_pos hcs]
  cases rest with
  | nil => exact List.dropWhile_nil
  | cons c rest => exact List.dropWhile_cons_of_neg (Bool.eq_false_iff.1 (hrest c rfl))

/-- What is scanned is split off in front of the first character that does not belong to it. -/
theorem span_append_eq (hcs : ∀ c ∈ cs, p c) (hrest : ∀ c ∈ rest.head?, p c = false) :
    (cs ++ rest).span p = (cs, rest) := by
  rw [List.span_eq_takeWhile_dropWhile, takeWhile_append_eq hcs hrest,
    dropWhile_append_eq hcs hrest]

end scan

section digits

variable {cs ds : List Char}

theorem isDigits_digitChars (n : Nat) : IsDigits (Decimal.digitChars n) :=
  ⟨Nat.toDigits_ne_nil, fun _ => Nat.isDigit_of_mem_toDigits (by decide) (by decide)⟩

/-- An integer in decimal digits. -/
def Decimal.integerChars (n : Int) : List Char :=
  (if n < 0 then ['-'] else []) ++ Decimal.digitChars n.natAbs

theorem integerChars_natCast (n : Nat) : Decimal.integerChars n = Decimal.digitChars n := by
  rw [Decimal.integerChars, if_neg (by omega), Int.natAbs_natCast, List.nil_append]

/-- An integer has a sign or none. -/
theorem exists_integerChars_eq (n : Int) : ∃ sign,
    Decimal.integerChars n = sign ++ Decimal.digitChars n.natAbs ∧
      (sign = [] ∧ 0 ≤ n ∨ sign = ['-'] ∧ n < 0) := by
  by_cases hn : n < 0
  · exact ⟨['-'], congrArg (· ++ _) (if_pos hn), .inr ⟨rfl, hn⟩⟩
  · exact ⟨[], congrArg (· ++ _) (if_neg hn), .inl ⟨rfl, by omega⟩⟩

theorem exists_integerChars_cons (n : Int) :
    ∃ c cs, Decimal.integerChars n = c :: cs ∧ (c = '-' ∨ c.isDigit) := by
  obtain ⟨sign, heq, ⟨rfl, -⟩ | ⟨rfl, -⟩⟩ := exists_integerChars_eq n
  · obtain ⟨c, cs, hdigits⟩ := List.exists_cons_of_ne_nil (isDigits_digitChars n.natAbs).1
    exact ⟨c, cs, heq.trans hdigits,
      .inr ((isDigits_digitChars n.natAbs).2 c (hdigits ▸ List.mem_cons_self))⟩
  · exact ⟨'-', _, heq, .inl rfl⟩

theorem isDigits_zero : IsDigits ['0'] := ⟨List.cons_ne_nil _ _, List.forall_mem_singleton.2 rfl⟩

theorem IsDigits.append (h : IsDigits cs) (hds : ∀ c ∈ ds, c.isDigit) : IsDigits (cs ++ ds) := by
  refine ⟨List.append_ne_nil_of_left_ne_nil h.1 ds, fun c hc => ?_⟩
  rcases List.mem_append.1 hc with hc | hc
  exacts [h.2 c hc, hds c hc]

/-- Whatever follows digits, they begin with a digit. -/
theorem IsDigits.exists_append_eq_cons (h : IsDigits cs) (rest : List Char) :
    ∃ c tail, cs ++ rest = c :: tail ∧ c.isDigit := by
  obtain ⟨c, cs, rfl⟩ := List.exists_cons_of_ne_nil h.1
  exact ⟨c, cs ++ rest, rfl, h.2 c List.mem_cons_self⟩

theorem IsDigits.of_mem (h : IsDigits cs) (hne : ds ≠ []) (hmem : ∀ c ∈ ds, c ∈ cs) :
    IsDigits ds := ⟨hne, fun c hc => h.2 c (hmem c hc)⟩

theorem isDigit_of_mem_replicate {k : Nat} {c : Char} (h : c ∈ List.replicate k '0') :
    c.isDigit := by
  rw [List.eq_of_mem_replicate h]
  rfl

theorem ofDigitChars_append (cs ds : List Char) :
    Decimal.ofDigitChars (cs ++ ds) = Nat.ofDigitChars 10 ds (Decimal.ofDigitChars cs) :=
  Nat.ofDigitChars_append 0

/-- Zeros behind digits shift them. -/
theorem ofDigitChars_append_zeros (ds : List Char) (k : Nat) :
    Decimal.ofDigitChars (ds ++ List.replicate k '0') = 10 ^ k * Decimal.ofDigitChars ds := by
  rw [ofDigitChars_append, Nat.ofDigitChars_replicate_zero]

/-- Zeros in front of digits do not count. -/
theorem ofDigitChars_zeros_append (k : Nat) (ds : List Char) :
    Decimal.ofDigitChars (List.replicate k '0' ++ ds) = Decimal.ofDigitChars ds := by
  rw [ofDigitChars_append, Decimal.ofDigitChars, Nat.ofDigitChars_replicate_zero, Nat.mul_zero]
  rfl

/-- Digits with a point among or in front of them have digits on either side of it, and are the
    same number without it. -/
theorem positionalChars_negSucc (pointed : Bool) (hds : IsDigits ds) (k : Nat) :
    ∃ whole places, Style.positionalChars pointed ds (.negSucc k) = whole ++ '.' :: places ∧
      IsDigits whole ∧ (whole = ['0'] ∨ whole.head? = ds.head?) ∧ IsDigits places ∧
      places.length = k + 1 ∧
      Decimal.ofDigitChars (whole ++ places) = Decimal.ofDigitChars ds := by
  rw [Style.positionalChars]
  split
  · next hlt =>
    -- The point stands between the digits.
    refine ⟨_, _, rfl, hds.of_mem ?_ fun _ => List.mem_of_mem_take, .inr ?_,
      hds.of_mem ?_ fun _ => List.mem_of_mem_drop, ?_, ?_⟩
    · rw [Ne, List.take_eq_nil_iff]
      rintro (h | h)
      exacts [by omega, hds.1 h]
    · rw [List.head?_take, if_neg (by omega)]
    · rw [Ne, List.drop_eq_nil_iff]
      omega
    · rw [List.length_drop]
      omega
    · rw [List.take_append_drop]
  · refine ⟨['0'], List.replicate _ '0' ++ ds, rfl, isDigits_zero, .inl rfl, ⟨?_, ?_⟩, ?_, ?_⟩
    · exact List.append_ne_nil_of_right_ne_nil _ hds.1
    · intro c hc
      rcases List.mem_append.1 hc with hc | hc
      exacts [isDigit_of_mem_replicate hc, hds.2 c hc]
    · rw [List.length_append, List.length_replicate]
      omega
    · exact ofDigitChars_zeros_append (_ + 1) ds

/-- Digits in positional notation are a whole number, or have a point among them and are the
    same number without it. -/
theorem positionalChars_spec (hds : IsDigits ds) (exponent : Int) :
    (∃ k : Nat, exponent = k ∧ IsDigits (Style.positionalChars false ds exponent) ∧
      Decimal.ofDigitChars (Style.positionalChars false ds exponent) =
        10 ^ k * Decimal.ofDigitChars ds) ∨
    ∃ whole places, Style.positionalChars false ds exponent = whole ++ '.' :: places ∧
      IsDigits whole ∧ IsDigits places ∧ exponent = -places.length ∧
      Decimal.ofDigitChars (whole ++ places) = Decimal.ofDigitChars ds := by
  cases exponent with
  | ofNat k =>
    have hchars : Style.positionalChars false ds (.ofNat k) = ds ++ List.replicate k '0' :=
      List.append_nil _
    rw [hchars]
    exact .inl ⟨k, rfl, hds.append fun _ => isDigit_of_mem_replicate,
      ofDigitChars_append_zeros ds k⟩
  | negSucc k =>
    obtain ⟨whole, places, heq, hwhole, -, hplaces, hlength, hnumber⟩ :=
      positionalChars_negSucc false hds k
    exact .inr ⟨whole, places, heq, hwhole, hplaces, by rw [hlength]; rfl, hnumber⟩

/-- The digits of a number other than zero begin with no zero. -/
theorem head?_digitChars {n : ℕ} (h : n ≠ 0) : (Decimal.digitChars n).head? ≠ some '0' := by
  induction n using Nat.strongRecOn with
  | ind n ih =>
    by_cases hlt : n < 10
    · have hall : ∀ n < 10, n ≠ 0 → (Decimal.digitChars n).head? ≠ some '0' := by decide
      exact hall n hlt h
    · -- The first digit is that of a tenth of the number.
      have hdigits : Decimal.digitChars n = Decimal.digitChars (n / 10) ++ [(n % 10).digitChar] :=
        Nat.toDigits_of_base_le (by decide) (by omega)
      have hne : Decimal.digitChars (n / 10) ≠ [] := (isDigits_digitChars _).1
      rw [hdigits, List.head?_append_of_ne_nil _ hne]
      exact ih (n / 10) (by omega) (by omega)

/-- Zero itself is the only number whose digits begin with a zero. -/
theorem digitChars_of_head? {n : ℕ} (h : (Decimal.digitChars n).head? = some '0') :
    Decimal.digitChars n = ['0'] := by
  by_cases hn : n = 0
  · rw [hn]
    rfl
  · exact absurd h (head?_digitChars hn)

/-- With a point in any case, a number in positional notation has digits on either side of it, which
    begin with no superfluous zero. They are the digits of the number but for zeros behind it. -/
theorem positionalChars_pointed {n : Nat} {exponent : Int} (hzero : n = 0 → exponent = 0) :
    ∃ whole places, ∃ k : Nat,
      Style.positionalChars true (Decimal.digitChars n) exponent = whole ++ '.' :: places ∧
      IsDigits whole ∧ (whole.head? = some '0' → whole = ['0']) ∧ IsDigits places ∧
      exponent = k - places.length ∧ Decimal.ofDigitChars (whole ++ places) = 10 ^ k * n := by
  have hdigits := isDigits_digitChars n
  have hnumber := Decimal.ofDigitChars_digitChars n
  have hhead (h : (Decimal.digitChars n).head? = some '0') : n = 0 :=
    by_contra fun hn => head?_digitChars hn h
  cases exponent with
  | ofNat k =>
    refine ⟨Decimal.digitChars n ++ List.replicate k '0', ['0'], k + 1, rfl,
      hdigits.append fun _ => isDigit_of_mem_replicate, fun h => ?_, isDigits_zero, by simp, ?_⟩
    · rw [List.head?_append_of_ne_nil _ hdigits.1] at h
      obtain rfl : k = 0 := Int.ofNat_inj.1 (hzero (hhead h))
      rw [hhead h]
      rfl
    · rw [List.append_assoc, ← List.replicate_succ', ofDigitChars_append_zeros, hnumber]
  | negSucc k =>
    obtain ⟨whole, places, heq, hwhole, hfirst, hplaces, hlength, hsame⟩ :=
      positionalChars_negSucc true hdigits k
    refine ⟨whole, places, 0, heq, hwhole, fun h => ?_, hplaces, ?_, ?_⟩
    · rcases hfirst with hfirst | hfirst
      · exact hfirst
      · exact absurd (hzero (hhead (hfirst ▸ h))) (by omega)
    · rw [hlength]
      omega
    · rw [hsame, hnumber, Nat.pow_zero, Nat.one_mul]

end digits

theorem decimalChars_plain (d : Decimal) :
    Style.plain.decimalChars d = (if d.negative then ['-'] else []) ++
      Style.positionalChars false (Decimal.digitChars d.digits) d.exponent :=
  congrArg (_ ++ ·) (if_pos (.inr rfl))

theorem sign_cases (negative : Bool) :
    (if negative then ['-'] else []) = [] ∨ (if negative then ['-'] else []) = ['-'] := by
  cases negative
  exacts [.inl rfl, .inr rfl]

theorem isNumeral_decimalChars_plain (d : Decimal) : IsNumeral (Style.plain.decimalChars d) := by
  have hsign := sign_cases d.negative
  rw [decimalChars_plain]
  obtain ⟨-, -, hdigits, -⟩ | ⟨whole, places, heq, hwhole, hplaces, -⟩ :=
    positionalChars_spec (isDigits_digitChars d.digits) d.exponent
  · exact ⟨_, _, [], (List.append_nil _).symm, hsign, hdigits, .inl rfl⟩
  · rw [heq, ← List.append_assoc]
    exact ⟨_, _, _, rfl, hsign, hwhole, .inr ⟨places, hplaces, rfl⟩⟩

/-- A finite double is written as a numeral. -/
theorem isNumeral_chars_plain {x : Float} (hx : x.isFinite) : IsNumeral (Style.plain.chars x) := by
  rw [Style.chars, Decimal.shortest?]
  change x.toModel.unpack.isFinite at hx
  cases h : x.toModel.unpack with
  | infinity s | notANumber => rw [h] at hx; cases hx
  | zero s | finite s m e hm => exact isNumeral_decimalChars_plain _

/-- A number in a picture is a numeral. -/
theorem isNumeral_numberText {x : Float} (hx : x.isFinite) : IsNumeral (numberText x).toList := by
  rw [numberText]
  split
  · exact ⟨[], ['0'], [], rfl, .inl rfl, isDigits_zero, .inl rfl⟩
  · rw [Style.text, String.toList_ofList]
    exact isNumeral_chars_plain hx

end JetPlot
