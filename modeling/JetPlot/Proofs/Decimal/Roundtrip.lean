import JetPlot.Decimal.Reader
import JetPlot.Proofs.Decimal.Nearest
import JetPlot.Proofs.Decimal.Numeral
import JetPlot.Proofs.Text.LetterCase

/-!
# Reading plain numerals back

What is written without an exponent is read back as the double that was written, for every
double but a NaN. The numeral that is read need not have the digits of the one that was
written, which may have got zeros on either side, but it has the same number, and that is all
that counts for the double.

* `readFloat?_decimalChars_plain`: a plain decimal is read as the double of the decimal;
* `readFloat?_chars_plain`: a double is read back;
* `beq_of_numberText_eq`: numbers that are written alike in pictures are numerically equal.
-/

namespace JetPlot

open Double Float.Model UnpackedFloat

namespace Decimal

/-! ## Digits -/

section digits

variable {ds : List Char} {negative : Bool}

/-- Digits alone are read as their number. -/
theorem readUnsigned?_digits (h : IsDigits ds) :
    readUnsigned? negative ds = some ⟨negative, ofDigitChars ds, 0⟩ := by
  have htake : ds.takeWhile Char.isDigit = ds := List.takeWhile_eq_self_iff.2 h.2
  have hdrop : ds.dropWhile Char.isDigit = [] := List.dropWhile_eq_nil_iff.2 h.2
  simp only [readUnsigned?, htake, hdrop, List.append_nil, if_neg h.1]
  rfl

/-- Digits with a point among them are read as the number of all of them, shifted by those
    behind the point. -/
theorem readUnsigned?_point {whole fraction : List Char} (hwhole : IsDigits whole)
    (hfraction : IsDigits fraction) :
    readUnsigned? negative (whole ++ '.' :: fraction) =
      some ⟨negative, ofDigitChars (whole ++ fraction), -fraction.length⟩ := by
  have hpoint : ∀ c ∈ ('.' :: fraction).head?, c.isDigit = false := by
    rintro c ⟨⟩
    decide
  have htake := takeWhile_append_eq hwhole.2 hpoint
  have hdrop := dropWhile_append_eq hwhole.2 hpoint
  have htake' : fraction.takeWhile Char.isDigit = fraction :=
    List.takeWhile_eq_self_iff.2 hfraction.2
  have hdrop' : fraction.dropWhile Char.isDigit = [] := List.dropWhile_eq_nil_iff.2 hfraction.2
  have hne : whole ++ fraction ≠ [] := List.append_ne_nil_of_left_ne_nil hwhole.1 fraction
  simp only [readUnsigned?, htake, hdrop, htake', hdrop', if_neg hne]
  exact congrArg some (congrArg (Decimal.mk _ _) (Int.zero_sub _))

end digits

/-- The digits of a number in positional notation are read as a decimal of the same number. -/
theorem exists_readUnsigned?_positionalChars (negative : Bool) (n : ℕ) (exponent : ℤ) :
    ∃ d, readUnsigned? negative (Style.positionalChars false (digitChars n) exponent) = some d ∧
      d.negative = negative ∧ d.magnitude = n * 10 ^ exponent := by
  have hvalue := ofDigitChars_digitChars n
  obtain ⟨k, rfl, hdigits, hnumber⟩ | ⟨whole, places, heq, hwhole, hplaces, rfl, hnumber⟩ :=
    positionalChars_spec (isDigits_digitChars n) exponent
  · refine ⟨_, readUnsigned?_digits hdigits, rfl, ?_⟩
    rw [magnitude, hnumber, hvalue, zpow_zero, mul_one, zpow_natCast, Nat.cast_mul, Nat.cast_pow,
      mul_comm]
    rfl
  · refine ⟨_, heq ▸ readUnsigned?_point hwhole hplaces, rfl, ?_⟩
    rw [magnitude, hnumber, hvalue]

/-- So are they if there is a point in any case. -/
theorem exists_readUnsigned?_pointed (negative : Bool) {n : ℕ} {exponent : ℤ}
    (hzero : n = 0 → exponent = 0) :
    ∃ d, readUnsigned? negative (Style.positionalChars true (digitChars n) exponent) = some d ∧
      d.negative = negative ∧ d.magnitude = n * 10 ^ exponent := by
  obtain ⟨whole, places, k, heq, hwhole, -, hplaces, rfl, hnumber⟩ := positionalChars_pointed hzero
  refine ⟨_, heq ▸ readUnsigned?_point hwhole hplaces, rfl, ?_⟩
  have hten : (10 : ℚ) ≠ 0 := by norm_num
  calc ((ofDigitChars (whole ++ places) : ℕ) : ℚ) * 10 ^ (-places.length : ℤ)
      = n * (10 ^ (k : ℤ) * 10 ^ (-places.length : ℤ)) := by
        rw [hnumber, Nat.cast_mul, Nat.cast_pow, zpow_natCast]
        ring
    _ = n * 10 ^ (k - places.length : ℤ) := by rw [← zpow_add₀ hten, ← sub_eq_add_neg]

/-- Digits in positional notation start with a digit. -/
theorem exists_positionalChars_eq_cons {ds : List Char} (hds : IsDigits ds) (exponent : ℤ) :
    ∃ c rest, Style.positionalChars false ds exponent = c :: rest ∧ c.isDigit := by
  obtain ⟨-, -, hdigits, -⟩ | ⟨whole, places, heq, hwhole, -⟩ := positionalChars_spec hds exponent
  · simpa using hdigits.exists_append_eq_cons []
  · exact heq ▸ hwhole.exists_append_eq_cons ('.' :: places)

end Decimal

/-! ## Words and signs -/

/-- What starts with a digit is neither the word of an infinity nor of a NaN. -/
theorem readFloat?_of_isDigit {cs rest : List Char} {negative : Bool} {c : Char}
    (hsign : Decimal.readSign cs = (negative, c :: rest)) (hc : c.isDigit) :
    readFloat? cs = (Decimal.readUnsigned? negative (c :: rest)).map Decimal.toFloat := by
  have hne {word : List Char} (hword : word.head?.any Char.isDigit = false) :
      ¬ c :: rest.map Char.toLower = word := by
    rintro rfl
    exact absurd hc (Bool.eq_false_iff.1 hword)
  rw [readFloat?, hsign]
  simp only [List.map_cons, Text.toLower_of_isDigit hc]
  rw [if_neg (not_or.2 ⟨hne (by decide), hne (by decide)⟩), if_neg (hne (by decide))]

theorem readSign_of_isDigit {c : Char} (hc : c.isDigit) (rest : List Char) :
    Decimal.readSign (c :: rest) = (false, c :: rest) := by
  rw [Decimal.readSign]
  · rintro _ ⟨⟩
    cases hc
  · rintro _ ⟨⟩
    cases hc

/-- A sign and digits are read as the double of the decimal that the digits are read as. -/
theorem readFloat?_signed {cs : List Char} {negative : Bool} {d : Decimal}
    (hcs : ∃ c rest, cs = c :: rest ∧ c.isDigit)
    (hread : Decimal.readUnsigned? negative cs = some d) :
    readFloat? ((if negative then ['-'] else []) ++ cs) = some d.toFloat := by
  obtain ⟨c, rest, rfl, hc⟩ := hcs
  have hsign : Decimal.readSign ((if negative then ['-'] else []) ++ c :: rest) =
      (negative, c :: rest) := by
    cases negative with
    | true => rfl
    | false => exact readSign_of_isDigit hc rest
  rw [readFloat?_of_isDigit hsign hc, hread, Option.map_some]

/-- A plain decimal is read as the double of the decimal. -/
theorem readFloat?_decimalChars_plain (d : Decimal) :
    readFloat? (Style.plain.decimalChars d) = some d.toFloat := by
  obtain ⟨e, hread, hnegative, hmagnitude⟩ :=
    Decimal.exists_readUnsigned?_positionalChars d.negative d.digits d.exponent
  have hdigit := Decimal.exists_positionalChars_eq_cons (isDigits_digitChars d.digits) d.exponent
  rw [decimalChars_plain, readFloat?_signed hdigit hread]
  exact congrArg some (Decimal.toFloat_congr hnegative hmagnitude)

/-- A double is read back. -/
theorem readFloat?_chars_plain {x : Float} (hx : ¬ x.isNaN) :
    readFloat? (Style.plain.chars x) = some x := by
  cases hfinite : x.isFinite with
  | true =>
    obtain ⟨d, hd⟩ := Decimal.exists_shortest? Style.plain.tie hfinite
    rw [Style.chars, hd]
    exact (readFloat?_decimalChars_plain d).trans (congrArg some (Decimal.shortest?_spec hd).1)
  | false =>
    -- What is neither finite nor a NaN is one of two doubles, which have words of their own.
    obtain ⟨s, hs⟩ : ∃ s, x.toModel.unpack = .infinity s := by
      change ¬ x.toModel.unpack.isNaN at hx
      change x.toModel.unpack.isFinite = false at hfinite
      cases h : x.toModel.unpack with
      | infinity s => exact ⟨s, rfl⟩
      | notANumber => rw [h] at hx; exact absurd rfl hx
      | zero s | finite s m e hm => rw [h] at hfinite; cases hfinite
    cases s with
    | positive =>
      obtain rfl : x = 1 / 0 := eq_of_unpack_eq (hs.trans (by rfl))
      rfl
    | negative =>
      obtain rfl : x = -(1 / 0) := eq_of_unpack_eq (hs.trans (by rfl))
      rfl

/-! ## Numbers in pictures -/

/-- A number in a picture is read back, but for the sign of zero. -/
theorem readFloat?_numberText {x : Float} (hx : ¬ x.isNaN) :
    readFloat? (numberText x).toList = some (if x == 0 then 0 else x) := by
  rw [numberText]
  split
  · decide +kernel
  · rw [Style.text, String.toList_ofList]
    exact readFloat?_chars_plain hx

/-- Numbers that are written alike in pictures are numerically equal. -/
theorem beq_of_numberText_eq {x y : Float} (hx : ¬ x.isNaN) (hy : ¬ y.isNaN)
    (h : numberText x = numberText y) : x == y := by
  have hread := readFloat?_numberText hx
  rw [h, readFloat?_numberText hy] at hread
  have heq := Option.some.inj hread
  split at heq
  · next hzero =>
    split at heq
    · next hzero' => exact beq_of_beq_zero hzero' hzero
    · next hzero' => exact absurd (by rw [← heq]; rfl) hzero'
  · next hzero =>
    split at heq
    · exact absurd (by rw [heq]; rfl) hzero
    · rw [heq]
      exact beq_self hx

/-- A number in a picture consists of digits, letters, minus signs and points. -/
theorem mem_numberText {x : Float} {c : Char} (hc : c ∈ (numberText x).toList) :
    c.isAlphanum ∨ c = '-' ∨ c = '.' := by
  cases hfinite : x.isFinite with
  | true =>
    exact ((isNumeral_numberText hfinite).mem hc).imp_left fun hdigit => by
      rw [Char.isAlphanum, hdigit, Bool.or_true]
  | false =>
    have hzero : ¬ x == 0 := fun h => by
      rw [isFinite_of_beq_zero h] at hfinite
      cases hfinite
    have hnone : Decimal.shortest? Style.plain.tie x = none := by
      change x.toModel.unpack.isFinite = false at hfinite
      rw [Decimal.shortest?]
      cases h : x.toModel.unpack with
      | zero s | finite s m e hm => rw [h] at hfinite; cases hfinite
      | infinity s | notANumber => rfl
    have hwords : ∀ word ∈ ["NaN".toList, "-inf".toList, "inf".toList],
        ∀ c ∈ word, c.isAlphanum ∨ c = '-' ∨ c = '.' := by simp
    rw [numberText, if_neg hzero, Style.text, String.toList_ofList, Style.chars, hnone] at hc
    dsimp only at hc
    split at hc
    · exact hwords _ (by decide) c hc
    · split at hc
      · exact hwords _ (by decide) c hc
      · exact hwords _ (by decide) c hc

/-- There is neither a space nor a quotation mark in a number in a picture. -/
theorem not_mem_numberText (x : Float) :
    ' ' ∉ (numberText x).toList ∧ '"' ∉ (numberText x).toList :=
  ⟨fun hmem => absurd (mem_numberText hmem) (by decide),
    fun hmem => absurd (mem_numberText hmem) (by decide)⟩

end JetPlot
