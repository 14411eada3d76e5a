import JetPlot.Proofs.Reading.Occurrence
import JetPlot.Proofs.Reading.Template

/-!
# Coordinates that are tokens

The two coordinates of a line are not read alike. A comma has to follow the first one, so that it is
read only if the whole token in front of the comma is a numeral; nothing has to follow the second
one, and the longest numeral that its token begins with is read.

* `point_read_tokens`: the point of a line with two tokens;
* `not_point_read_comm`: two tokens that are a point in one order only.
-/

namespace JetPlot

open Text

namespace Template

/-- Whether a text is a token: not empty, without white space, commas and semicolons. -/
def IsToken (cs : List Char) : Prop := cs ≠ [] ∧ ∀ c ∈ cs, isWordChar c

instance (cs : List Char) : Decidable (IsToken cs) :=
  decidable_of_iff (cs ≠ [] ∧ cs.all isWordChar) (and_congr_right' List.all_eq_true)

/-- The line whose parameters are two tokens. -/
def ofTokens (a b : List Char) : List Char := "(X,Y),".toList ++ (a ++ ',' :: b)

section tokens

variable {a b cs x y rest : List Char}

theorem IsToken.not_comma (h : IsToken a) : ',' ∉ a := by
  intro hcomma
  exact absurd (h.2 _ hcomma) (by decide)

theorem IsToken.not_isBlank (h : IsToken a) {c : Char} (hc : c ∈ a) : isBlank c = false :=
  isBlank_of_isWordChar (h.2 c hc)

/-- White space in a token is empty. -/
theorem IsToken.eq_nil_of_isBlanks (h : IsToken a) (hcs : IsBlanks cs) (hsub : cs ⊆ a) :
    cs = [] := by
  refine List.eq_nil_iff_forall_not_mem.2 fun c hc => ?_
  have hblank := hcs c hc
  rw [h.not_isBlank (hsub hc)] at hblank
  cases hblank

theorem IsToken.skipBlanks_append (h : IsToken a) (rest : List Char) :
    skipBlanks (a ++ rest) = a ++ rest := by
  obtain ⟨c, a, rfl⟩ := List.exists_cons_of_ne_nil h.1
  exact List.dropWhile_cons_of_neg (Bool.eq_false_iff.1 (h.not_isBlank List.mem_cons_self))

/-- Of two tokens, the first one has to be a numeral, the second one only to begin with one. -/
theorem numerals_tokens (ha : IsToken a) (hb : IsToken b) :
    Numerals (a ++ ',' :: b) x y rest ↔ IsCoordinate a ∧ x = a ∧ b = y ++ rest ∧ IsLongest y b := by
  constructor
  · rintro ⟨before, after, hbefore, hafter, hcs, hx, hy⟩
    rw [← List.append_assoc] at hcs
    obtain ⟨rfl, -, rfl⟩ := (List.append_cons_inj_of_notMem ha.not_comma hb.not_comma).1 hcs
    obtain rfl := ha.eq_nil_of_isBlanks hbefore (List.subset_append_right x before)
    obtain rfl := hb.eq_nil_of_isBlanks hafter (List.subset_append_left after _)
    rw [List.append_nil]
    exact ⟨hx.1, rfl, rfl, hy⟩
  · rintro ⟨hcoordinate, rfl, rfl, hy⟩
    exact ⟨[], [], fun c hc => absurd hc List.not_mem_nil, fun c hc => absurd hc List.not_mem_nil,
      rfl, isLongest_append_comma.2 hcoordinate.isLongest_self, hy⟩

/-! ## One place only -/

/-- The form has three commas. -/
theorem three_le_count_of_readAt? {t : Template} (h : readAt? cs = some t) :
    3 ≤ cs.count ',' := by
  obtain ⟨rest, ⟨marker, hmarker, blanks, tail, -, hcs, before, after, -, -, rfl, -⟩, -⟩ :=
    (@readAt?_eq_some_iff cs 0 t).1 h
  have htwo : marker.count ',' = 2 := by
    have hall : ∀ marker ∈ markers, marker.count ',' = 2 := by decide
    exact hall marker hmarker
  rw [List.drop_zero] at hcs
  rw [hcs]
  simp only [List.count_append, List.count_cons_self, htwo]
  omega

theorem find?_eq_none_of_count (h : cs.count ',' < 3) : find? cs = none := by
  refine find?_eq_none fun k => ?_
  by_contra hsome
  obtain ⟨t, ht⟩ := Option.ne_none_iff_exists'.1 hsome
  have hle := List.Sublist.count_le ',' (List.drop_sublist k cs)
  have hthree := three_le_count_of_readAt? ht
  omega

/-- Behind the first parenthesis of the line, too few commas are left. -/
theorem find?_ofTokens (ha : IsToken a) (hb : IsToken b) :
    find? (ofTokens a b) = readNumerals? (a ++ ',' :: b) := by
  have hread : readAt? (ofTokens a b) = readNumerals? (a ++ ',' :: b) := by
    rw [readAt?_eq]
    change readNumerals? (skipBlanks (a ++ ',' :: b)) = _
    rw [ha.skipBlanks_append]
  -- The form does not begin in `X,`, and behind that only two of its three commas are left.
  have hrest : find? ("X,".toList ++ ("Y),".toList ++ (a ++ ',' :: b))) = none := by
    rw [find?_append (by decide)]
    refine find?_eq_none_of_count ?_
    have htwo : "Y),".toList.count ',' = 1 := by decide
    simp only [List.count_append, List.count_cons_self, htwo,
      List.count_eq_zero_of_not_mem ha.not_comma, List.count_eq_zero_of_not_mem hb.not_comma]
    omega
  change (readAt? (ofTokens a b)).or (find? ("X,".toList ++ ("Y),".toList ++ (a ++ ',' :: b)))) = _
  rw [hread, hrest, Option.or_none]

end tokens

end Template

/-! ## Points -/

section points

open Template Parameters

variable {a b : List Char}

/-- The point of a line with two tokens. The first one has to be a numeral as a whole, the second
    one only to begin with one. -/
theorem point_read_ofTokens (ha : IsToken a) (hb : IsToken b) {p : Point} :
    (Parameters.read (ofTokens a b)).point = some p ↔ IsCoordinate a ∧ readFinite? a = some p.x ∧
      ∃ n, IsLongest n b ∧ readFinite? n = some p.y := by
  rw [Parameters.read, find?_ofTokens ha hb]
  constructor
  · intro h
    cases ht : readNumerals? (a ++ ',' :: b) with
    | none => rw [ht] at h; cases h
    | some t =>
      obtain ⟨x, y, third⟩ := t
      obtain ⟨rest, hnumerals, -⟩ := readNumerals?_eq_some_iff.1 ht
      obtain ⟨hcoordinate, rfl, -, hy⟩ := (numerals_tokens ha hb).1 hnumerals
      simp only [ht] at h
      cases hpoint : readPoint? x y with
      | none => rw [hpoint] at h; cases h
      | some q =>
        simp only [hpoint] at h
        obtain rfl := Option.some.inj h
        obtain ⟨hx, hy'⟩ := readPoint?_eq_some_iff.1 hpoint
        exact ⟨hcoordinate, hx, y, hy, hy'⟩
  · rintro ⟨hcoordinate, hx, n, hn, hy⟩
    obtain ⟨rest, rfl⟩ := hn.2.1
    have hnumerals : Numerals (a ++ ',' :: (n ++ rest)) a n rest :=
      (numerals_tokens ha hb).2 ⟨hcoordinate, rfl, rfl, hn⟩
    rw [(@readNumerals?_eq_some_iff _ ⟨a, n, third? rest⟩).2 ⟨rest, hnumerals, rfl⟩]
    simp only [readPoint?_eq_some_iff.2 ⟨hx, hy⟩]

/-- If a token has no numeral but itself in front, it does not matter where it stands. -/
theorem exists_isLongest_iff (hb : ∀ n, IsLongest n b → n = b) (y : Float) :
    (∃ n, IsLongest n b ∧ readFinite? n = some y) ↔ IsCoordinate b ∧ readFinite? b = some y := by
  constructor
  · rintro ⟨n, hn, hy⟩
    obtain rfl := hb n hn
    exact ⟨hn.1, hy⟩
  · rintro ⟨hcoordinate, hy⟩
    exact ⟨b, hcoordinate.isLongest_self, hy⟩

/-- The coordinates of a line with two tokens are a numeral, which is the whole first token, and the
    longest numeral that the second token begins with. They may be exchanged if neither token begins
    with a shorter numeral. -/
theorem point_read_tokens (ha : IsToken a) (hb : IsToken b) (x y : Float) :
    ((Parameters.read (ofTokens a b)).point = some ⟨x, y⟩ ↔
      IsCoordinate a ∧ (readFloat? a = some x ∧ x.isFinite) ∧
        ∃ n, IsLongest n b ∧ readFloat? n = some y ∧ y.isFinite) ∧
    ((∀ n, IsLongest n a → n = a) → (∀ n, IsLongest n b → n = b) →
      ((Parameters.read (ofTokens a b)).point = some ⟨x, y⟩ ↔
        (Parameters.read (ofTokens b a)).point = some ⟨y, x⟩)) := by
  simp only [← readFinite?_eq_some_iff]
  refine ⟨point_read_ofTokens ha hb, fun hwhole hwhole' => ?_⟩
  rw [point_read_ofTokens ha hb, point_read_ofTokens hb ha, exists_isLongest_iff hwhole',
    exists_isLongest_iff hwhole]
  constructor
  · rintro ⟨hcoordinate, hx, hcoordinate', hy⟩
    exact ⟨hcoordinate', hy, hcoordinate, hx⟩
  · rintro ⟨hcoordinate', hy, hcoordinate, hx⟩
    exact ⟨hcoordinate, hx, hcoordinate', hy⟩

/-- Behind `5`, the token `1e3` is read as `1`. -/
theorem point_read_tokens_exponent : IsToken "5".toList ∧ IsToken "1e3".toList ∧
    ∃ n, IsLongest n "1e3".toList ∧ readFloat? n = some 1 := by
  have ha : IsToken "5".toList := by decide
  have hb : IsToken "1e3".toList := by decide
  obtain ⟨-, -, n, hn, hread, -⟩ := (point_read_tokens ha hb 5 1).1.1 (by decide +kernel)
  exact ⟨ha, hb, n, hn, hread⟩

/-- Two tokens may be a point in one order only. -/
theorem not_point_read_comm : ¬ ∀ a b : List Char, IsToken a → IsToken b → ∀ x y : Float,
    x.isFinite → y.isFinite → ((Parameters.read (ofTokens a b)).point = some ⟨x, y⟩ ↔
      (Parameters.read (ofTokens b a)).point = some ⟨y, x⟩) := by
  intro h
  have hread : (Parameters.read (ofTokens "5".toList "1e3".toList)).point = some ⟨5, 1⟩ := by
    decide +kernel
  have hnone : (Parameters.read (ofTokens "1e3".toList "5".toList)).point = none := by
    decide +kernel
  have hswap := (h "5".toList "1e3".toList (by decide) (by decide) 5 1 rfl rfl).1 hread
  rw [hnone] at hswap
  cases hswap

end points

end JetPlot
