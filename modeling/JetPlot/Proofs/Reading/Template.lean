import JetPlot.Proofs.Decimal.Roundtrip
import JetPlot.Proofs.Reading.Numerals
import JetPlot.Proofs.Reading.WellFormed

/-!
# Written parameters

The parameters of a command are written as a marker and plain numerals with commas between
them (`Command.parameterChars`). The marker is found behind any keyword, as no keyword has a
parenthesis, and a numeral ends where the next comma stands, as no numeral has a comma.

* `splitNumeral?_append`: a numeral is split off in front of a comma;
* `read_parameterChars`: the parameters of a well-formed command are read back.
-/

namespace JetPlot

/-- The third parameter of a command: its angle or its speed. -/
def Command.third (c : Command) : Option Float := c.angle.or c.speed

/-- The parameters of a command with a point, in the form in which they are read. -/
def Command.parameterChars (c : Command) : List Char :=
  c.point.elim [] fun q =>
    " (X,Y),".toList ++ (Style.plain.chars q.x ++ ',' :: (Style.plain.chars q.y ++
      c.third.elim [] fun v => ',' :: Style.plain.chars v))

/-! ## Numerals -/

section numerals

variable {cs rest : List Char}

theorem toNat_of_isDigit {c : Char} (hc : c.isDigit) : 0x30 ≤ c.toNat ∧ c.toNat ≤ 0x39 := by
  obtain ⟨hge, hle⟩ := Bool.and_eq_true_iff.1 hc
  exact ⟨UInt32.le_iff_toNat_le.1 (of_decide_eq_true hge),
    UInt32.le_iff_toNat_le.1 (of_decide_eq_true hle)⟩

theorem isDecimalDigit_of_isDigit {c : Char} (hc : c.isDigit) : Text.isDecimalDigit c :=
  List.any_eq_true.2 ⟨0x30, by decide, decide_eq_true (toNat_of_isDigit hc)⟩

/-- A numeral without an exponent may stand for a coordinate. -/
theorem IsNumeral.isCoordinate (h : IsNumeral cs) : Template.IsCoordinate cs := by
  obtain ⟨sign, whole, fraction, rfl, hsign, hwhole, hfraction⟩ := h
  have hdigits {ds : List Char} (hds : IsDigits ds) : ∀ c ∈ ds, Text.isDecimalDigit c :=
    fun c hc => isDecimalDigit_of_isDigit (hds.2 c hc)
  refine ⟨sign, whole ++ fraction, List.append_assoc .., hsign.imp_right .inr,
    .inl ⟨whole, fraction, rfl, hwhole.1, hdigits hwhole, ?_⟩⟩
  exact hfraction.imp_right fun ⟨places, hplaces, heq⟩ => ⟨places, heq, hdigits hplaces⟩

/-- There is no white space in a numeral. -/
theorem IsNumeral.not_isBlank (h : IsNumeral cs) {c : Char} (hc : c ∈ cs) :
    Text.isBlank c = false := h.isCoordinate.not_isBlank hc

theorem IsNumeral.ne_nil (h : IsNumeral cs) : cs ≠ [] := h.isCoordinate.ne_nil

theorem IsNumeral.skipBlanks_append (h : IsNumeral cs) (rest : List Char) :
    Text.skipBlanks (cs ++ rest) = cs ++ rest := by
  obtain ⟨c, cs, rfl⟩ := List.exists_cons_of_ne_nil h.ne_nil
  exact List.dropWhile_cons_of_neg (Bool.eq_false_iff.1 (h.not_isBlank List.mem_cons_self))

/-- A numeral is a third parameter as a whole. -/
theorem IsNumeral.third? (h : IsNumeral cs) : Template.third? (',' :: cs) = some cs := by
  have hword : cs.takeWhile (fun c => !(c = ',' || c = ';' || Text.isBlank c)) = cs := by
    refine List.takeWhile_eq_self_iff.2 fun c hc => ?_
    have hblank := h.not_isBlank hc
    rcases h.mem hc with hdigit | rfl | rfl
    · have hcomma : c ≠ ',' := by rintro rfl; cases hdigit
      have hsemicolon : c ≠ ';' := by rintro rfl; cases hdigit
      simp [hcomma, hsemicolon, hblank]
    · decide
    · decide
  have hskip := h.skipBlanks_append []
  rw [List.append_nil] at hskip
  have hafter : Template.afterComma? (',' :: cs) = some cs := congrArg some hskip
  rw [Template.third?, hafter]
  simp only [Option.bind_some, bind, hword]
  obtain ⟨c, cs, rfl⟩ := List.exists_cons_of_ne_nil h.ne_nil
  rfl

namespace Template

/-- A numeral is split off in front of a comma or at the end. -/
theorem splitNumeral?_append (hcs : IsNumeral cs) (hrest : ∀ c ∈ rest.head?, c = ',') :
    splitNumeral? (cs ++ rest) = some (cs, rest) := by
  refine splitNumeral?_eq_some_iff.2 ⟨rfl, ?_⟩
  cases rest with
  | nil =>
    rw [List.append_nil]
    exact hcs.isCoordinate.isLongest_self
  | cons c rest =>
    obtain rfl := hrest c rfl
    exact isLongest_append_comma.2 hcs.isCoordinate.isLongest_self

end Template

end numerals

/-! ## The marker -/

namespace Template

/-- What has no parenthesis holds no marker. -/
theorem find?_append {before : List Char} (h : '(' ∉ before) (cs : List Char) :
    find? (before ++ cs) = find? cs := by
  induction before with
  | nil => rfl
  | cons c before ih =>
    obtain ⟨hc, hbefore⟩ := not_or.1 (List.mem_cons.not.1 h)
    have hmarker : afterMarker? (c :: (before ++ cs)) = none := by
      rw [afterMarker?]
      intro x y rest heq
      exact hc (List.cons.inj heq).1.symm
    rw [List.cons_append, find?, readAt?, hmarker]
    exact ih hbefore

/-- The template behind a marker. -/
theorem find?_marker {x y rest : List Char} (hx : IsNumeral x) (hy : IsNumeral y)
    (hrest : ∀ c ∈ rest.head?, c = ',') :
    find? ("(X,Y),".toList ++ (x ++ ',' :: (y ++ rest))) = some ⟨x, y, third? rest⟩ := by
  have hcomma : afterComma? (',' :: (y ++ rest)) = some (y ++ rest) :=
    congrArg some (hy.skipBlanks_append rest)
  have hx' : splitNumeral? (x ++ ',' :: (y ++ rest)) = some (x, ',' :: (y ++ rest)) :=
    splitNumeral?_append hx fun c hc => (Option.mem_some.1 hc).symm
  have hy' : splitNumeral? (y ++ rest) = some (y, rest) := splitNumeral?_append hy hrest
  have hread : readAt? ("(X,Y),".toList ++ (x ++ ',' :: (y ++ rest))) =
      some ⟨x, y, third? rest⟩ := by
    have hmarker (cs : List Char) : afterMarker? ("(X,Y),".toList ++ cs) = some cs := rfl
    simp only [readAt?, hmarker, hx.skipBlanks_append, hx', hcomma, hy', Option.bind_eq_bind,
      Option.bind_some]
    rfl
  exact congrArg (Option.or · _) hread

end Template

/-! ## Parameters -/

/-- A finite double is read back as a parameter. -/
theorem Parameters.readFinite?_chars_plain {x : Float} (hx : x.isFinite) :
    readFinite? (Style.plain.chars x) = some x := by
  rw [readFinite?, readFloat?_chars_plain (Double.not_isNaN_of_isFinite hx),
    Option.filter_some_pos hx]

namespace Command.WellFormed

variable {c : Command}

/-- The third parameter is finite. -/
theorem isFinite_of_third (h : c.WellFormed) : ∀ v ∈ c.third, v.isFinite := by
  intro v hv
  rcases Option.or_eq_some_iff.1 hv with hangle | ⟨-, hspeed⟩
  exacts [(h.angle v hangle).2, (h.speed v hspeed).2]

/-- Without a point there is no third parameter. -/
theorem third_eq_none (h : c.WellFormed) (hpoint : c.point = none) : c.third = none := by
  have hends := h.keyword_eq_ends hpoint
  rw [third, h.angle_eq_none (by rw [hends]; decide), h.speed_eq_none (by rw [hends]; decide)]
  rfl

/-- The parameters of a well-formed command are read back behind any keyword. -/
theorem read_parameterChars (h : c.WellFormed) {before : List Char} (hbefore : '(' ∉ before) :
    Parameters.read (before ++ c.parameterChars) = ⟨c.point, c.third⟩ := by
  cases hpoint : c.point with
  | none =>
    rw [parameterChars, hpoint, h.third_eq_none hpoint, Parameters.read,
      Template.find?_append hbefore]
    rfl
  | some q =>
    obtain ⟨hx, hy⟩ := h.finite q hpoint
    -- The marker is the first parenthesis behind the keyword and the space.
    have hspace : '(' ∉ before ++ [' '] := by
      rw [List.mem_append]
      exact not_or.2 ⟨hbefore, by decide⟩
    have hchars : before ++ c.parameterChars = before ++ [' '] ++ ("(X,Y),".toList ++
        (Style.plain.chars q.x ++ ',' :: (Style.plain.chars q.y ++
          c.third.elim [] fun v => ',' :: Style.plain.chars v))) := by
      rw [parameterChars, hpoint, List.append_assoc before]
      rfl
    have hcomma : ∀ d ∈ (c.third.elim [] fun v => ',' :: Style.plain.chars v).head?, d = ',' := by
      cases c.third with
      | none => exact fun d hd => absurd hd (Option.not_mem_none d)
      | some v => exact fun d hd => (Option.mem_some.1 hd).symm
    rw [hchars, Parameters.read, Template.find?_append hspace,
      Template.find?_marker (isNumeral_chars_plain hx) (isNumeral_chars_plain hy) hcomma]
    have hread :
        Parameters.readPoint? (Style.plain.chars q.x) (Style.plain.chars q.y) = some q := by
      rw [Parameters.readPoint?, Parameters.readFinite?_chars_plain hx,
        Parameters.readFinite?_chars_plain hy]
      rfl
    have hfinite := h.isFinite_of_third
    simp only [hread]
    cases hthird : c.third with
    | none => rfl
    | some v =>
      have hv := hfinite v hthird
      rw [Option.elim_some, (isNumeral_chars_plain hv).third?, Option.bind_some,
        Parameters.readFinite?_chars_plain hv]

end Command.WellFormed

end JetPlot
