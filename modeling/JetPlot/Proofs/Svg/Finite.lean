import JetPlot.Proofs.Decimal.Numeral
import JetPlot.Proofs.Reading.Commands
import JetPlot.Proofs.Settings.Range
import JetPlot.Proofs.Svg.Pieces
import JetPlot.Proofs.Toolpath.Points
import JetPlot.Proofs.Viewport.Proper

/-!
# Documents of finite numbers

* `render_ofText_finite`: all numbers in the document of a program text are finite, and written
  as decimal numerals; neither `NaN` nor `inf` occurs anywhere in it.

The points of a text are finite, and so are the points and the radii of its paths
(`Path.isSafe_pieces`). The box is proper, so that its middle is finite. The thickness of a
rapid path is no more than that of a printed one.

That two words do not occur in a text is not kept by appending. What is kept, and implies it,
is that the text has no `N`, no `f` behind an `n`, and does not begin with an `f`
(`Wordless`).
-/

namespace JetPlot

open Double

/-! ## Words -/

/-- Whether characters, appended to others, can make up neither `NaN` nor `inf`. -/
def Wordless (cs : List Char) : Prop :=
  'N' ∉ cs ∧ cs.head? ≠ some 'f' ∧ cs.IsChain fun a b => a = 'n' → b ≠ 'f'

instance (cs : List Char) : Decidable (Wordless cs) := inferInstanceAs (Decidable (_ ∧ _ ∧ _))

theorem Wordless.append {cs ds : List Char} (h : Wordless cs) (hds : Wordless ds) :
    Wordless (cs ++ ds) := by
  obtain ⟨hN, hhead, hchain⟩ := h
  obtain ⟨hN', hhead', hchain'⟩ := hds
  refine ⟨?_, ?_, hchain.append hchain' fun a _ b hb _ hf => hhead' (hf ▸ hb)⟩
  · rw [List.mem_append]
    exact not_or.2 ⟨hN, hN'⟩
  · cases cs with
    | nil => exact hhead'
    | cons c cs => exact hhead

theorem Wordless.not_occurs {cs : List Char} (h : Wordless cs) :
    ¬ "NaN".toList <:+: cs ∧ ¬ "inf".toList <:+: cs := by
  obtain ⟨hN, -, hchain⟩ := h
  refine ⟨fun hword => hN (hword.subset (by decide)), fun hword => ?_⟩
  have hinf := List.IsChain.infix hchain hword
  exact absurd hinf (by decide)

/-- Characters without letters make up no word. -/
theorem wordless_of_forall {cs : List Char} (h : ∀ c ∈ cs, c ≠ 'N' ∧ c ≠ 'n' ∧ c ≠ 'f') :
    Wordless cs := by
  refine ⟨fun hN => (h _ hN).1 rfl, fun hf => (h _ (List.mem_of_head? hf)).2.2 rfl, ?_⟩
  exact (List.pairwise_of_forall_mem_list fun a ha _ _ hn => absurd hn (h a ha).2.1).isChain

theorem ne_of_isDigit {c : Char} (h : c.isDigit) : c ≠ 'N' ∧ c ≠ 'n' ∧ c ≠ 'f' := by
  refine ⟨?_, ?_, ?_⟩ <;> rintro rfl <;> cases h

theorem IsNumeral.wordless {cs : List Char} (h : IsNumeral cs) : Wordless cs := by
  refine wordless_of_forall fun c hc => ?_
  rcases h.mem hc with hc | rfl | rfl
  exacts [ne_of_isDigit hc, by decide, by decide]

theorem wordless_toString (n : Nat) : Wordless (toString n).toList := by
  rw [Nat.toString_eq_ofList_toDigits, String.toList_ofList]
  exact wordless_of_forall fun c hc => ne_of_isDigit ((isDigits_digitChars n).2 c hc)

/-! ## Pieces -/

/-- Whether a piece is a finite number or markup that cannot be part of a word. -/
def Piece.IsSafe : Piece → Prop
  | markup text => Wordless text.toList
  | number value => value.isFinite

instance : DecidablePred Piece.IsSafe
  | .markup text => inferInstanceAs (Decidable (Wordless text.toList))
  | .number value => inferInstanceAs (Decidable (value.isFinite = true))

theorem Piece.IsSafe.wordless {p : Piece} (h : p.IsSafe) : Wordless p.text.toList := by
  cases p with
  | markup text => exact h
  | number value => exact (isNumeral_numberText h).wordless

theorem Piece.wordless_join {ps : List Piece} (h : ∀ p ∈ ps, p.IsSafe) :
    Wordless (join ps).toList := by
  induction ps with
  | nil => decide
  | cons p ps ih =>
    rw [List.forall_mem_cons] at h
    rw [join_cons, String.toList_append]
    exact h.1.wordless.append (ih h.2)

theorem Piece.isSafe_intercalate {separator : List Piece} {pss : List (List Piece)}
    (hseparator : ∀ p ∈ separator, p.IsSafe) (h : ∀ ps ∈ pss, ∀ p ∈ ps, p.IsSafe) :
    ∀ p ∈ separator.intercalate pss, p.IsSafe := by
  induction pss with
  | nil => exact fun _ hp => absurd hp List.not_mem_nil
  | cons ps pss ih =>
    rw [List.forall_mem_cons] at h
    cases pss with
    | nil => rw [List.intercalate_singleton]; exact h.1
    | cons qs pss =>
      rw [List.intercalate_cons_cons]
      simp only [List.forall_mem_append]
      exact ⟨⟨h.1, hseparator⟩, ih h.2⟩

theorem Point.isSafe_pieces {q : Point} (h : q.isFinite) : ∀ p ∈ q.pieces, p.IsSafe := by
  obtain ⟨hx, hy⟩ := Bool.and_eq_true_iff.1 h
  rw [Point.pieces, List.forall_mem_cons, List.forall_mem_cons, List.forall_mem_singleton]
  exact ⟨hx, by decide, hy⟩

/-- A stroke that is drawn to a finite point is safe: an arc has a finite radius. -/
theorem Stroke.isSafe_pieces {s : Stroke} (htarget : s.target.isFinite)
    (hradius : ∀ a, s = .arc a → a.radius.isFinite) : ∀ p ∈ s.pieces, p.IsSafe := by
  cases s with
  | line target =>
    rw [Stroke.pieces, List.forall_mem_cons]
    exact ⟨by decide, Point.isSafe_pieces htarget⟩
  | arc a =>
    have hflag (b : Bool) : ∀ p ∈ [Piece.markup (flagText b)], p.IsSafe := by cases b <;> decide
    have hnumber : ∀ p ∈ [Piece.number a.radius], p.IsSafe :=
      List.forall_mem_singleton.2 (hradius a rfl)
    rw [Stroke.pieces, List.forall_mem_cons]
    refine ⟨by decide, Piece.isSafe_intercalate (by decide) ?_⟩
    intro ps hps
    simp only [List.mem_cons, List.not_mem_nil, or_false] at hps
    rcases hps with rfl | rfl | rfl | rfl | rfl | rfl
    exacts [hnumber, hnumber, by decide, hflag _, hflag _, Point.isSafe_pieces htarget]

/-- The pieces of a path are safe if the program has finite points only. -/
theorem Path.isSafe_pieces {p : Program} (hpoints : ∀ q ∈ p.points, q.isFinite) {path : Path}
    (hpath : path ∈ (Toolpath.trace p).paths) : ∀ q ∈ path.pieces, q.IsSafe := by
  obtain ⟨i, hi⟩ := Program.exists_candidate_of_mem_paths hpath
  obtain ⟨hstrokes, hstart⟩ := Program.mem_points_of_candidate? hi
  -- A path may start at the origin without the program mentioning that point.
  have hstart' : path.start.isFinite := by
    rcases hstart with hstart | ⟨horigin, -⟩
    · exact hpoints _ hstart
    · rw [horigin]
      rfl
  rw [Path.pieces]
  refine Piece.isSafe_intercalate (by decide) ?_
  rw [List.forall_mem_map, Path.ops, List.forall_mem_cons, List.forall_mem_map]
  refine ⟨?_, fun s hs => ?_⟩
  · rw [PathOp.pieces, List.forall_mem_cons]
    exact ⟨by decide, Point.isSafe_pieces hstart'⟩
  · obtain ⟨j, hj⟩ := hstrokes s hs
    refine Stroke.isSafe_pieces (hpoints _ (Program.target_mem_points hj)) ?_
    rintro a rfl
    exact Program.isFinite_radius_of_strokeAt? hj

/-! ## Elements -/

namespace Svg

theorem wordless_attr {name value : String} (hname : Wordless (" " ++ name ++ "=\"").toList)
    (hvalue : Wordless value.toList) : Wordless (attr name value).toList := by
  rw [attr, String.toList_append, String.toList_append]
  exact (hname.append hvalue).append (by decide)

theorem isSafe_attrPieces {name : String} {value : List Piece}
    (hname : Wordless (" " ++ name ++ "=\"").toList) (hvalue : ∀ p ∈ value, p.IsSafe) :
    ∀ p ∈ attrPieces name value, p.IsSafe := by
  rw [attrPieces, List.forall_mem_append, List.forall_mem_cons]
  exact ⟨⟨hname, hvalue⟩, by decide⟩

theorem isSafe_viewBoxPieces {v : Viewport} (h : v.bounds.Proper) :
    ∀ p ∈ viewBoxPieces v, p.IsSafe := by
  obtain ⟨⟨hminX, -⟩, hminY, -⟩ := h.isFinite_edges
  refine Piece.isSafe_intercalate (by decide) ?_
  rw [List.forall_mem_map]
  refine fun x hx => List.forall_mem_singleton.2 (?_ : x.isFinite)
  simp only [List.mem_cons, List.not_mem_nil, or_false] at hx
  rcases hx with rfl | rfl | rfl | rfl
  exacts [hminX, hminY, h.width, h.height]

theorem isSafe_translationPieces {x y : Float} (hx : x.isFinite) (hy : y.isFinite) :
    ∀ p ∈ translationPieces x y, p.IsSafe := by
  rw [translationPieces, List.forall_mem_cons, List.forall_mem_cons, List.forall_mem_cons,
    List.forall_mem_cons]
  exact ⟨by decide, hx, by decide, hy, by decide⟩

theorem isSafe_transformPieces {v : Viewport} (h : v.bounds.Proper) :
    ∀ p ∈ transformPieces v, p.IsSafe := by
  obtain ⟨hx, hy⟩ := Bool.and_eq_true_iff.1 h.isFinite_center
  rw [transformPieces, List.forall_mem_append, List.forall_mem_cons]
  exact ⟨isSafe_translationPieces hx hy, by decide,
    isSafe_translationPieces (isFinite_neg hx) (isFinite_neg hy)⟩

theorem isSafe_openingPieces {v : Viewport} (h : v.bounds.Proper) (o : Options) :
    ∀ p ∈ openingPieces v o, p.IsSafe := by
  have hsize : Wordless (attr "width" (toString o.width.toNat) ++
      attr "height" (toString o.height.toNat) ++ attr "xmlns" nameSpace ++ ">\n").toList := by
    rw [String.toList_append, String.toList_append, String.toList_append]
    exact (((wordless_attr (by decide) (wordless_toString _)).append
      (wordless_attr (by decide) (wordless_toString _))).append (by decide)).append (by decide)
  rw [openingPieces, List.forall_mem_append, List.forall_mem_cons, List.forall_mem_singleton]
  exact ⟨⟨by decide, isSafe_attrPieces (by decide) (isSafe_viewBoxPieces h)⟩, hsize⟩

/-- The thickness of a rapid path is between zero and the thickness of a printed one. -/
theorem isFinite_width_ofPath {lineThickness : Float} (hfinite : lineThickness.isFinite)
    (hpositive : 0 ≤ lineThickness) (printing : Bool) :
    (Pen.ofPath printing lineThickness).width.isFinite := by
  cases printing with
  | true => exact hfinite
  | false =>
    have hratio : Pen.rapidRatio.isFinite := by decide
    have hlow : 0 ≤ value Pen.rapidRatio := value_nonneg hratio (by decide)
    have hhigh : value Pen.rapidRatio ≤ 1 := value_one ▸ (le_iff hratio rfl).1 (by decide)
    have hthickness := value_nonneg hfinite hpositive
    have hproduct := rounds_mul hfinite hratio
    -- Zero and the thickness are doubles, so rounding does not take the product past them.
    refine isFinite_of_le_of_le rfl hfinite (hproduct.ge 0 rfl ?_) (hproduct.le _ hfinite ?_)
    · exact value_zero ▸ mul_nonneg hthickness hlow
    · exact mul_le_of_le_one_right hthickness hhigh

theorem isSafe_elementPieces {lineThickness : Float} (hfinite : lineThickness.isFinite)
    (hpositive : 0 ≤ lineThickness) {path : Path} (hpath : ∀ p ∈ path.pieces, p.IsSafe) :
    ∀ p ∈ elementPieces lineThickness path, p.IsSafe := by
  have hcolor : Wordless (Pen.ofPath path.printing lineThickness).color.toList := by
    rw [Pen.ofPath]
    cases path.printing
    · exact (by decide : Wordless Pen.rapidColor.toList)
    · exact (by decide : Wordless Pen.printingColor.toList)
  have hwidth := isFinite_width_ofPath hfinite hpositive path.printing
  have hclosing : Wordless (attr "fill" "none" ++ attr "stroke-linecap" "round" ++
      attr "stroke-linejoin" "round" ++ " />\n").toList := by
    rw [String.toList_append, String.toList_append, String.toList_append]
    exact (((wordless_attr (by decide) (by decide)).append
      (wordless_attr (by decide) (by decide))).append
      (wordless_attr (by decide) (by decide))).append (by decide)
  simp only [elementPieces, List.forall_mem_append, List.forall_mem_cons]
  exact ⟨⟨⟨by decide, isSafe_attrPieces (by decide) hpath⟩, wordless_attr (by decide) hcolor,
    isSafe_attrPieces (by decide) (List.forall_mem_singleton.2 hwidth)⟩,
    hclosing, fun _ hp => absurd hp List.not_mem_nil⟩

theorem isSafe_documentPieces {t : Toolpath} {v : Viewport} {o : Options} (hv : v.bounds.Proper)
    (hfinite : o.lineThickness.isFinite) (hpositive : 0 ≤ o.lineThickness)
    (hpaths : ∀ path ∈ t.paths, ∀ p ∈ path.pieces, p.IsSafe) :
    ∀ p ∈ documentPieces t v o, p.IsSafe := by
  simp only [documentPieces, List.forall_mem_append, List.forall_mem_cons, List.forall_mem_flatMap]
  exact ⟨⟨⟨isSafe_openingPieces hv o, by decide,
    isSafe_attrPieces (by decide) (isSafe_transformPieces hv)⟩, by decide,
    fun path hpath => isSafe_elementPieces hfinite hpositive (hpaths path hpath)⟩, by decide⟩

end Svg

/-- All numbers in the document of a program text are finite, and are written as decimal
    numerals. Neither `NaN` nor `inf` occurs in the document. -/
theorem render_ofText_finite (text : String) {o : Options} (h : o.check = .ok ()) :
    Svg.render (Program.ofText text) o = Piece.join (Svg.pieces (Program.ofText text) o) ∧
      (∀ x, Piece.number x ∈ Svg.pieces (Program.ofText text) o →
        x.isFinite ∧ IsNumeral (numberText x).toList) ∧
      ¬ "NaN".toList <:+: (Svg.render (Program.ofText text) o).toList ∧
      ¬ "inf".toList <:+: (Svg.render (Program.ofText text) o).toList := by
  obtain ⟨⟨hthickness, hpositive⟩, hpadding, hnonneg⟩ := Options.nonneg_of_check h
  have hsafe : ∀ p ∈ Svg.pieces (Program.ofText text) o, p.IsSafe :=
    Svg.isSafe_documentPieces (proper_fit _ hpadding hnonneg) hthickness hpositive
      fun _ hpath => Path.isSafe_pieces (fun _ => Program.isFinite_of_mem_points_ofText) hpath
  refine ⟨(Svg.join_pieces _ o).symm,
    fun x hx => ⟨hsafe _ hx, isNumeral_numberText (hsafe _ hx)⟩, ?_⟩
  rw [← Svg.join_pieces]
  exact (Piece.wordless_join hsafe).not_occurs

/-- Not even the greatest thickness and padding lead to an infinity in the document of a
    stroke to `(3, 4)`. -/
theorem render_ofText_finite_greatest :
    let o : Options := ⟨800, 600, 1.7976931348623157e308, 1.7976931348623157e308⟩
    ¬ "NaN".toList <:+: (Svg.render (Program.ofText "LINE (X,Y),3,4") o).toList ∧
      ¬ "inf".toList <:+: (Svg.render (Program.ofText "LINE (X,Y),3,4") o).toList :=
  (render_ofText_finite "LINE (X,Y),3,4" (by decide +kernel)).2.2

end JetPlot
