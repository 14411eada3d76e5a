import JetPlot.Program.Reading
import JetPlot.Proofs.Decimal.Roundtrip
import JetPlot.Proofs.Svg.Pieces
import JetPlot.Proofs.Toolpath.Points

/-!
# Documents tell drawings apart

A document says everything about the drawing that it shows, but for the signs of zeros. Its
markup is read from the front: an attribute ends at the first quotation mark behind its name,
as no value has one in it (`attr_append_inj`), and the elements of the paths end where an
element begins in another way (`join_element_inj`). The drawing commands of a path are a list
of words with single spaces between them, and the first word of a command tells how many words
belong to it (`agree_of_words`).

* `eq_of_document_eq`: documents that are equal show drawings that agree.
-/

namespace JetPlot

/-! ## Drawings that agree -/

/-- Whether two operations are of one kind and have numerically equal parameters. -/
def PathOp.agrees : PathOp → PathOp → Bool
  | move p, move q => p.coincides q
  | draw (.line p), draw (.line q) => p.coincides q
  | draw (.arc a), draw (.arc b) =>
    a.radius == b.radius && a.large == b.large && a.sweep == b.sweep && a.target.coincides b.target
  | _, _ => false

/-- Whether two paths are stroked alike and consist of operations that agree. -/
structure Path.Agrees (a b : Path) : Prop where
  /-- Both are printed, or both are rapid. -/
  printing : a.printing = b.printing
  /-- The operations agree one by one. -/
  ops : List.Forall₂ (fun o p => o.agrees p) a.ops b.ops

/-- Whether the end of an operation and the radius of an arc are numbers. -/
def PathOp.Numeric : PathOp → Prop
  | move q | draw (.line q) => ¬ q.x.isNaN ∧ ¬ q.y.isNaN
  | draw (.arc a) => ¬ a.radius.isNaN ∧ ¬ a.target.x.isNaN ∧ ¬ a.target.y.isNaN

/-! ## Words -/

/-- The words of a drawing command. -/
def PathOp.words : PathOp → List String
  | move q => ["M", numberText q.x, numberText q.y]
  | draw (.line q) => ["L", numberText q.x, numberText q.y]
  | draw (.arc a) =>
    ["A", numberText a.radius, numberText a.radius, "0", flagText a.large, flagText a.sweep,
      numberText a.target.x, numberText a.target.y]

/-- There is neither a space nor a quotation mark in a word. -/
theorem PathOp.not_mem_of_mem_words {op : PathOp} {word : String} (h : word ∈ op.words) :
    ' ' ∉ word.toList ∧ '"' ∉ word.toList := by
  have hflag (b : Bool) : ' ' ∉ (flagText b).toList ∧ '"' ∉ (flagText b).toList := by
    cases b <;> decide
  obtain q | (q | a) := op <;>
    simp only [words, List.mem_cons, List.not_mem_nil, or_false] at h
  · rcases h with rfl | rfl | rfl
    exacts [by decide, not_mem_numberText _, not_mem_numberText _]
  · rcases h with rfl | rfl | rfl
    exacts [by decide, not_mem_numberText _, not_mem_numberText _]
  · rcases h with rfl | rfl | rfl | rfl | rfl | rfl | rfl | rfl
    exacts [by decide, not_mem_numberText _, not_mem_numberText _, by decide, hflag _, hflag _,
      not_mem_numberText _, not_mem_numberText _]

theorem PathOp.words_ne_nil (op : PathOp) : op.words ≠ [] := by
  obtain q | (q | a) := op <;> exact List.cons_ne_nil _ _

/-- A drawing command is its words with spaces between them. -/
theorem PathOp.data_eq (op : PathOp) : op.data = " ".intercalate op.words := by
  obtain q | (q | a) := op
  · simp [data, words, Point.coordinates, String.append_assoc]
  · simp [data, words, Stroke.data, Point.coordinates, String.append_assoc]
  · simp [data, words, Stroke.data, Point.coordinates, String.append_assoc]

theorem coincides_of_numberText_eq {p q : Point} (hp : ¬ p.x.isNaN ∧ ¬ p.y.isNaN)
    (hq : ¬ q.x.isNaN ∧ ¬ q.y.isNaN) (hx : numberText p.x = numberText q.x)
    (hy : numberText p.y = numberText q.y) : p.coincides q :=
  Bool.and_eq_true_iff.2 ⟨beq_of_numberText_eq hp.1 hq.1 hx, beq_of_numberText_eq hp.2 hq.2 hy⟩

theorem flagText_inj {a b : Bool} (h : flagText a = flagText b) : a = b := by
  revert a b
  decide

/-- The words of a drawing command tell the operation, and where they end. -/
theorem PathOp.agrees_of_words_append {o p : PathOp} (ho : o.Numeric) (hp : p.Numeric)
    {rest rest' : List String} (h : o.words ++ rest = p.words ++ rest') :
    o.agrees p ∧ rest = rest' := by
  -- The first word tells the kind, so that only operations of one kind are left to compare.
  have hML : "M" ≠ "L" := by decide
  have hMA : "M" ≠ "A" := by decide
  have hLA : "L" ≠ "A" := by decide
  obtain q | (q | a) := o <;> obtain r | (r | b) := p <;>
    simp only [words, List.cons_append, List.nil_append, List.cons.injEq, true_and, hML, hML.symm,
      hMA, hMA.symm, hLA, hLA.symm, false_and] at h
  · obtain ⟨hx, hy, hrest⟩ := h
    exact ⟨coincides_of_numberText_eq ho hp hx hy, hrest⟩
  · obtain ⟨hx, hy, hrest⟩ := h
    exact ⟨coincides_of_numberText_eq ho hp hx hy, hrest⟩
  · obtain ⟨hradius, -, hlarge, hsweep, hx, hy, hrest⟩ := h
    refine ⟨?_, hrest⟩
    simp [agrees, beq_of_numberText_eq ho.1 hp.1 hradius, flagText_inj hlarge,
      flagText_inj hsweep, coincides_of_numberText_eq ho.2 hp.2 hx hy]

/-- The words of a path tell its operations. -/
theorem PathOp.agree_of_words {os ps : List PathOp} (hos : ∀ o ∈ os, o.Numeric)
    (hps : ∀ p ∈ ps, p.Numeric) (h : os.flatMap words = ps.flatMap words) :
    List.Forall₂ (fun o p => o.agrees p) os ps := by
  induction os generalizing ps with
  | nil =>
    cases ps with
    | nil => exact .nil
    | cons p ps => exact absurd (List.append_eq_nil_iff.1 h.symm).1 p.words_ne_nil
  | cons o os ih =>
    cases ps with
    | nil => exact absurd (List.append_eq_nil_iff.1 h).1 o.words_ne_nil
    | cons p ps =>
      obtain ⟨ho, hos⟩ := List.forall_mem_cons.1 hos
      obtain ⟨hp, hps⟩ := List.forall_mem_cons.1 hps
      obtain ⟨hagrees, hrest⟩ := agrees_of_words_append ho hp h
      exact .cons hagrees (ih hos hps hrest)

/-! ## Drawing commands -/

/-- Lists of words that are written one after the other are written as one list. -/
theorem intercalate_flatMap {α : Type} (f : α → List String) (l : List α) (h : ∀ a, f a ≠ []) :
    " ".intercalate (l.map fun a => " ".intercalate (f a)) = " ".intercalate (l.flatMap f) := by
  induction l with
  | nil => rfl
  | cons a l ih =>
    cases l with
    | nil => simp
    | cons b l =>
      have hne : (b :: l).flatMap f ≠ [] := List.append_ne_nil_of_left_ne_nil (h b) _
      rw [List.flatMap_cons, String.intercalate_append_of_ne_nil (h a) hne, ← ih]
      exact String.intercalate_cons_cons

/-- A character that is in no word and is no space is not in the text of the words. -/
theorem not_mem_intercalate {c : Char} {ws : List String} (hspace : c ≠ ' ')
    (h : ∀ w ∈ ws, c ∉ w.toList) : c ∉ (" ".intercalate ws).toList := by
  induction ws with
  | nil => exact List.not_mem_nil
  | cons w ws ih =>
    obtain ⟨hw, hws⟩ := List.forall_mem_cons.1 h
    cases ws with
    | nil => rwa [String.intercalate_singleton]
    | cons v ws =>
      rw [String.intercalate_cons_cons, String.toList_append, String.toList_append,
        List.mem_append, List.mem_append]
      exact not_or.2 ⟨not_or.2 ⟨hw, mt List.mem_singleton.1 hspace⟩, ih hws⟩

/-- Words with spaces between them are told by their text. -/
theorem words_inj {ws vs : List String} (hws : ∀ w ∈ ws, ' ' ∉ w.toList)
    (hvs : ∀ v ∈ vs, ' ' ∉ v.toList) (hws' : ws ≠ []) (hvs' : vs ≠ [])
    (h : " ".intercalate ws = " ".intercalate vs) : ws = vs := by
  have hsplit {ws : List String} (hws : ∀ w ∈ ws, ' ' ∉ w.toList) (hne : ws ≠ []) :
      ((" ".intercalate ws).toList.splitOn ' ').map String.ofList = ws := by
    -- As no word has a space in it, splitting at the spaces undoes the joining.
    have hsplit : ([' '].intercalate (ws.map String.toList)).splitOn ' ' = ws.map String.toList :=
      List.splitOn_intercalate ' ' (by rwa [List.forall_mem_map]) (by simpa using hne)
    rw [String.toList_intercalate]
    change ((([' '].intercalate (ws.map String.toList))).splitOn ' ').map String.ofList = ws
    rw [hsplit, List.map_map]
    exact List.map_id'' (fun _ => String.ofList_toList) _
  rw [← hsplit hws hws', h, hsplit hvs hvs']

namespace Path

/-- The words of the drawing commands of a path. -/
def words (p : Path) : List String := p.ops.flatMap PathOp.words

theorem data_eq (p : Path) : p.data = " ".intercalate p.words := by
  rw [data, words, ← intercalate_flatMap _ _ PathOp.words_ne_nil]
  exact congrArg _ (List.map_congr_left fun o _ => o.data_eq)

theorem not_mem_of_mem_words {p : Path} {w : String} (h : w ∈ p.words) :
    ' ' ∉ w.toList ∧ '"' ∉ w.toList := by
  obtain ⟨o, -, hw⟩ := List.mem_flatMap.1 h
  exact PathOp.not_mem_of_mem_words hw

theorem words_ne_nil (p : Path) : p.words ≠ [] := List.cons_ne_nil _ _

/-- There is no quotation mark among drawing commands. -/
theorem not_mem_data (p : Path) : '"' ∉ p.data.toList := by
  rw [data_eq]
  exact not_mem_intercalate (by decide) fun _ hw => (not_mem_of_mem_words hw).2

/-- The drawing commands of a path tell its operations. -/
theorem agree_of_data_eq {p q : Path} (hp : ∀ o ∈ p.ops, o.Numeric)
    (hq : ∀ o ∈ q.ops, o.Numeric) (h : p.data = q.data) :
    List.Forall₂ (fun o p => o.agrees p) p.ops q.ops := by
  rw [data_eq, data_eq] at h
  exact PathOp.agree_of_words hp hq (words_inj (fun _ hw => (not_mem_of_mem_words hw).1)
    (fun _ hw => (not_mem_of_mem_words hw).1) p.words_ne_nil q.words_ne_nil h)

end Path

/-! ## Markup -/

/-- A text ends at the first mark behind it. -/
theorem append_cons_inj {a : Char} {cs ds rest rest' : List Char} (hcs : a ∉ cs) (hds : a ∉ ds)
    (h : cs ++ a :: rest = ds ++ a :: rest') : cs = ds ∧ rest = rest' := by
  induction cs generalizing ds with
  | nil =>
    cases ds with
    | nil => exact ⟨rfl, (List.cons.inj h).2⟩
    | cons d ds => exact absurd ((List.cons.inj h).1 ▸ List.mem_cons_self) hds
  | cons c cs ih =>
    cases ds with
    | nil => exact absurd ((List.cons.inj h).1 ▸ List.mem_cons_self) hcs
    | cons d ds =>
      obtain ⟨hcd, htail⟩ := List.cons.inj h
      obtain ⟨hcsds, hrest⟩ := ih (List.not_mem_of_not_mem_cons hcs)
        (List.not_mem_of_not_mem_cons hds) htail
      exact ⟨by rw [hcd, hcsds], hrest⟩

namespace Svg

/-- An attribute ends at the first quotation mark behind its name. -/
theorem attr_append_inj {name v w r s : String} (hv : '"' ∉ v.toList) (hw : '"' ∉ w.toList)
    (h : attr name v ++ r = attr name w ++ s) : v = w ∧ r = s := by
  rw [attr, attr] at h
  simp only [String.append_assoc, String.append_right_inj] at h
  have hchars : v.toList ++ '"' :: r.toList = w.toList ++ '"' :: s.toList := by
    have htoList := congrArg String.toList h
    rwa [String.toList_append, String.toList_append, String.toList_append,
      String.toList_append] at htoList
  obtain ⟨hvw, hrs⟩ := append_cons_inj hv hw hchars
  exact ⟨String.toList_inj.1 hvw, String.toList_inj.1 hrs⟩

theorem not_mem_color (printing : Bool) (lineThickness : Float) :
    '"' ∉ (Pen.ofPath printing lineThickness).color.toList := by
  cases printing
  · exact (by decide : '"' ∉ Pen.rapidColor.toList)
  · exact (by decide : '"' ∉ Pen.printingColor.toList)

/-- The colour of a path tells whether it is printed. -/
theorem printing_of_color_eq {a b : Bool} {x y : Float}
    (h : (Pen.ofPath a x).color = (Pen.ofPath b y).color) : a = b := by
  have hcolor : Pen.printingColor ≠ Pen.rapidColor := by decide
  cases a <;> cases b
  · rfl
  · exact absurd h.symm hcolor
  · exact absurd h hcolor
  · rfl

/-- The element of a path tells the path, and where it ends. -/
theorem element_append_inj {p q : Path} (hp : ∀ o ∈ p.ops, o.Numeric)
    (hq : ∀ o ∈ q.ops, o.Numeric) {x y : Float} {r s : String}
    (h : element x p ++ r = element y q ++ s) : p.Agrees q ∧ r = s := by
  simp only [element, String.append_assoc, String.append_right_inj] at h
  obtain ⟨hdata, h⟩ := attr_append_inj p.not_mem_data q.not_mem_data h
  obtain ⟨hcolor, h⟩ := attr_append_inj (not_mem_color _ _) (not_mem_color _ _) h
  obtain ⟨-, h⟩ := attr_append_inj (not_mem_numberText _).2 (not_mem_numberText _).2 h
  simp only [String.append_right_inj] at h
  exact ⟨⟨printing_of_color_eq hcolor, Path.agree_of_data_eq hp hq hdata⟩, h⟩

/-- The elements of the paths end where no element begins. -/
theorem join_element_inj {ps qs : List Path} (hps : ∀ p ∈ ps, ∀ o ∈ p.ops, o.Numeric)
    (hqs : ∀ q ∈ qs, ∀ o ∈ q.ops, o.Numeric) {x y : Float}
    (h : String.join (ps.map (element x)) ++ "  </g>\n</svg>\n" =
      String.join (qs.map (element y)) ++ "  </g>\n</svg>\n") :
    List.Forall₂ Path.Agrees ps qs := by
  -- The third character of an element is a space.
  have hne (x : Float) (p : Path) (r : String) :
      element x p ++ r ≠ "  </g>\n</svg>\n" := by
    intro heq
    have hthird (cs : List Char) : ("    <path".toList ++ cs)[2]? = some ' ' := rfl
    have hchars := congrArg (fun t => t.toList[2]?) heq
    simp only [element, String.append_assoc] at hchars
    rw [String.toList_append, hthird] at hchars
    exact absurd hchars (by decide)
  induction ps generalizing qs with
  | nil =>
    cases qs with
    | nil => exact .nil
    | cons q qs =>
      rw [List.map_cons, String.join_cons, String.append_assoc] at h
      exact absurd h.symm (hne y q _)
  | cons p ps ih =>
    rw [List.map_cons, String.join_cons, String.append_assoc] at h
    cases qs with
    | nil => exact absurd h (hne x p _)
    | cons q qs =>
      rw [List.map_cons, String.join_cons, String.append_assoc] at h
      obtain ⟨hp, hps⟩ := List.forall_mem_cons.1 hps
      obtain ⟨hq, hqs⟩ := List.forall_mem_cons.1 hqs
      obtain ⟨hagrees, hrest⟩ := element_append_inj hp hq h
      exact .cons hagrees (ih hps hqs hrest)

/-! ## The document -/

theorem not_mem_viewBox (v : Viewport) : '"' ∉ v.viewBox.toList := by
  refine not_mem_intercalate (by decide) ?_
  rw [List.forall_mem_map]
  exact fun x _ => (not_mem_numberText x).2

theorem not_mem_translation (x y : Float) : '"' ∉ (Viewport.translation x y).toList := by
  simp only [Viewport.translation, String.toList_append, List.mem_append, not_or]
  exact ⟨⟨⟨⟨by decide, (not_mem_numberText x).2⟩, by decide⟩, (not_mem_numberText y).2⟩, by decide⟩

theorem not_mem_transform (v : Viewport) : '"' ∉ v.transform.toList := by
  simp only [Viewport.transform, String.toList_append, List.mem_append, not_or]
  exact ⟨⟨not_mem_translation _ _, by decide⟩, not_mem_translation _ _⟩

theorem toList_toString (n : Nat) : (toString n).toList = Decimal.digitChars n := by
  rw [Nat.toString_eq_ofList_toDigits, String.toList_ofList]
  rfl

theorem not_mem_toString (n : Nat) : '"' ∉ (toString n).toList := by
  rw [toList_toString]
  exact fun hmem => absurd ((isDigits_digitChars n).2 _ hmem) (by decide)

theorem toString_inj {m n : Nat} (h : toString m = toString n) : m = n := by
  have hchars : Decimal.digitChars m = Decimal.digitChars n := by
    rw [← toList_toString, ← toList_toString, h]
  rw [← Decimal.ofDigitChars_digitChars m, hchars, Decimal.ofDigitChars_digitChars]

/-- The markup in front of the paths tells the size and the viewport. -/
theorem document_inj {t u : Toolpath} {v w : Viewport} {o o' : Options}
    (h : document t v o = document u w o') :
    o.width = o'.width ∧ o.height = o'.height ∧ v.viewBox = w.viewBox ∧
      v.transform = w.transform ∧
      String.join (t.paths.map (element o.lineThickness)) ++ "  </g>\n</svg>\n" =
        String.join (u.paths.map (element o'.lineThickness)) ++ "  </g>\n</svg>\n" := by
  simp only [document, opening, String.append_assoc, String.append_right_inj] at h
  obtain ⟨hviewBox, h⟩ := attr_append_inj (not_mem_viewBox v) (not_mem_viewBox w) h
  obtain ⟨hwidth, h⟩ := attr_append_inj (not_mem_toString _) (not_mem_toString _) h
  obtain ⟨hheight, h⟩ := attr_append_inj (not_mem_toString _) (not_mem_toString _) h
  simp only [String.append_right_inj] at h
  obtain ⟨htransform, h⟩ := attr_append_inj (not_mem_transform v) (not_mem_transform w) h
  simp only [String.append_right_inj] at h
  exact ⟨UInt32.toNat_inj.1 (toString_inj hwidth), UInt32.toNat_inj.1 (toString_inj hheight),
    hviewBox, htransform, h⟩

end Svg

/-! ## Drawings -/

/-- If all points of a program are numbers, so are the parameters of its drawing. -/
theorem Program.numeric_of_mem_ops {p : Program}
    (hpoints : ∀ q ∈ p.points, ¬ q.x.isNaN ∧ ¬ q.y.isNaN) {path : Path}
    (hpath : path ∈ (Toolpath.trace p).paths) {op : PathOp} (hop : op ∈ path.ops) :
    op.Numeric := by
  obtain ⟨i, hi⟩ := exists_candidate_of_mem_paths hpath
  obtain ⟨hstrokes, hstart⟩ := mem_points_of_candidate? hi
  rcases List.mem_cons.1 hop with rfl | hop
  -- A path begins at a point of the program, or at the origin if nothing was drawn before.
  · rcases hstart with hstart | ⟨horigin, -⟩
    · exact hpoints _ hstart
    · rw [horigin]
      exact (by decide : ¬ Point.origin.x.isNaN ∧ ¬ Point.origin.y.isNaN)
  · obtain ⟨s, hs, rfl⟩ := List.mem_map.1 hop
    obtain ⟨j, hj⟩ := hstrokes s hs
    have htarget := hpoints _ (target_mem_points hj)
    cases s with
    | line target => exact htarget
    | arc a => exact ⟨Double.not_isNaN_of_isFinite (isFinite_radius_of_strokeAt? hj), htarget⟩

/-- Two programs without a NaN among their points whose documents are equal, whatever the
    viewports and the options, have drawings that agree: the same size, box and transform, and
    paths that are stroked alike and agree in all their operations, but for the signs of
    zeros. -/
theorem eq_of_document_eq (p q : Program) (v w : Viewport) (o o' : Options)
    (hp : ∀ a ∈ p.points, ¬ a.x.isNaN ∧ ¬ a.y.isNaN)
    (hq : ∀ a ∈ q.points, ¬ a.x.isNaN ∧ ¬ a.y.isNaN)
    (h : Svg.document (Toolpath.trace p) v o = Svg.document (Toolpath.trace q) w o') :
    o.width = o'.width ∧ o.height = o'.height ∧ v.viewBox = w.viewBox ∧
      v.transform = w.transform ∧
      List.Forall₂ Path.Agrees (Toolpath.trace p).paths (Toolpath.trace q).paths := by
  obtain ⟨hwidth, hheight, hviewBox, htransform, hpaths⟩ := Svg.document_inj h
  exact ⟨hwidth, hheight, hviewBox, htransform,
    Svg.join_element_inj (fun _ hpath _ => Program.numeric_of_mem_ops hp hpath)
      (fun _ hpath _ => Program.numeric_of_mem_ops hq hpath) hpaths⟩

/-- A speed and the sign of a zero are not drawn. -/
theorem eq_of_document_eq_zero :
    let p := Program.ofText "LINE (X,Y),3,0,20"
    let q := Program.ofText "LINE (X,Y),3,-0.0"
    p ≠ q ∧ List.Forall₂ Path.Agrees (Toolpath.trace p).paths (Toolpath.trace q).paths :=
  ⟨by decide +kernel, (eq_of_document_eq _ _ ⟨Bounds.fallback⟩ ⟨Bounds.fallback⟩ .default .default
    (by decide +kernel) (by decide +kernel) (by decide +kernel)).2.2.2.2⟩

end JetPlot
