import JetPlot.Report
import JetPlot.Proofs.Svg.Decoding
import JetPlot.Proofs.Toolpath.Accounts

/-!
# The markup of documents

A document is read as a list of tags (`Markup.tags`): behind every `<` that is followed by a name,
the name and the attributes behind it. Names and values hold no quotation mark and no `<`
(`Markup.IsValue`), so that what is read is what is written.

* `tags_text`: a tag is read back;
* `tags_document`: the tags of a document are those of the picture, the group and the paths;
* `report_describes`: what a report says about a picture is what its document shows.
-/

namespace JetPlot

/-- A tag that opens an element. -/
structure Tag where
  /-- The name of the element. -/
  name : String
  /-- The attributes in order, with their values. -/
  attributes : List (String × String)
  deriving DecidableEq

/-- The value of an attribute. -/
def Tag.value? (t : Tag) (name : String) : Option String := t.attributes.lookup name

/-- The text of some attributes. -/
def Tag.attributesText (as : List (String × String)) : String :=
  String.join (as.map fun a => Svg.attr a.1 a.2)

/-- The text of a tag up to its end. -/
def Tag.text (t : Tag) : String := "<" ++ t.name ++ attributesText t.attributes

namespace Markup

/-! ## Reading -/

/-- A character of a name. -/
def isNameChar (c : Char) : Bool := c.isAlphanum || c = '-'

/-- Reads an attribute: a space, a name and a value in quotation marks. -/
def readAttribute? : List Char → Option ((String × String) × List Char)
  | ' ' :: cs =>
    match cs.span isNameChar with
    | (name, '=' :: '"' :: cs) =>
      match cs.span (· ≠ '"') with
      | (value, '"' :: rest) => some ((String.ofList name, String.ofList value), rest)
      | _ => none
    | _ => none
  | _ => none

theorem length_lt_of_readAttribute? {cs rest : List Char} {a : String × String}
    (h : readAttribute? cs = some (a, rest)) : rest.length < cs.length := by
  rw [readAttribute?.eq_def] at h
  split at h
  · next cs =>
    split at h
    · next tail hname =>
      split at h
      · next value rest hvalue =>
        obtain ⟨-, rfl⟩ := Prod.mk.inj (Option.some.inj h)
        rw [List.span_eq_takeWhile_dropWhile] at hname hvalue
        -- What is left is behind the quotation mark, which is behind the equals sign.
        have htail := congrArg List.length (Prod.mk.inj hname).2
        have hrest := congrArg List.length (Prod.mk.inj hvalue).2
        have hle := (List.dropWhile_sublist (l := cs) isNameChar).length_le
        have hle' := (List.dropWhile_sublist (l := tail) (· ≠ '"')).length_le
        rw [List.length_cons, List.length_cons] at htail
        rw [List.length_cons] at hrest ⊢
        omega
      · cases h
    · cases h
  · cases h

/-- Reads attributes as long as there are any. -/
def readAttributes (cs : List Char) : List (String × String) :=
  match _h : readAttribute? cs with
  | none => []
  | some (a, rest) => a :: readAttributes rest
termination_by cs.length
decreasing_by exact length_lt_of_readAttribute? _h

/-- Reads the name and the attributes of a tag. -/
def readTag? (cs : List Char) : Option Tag :=
  match cs.span isNameChar with
  | ([], _) => none
  | (name, rest) => some ⟨String.ofList name, readAttributes rest⟩

/-- The tags of a document. -/
def tags : List Char → List Tag
  | [] => []
  | c :: cs => (if c = '<' then (readTag? cs).toList else []) ++ tags cs

/-! ## Texts of tags -/

/-- A character of a value. -/
def isValueChar (c : Char) : Bool := c.isAlphanum || " -.,()#:/".toList.contains c

/-- Whether a text may be a value: it has no quotation mark and no `<`. -/
def IsValue (s : String) : Prop := ∀ c ∈ s.toList, isValueChar c

/-- Whether a text may be a name. -/
def IsName (s : String) : Prop := s.toList ≠ [] ∧ ∀ c ∈ s.toList, isNameChar c

/-- Whether the name of a tag and its attributes may be names and values. -/
structure WellFormed (t : Tag) : Prop where
  /-- The tag has a name. -/
  name : IsName t.name
  /-- So have its attributes. -/
  attributes : ∀ a ∈ t.attributes, IsName a.1 ∧ IsValue a.2

section text

variable {cs rest : List Char} {name value : String} {t : Tag}

theorem readAttribute?_attr (hname : IsName name) (hvalue : IsValue value) (rest : List Char) :
    readAttribute? ((Svg.attr name value).toList ++ rest) = some ((name, value), rest) := by
  have hchars : (Svg.attr name value).toList ++ rest =
      ' ' :: (name.toList ++ '=' :: '"' :: (value.toList ++ '"' :: rest)) := by
    simp [Svg.attr]
  have hspan : (name.toList ++ '=' :: '"' :: (value.toList ++ '"' :: rest)).span isNameChar =
      (name.toList, '=' :: '"' :: (value.toList ++ '"' :: rest)) :=
    span_append_eq hname.2 fun c hc => by
      obtain rfl := Option.some.inj hc
      decide
  have hspan' : (value.toList ++ '"' :: rest).span (· ≠ '"') = (value.toList, '"' :: rest) := by
    refine span_append_eq (fun c hc => decide_eq_true ?_) fun c hc => ?_
    · rintro rfl
      exact absurd (hvalue _ hc) (by decide)
    · obtain rfl := Option.some.inj hc
      decide
  rw [hchars, readAttribute?]
  simp only [hspan, hspan', String.ofList_toList]

theorem readAttributes_of_some {a : String × String} (h : readAttribute? cs = some (a, rest)) :
    readAttributes cs = a :: readAttributes rest := by
  rw [readAttributes]
  split
  · next hnone => rw [h] at hnone; cases hnone
  · next hsome =>
    rw [h] at hsome
    obtain ⟨rfl, rfl⟩ := Prod.mk.inj (Option.some.inj hsome)
    rfl

theorem readAttributes_of_none (h : readAttribute? cs = none) : readAttributes cs = [] := by
  rw [readAttributes]
  split
  · rfl
  · next hsome => rw [h] at hsome; cases hsome

/-- Attributes are read back in front of what is no attribute. -/
theorem readAttributes_append {as : List (String × String)}
    (h : ∀ a ∈ as, IsName a.1 ∧ IsValue a.2) (hrest : readAttribute? rest = none) :
    readAttributes ((Tag.attributesText as).toList ++ rest) = as := by
  induction as with
  | nil => exact readAttributes_of_none hrest
  | cons a as ih =>
    obtain ⟨⟨hname, hvalue⟩, has⟩ := List.forall_mem_cons.1 h
    rw [Tag.attributesText, List.map_cons, String.join_cons, String.toList_append,
      List.append_assoc, readAttributes_of_some (readAttribute?_attr hname hvalue _)]
    exact congrArg _ (ih has)

theorem tags_append (h : '<' ∉ cs) (rest : List Char) : tags (cs ++ rest) = tags rest := by
  induction cs with
  | nil => rfl
  | cons c cs ih =>
    obtain ⟨hc, hcs⟩ := not_or.1 (List.mem_cons.not.1 h)
    rw [List.cons_append, tags, if_neg (Ne.symm hc), List.nil_append]
    exact ih hcs

theorem IsName.not_mem (h : IsName name) : '<' ∉ name.toList := fun hmem =>
  absurd (h.2 _ hmem) (by decide)

theorem IsValue.not_mem (h : IsValue value) : '<' ∉ value.toList := fun hmem =>
  absurd (h _ hmem) (by decide)

/-- Attributes open no tag. -/
theorem not_mem_attributesText {as : List (String × String)}
    (h : ∀ a ∈ as, IsName a.1 ∧ IsValue a.2) : '<' ∉ (Tag.attributesText as).toList := by
  induction as with
  | nil => exact List.not_mem_nil
  | cons a as ih =>
    obtain ⟨⟨hname, hvalue⟩, has⟩ := List.forall_mem_cons.1 h
    rw [Tag.attributesText, List.map_cons, String.join_cons, Svg.attr]
    simp only [String.toList_append, List.mem_append, not_or]
    exact ⟨⟨⟨⟨⟨by decide, hname.not_mem⟩, by decide⟩, hvalue.not_mem⟩, by decide⟩, ih has⟩

/-- What follows a name in a tag belongs to no name. -/
theorem head?_attributesText {as : List (String × String)}
    (hhead : ∀ c ∈ rest.head?, isNameChar c = false) :
    ∀ c ∈ ((Tag.attributesText as).toList ++ rest).head?, isNameChar c = false := by
  cases as with
  | nil => exact hhead
  | cons a as =>
    intro c hc
    rw [Tag.attributesText, List.map_cons, String.join_cons, Svg.attr, String.toList_append,
      String.toList_append, String.toList_append, String.toList_append, String.toList_append] at hc
    obtain rfl := Option.some.inj hc
    decide

/-- A tag is read back in front of its end. -/
theorem tags_text (h : WellFormed t) (hend : readAttribute? rest = none)
    (hhead : ∀ c ∈ rest.head?, isNameChar c = false) :
    tags (t.text.toList ++ rest) = t :: tags rest := by
  have hchars : t.text.toList ++ rest =
      '<' :: (t.name.toList ++ (Tag.attributesText t.attributes).toList ++ rest) := by
    simp [Tag.text]
  have hspan :
      (t.name.toList ++ ((Tag.attributesText t.attributes).toList ++ rest)).span isNameChar =
      (t.name.toList, (Tag.attributesText t.attributes).toList ++ rest) :=
    span_append_eq h.name.2 (head?_attributesText hhead)
  have hread : readTag? (t.name.toList ++ ((Tag.attributesText t.attributes).toList ++ rest)) =
      some t := by
    rw [readTag?, hspan]
    split
    · next hnil => exact absurd (Prod.mk.inj hnil).1 h.name.1
    · next heq =>
      obtain ⟨rfl, rfl⟩ := Prod.mk.inj heq
      rw [readAttributes_append h.attributes hend, String.ofList_toList]
  -- Neither the name nor the attributes open another tag.
  have hrest : '<' ∉ t.name.toList ++ (Tag.attributesText t.attributes).toList := by
    rw [List.mem_append]
    exact not_or.2 ⟨h.name.not_mem, not_mem_attributesText h.attributes⟩
  rw [hchars, tags, if_pos rfl, tags_append hrest, List.append_assoc, hread]
  rfl

end text

/-! ## Values -/

theorem isValue_of_all {s : String} (h : s.toList.all isValueChar) : IsValue s :=
  List.all_eq_true.1 h

theorem IsValue.append {s t : String} (hs : IsValue s) (ht : IsValue t) : IsValue (s ++ t) := by
  intro c hc
  rw [String.toList_append, List.mem_append] at hc
  rcases hc with hc | hc
  exacts [hs c hc, ht c hc]

theorem isValue_intercalate {ws : List String} (h : ∀ w ∈ ws, IsValue w) :
    IsValue (" ".intercalate ws) := by
  intro c hc
  by_contra hvalue
  refine not_mem_intercalate (fun hspace => hvalue ?_) (fun w hw hmem => hvalue (h w hw c hmem)) hc
  rw [hspace]
  decide

theorem isValue_numberText (x : Float) : IsValue (numberText x) := by
  intro c hc
  rcases mem_numberText hc with halphanum | rfl | rfl
  · exact Bool.or_eq_true_iff.2 (.inl halphanum)
  · decide
  · decide

theorem isValue_of_mem_words {op : PathOp} {w : String} (h : w ∈ op.words) : IsValue w := by
  have hconst : ∀ w ∈ ["M", "L", "A", "0", "1"], IsValue w := fun w hw =>
    isValue_of_all ((by decide : ∀ w ∈ ["M", "L", "A", "0", "1"], w.toList.all isValueChar) w hw)
  have hflag (b : Bool) : IsValue (flagText b) := by
    cases b <;> exact hconst _ (by decide)
  obtain q | (q | a) := op <;>
    simp only [PathOp.words, List.mem_cons, List.not_mem_nil, or_false] at h
  · rcases h with rfl | rfl | rfl
    exacts [hconst _ (by decide), isValue_numberText _, isValue_numberText _]
  · rcases h with rfl | rfl | rfl
    exacts [hconst _ (by decide), isValue_numberText _, isValue_numberText _]
  · rcases h with rfl | rfl | rfl | rfl | rfl | rfl | rfl | rfl
    exacts [hconst _ (by decide), isValue_numberText _, isValue_numberText _, hconst _ (by decide),
      hflag _, hflag _, isValue_numberText _, isValue_numberText _]

theorem isValue_data (p : Path) : IsValue p.data := by
  rw [p.data_eq]
  refine isValue_intercalate fun w hw => ?_
  obtain ⟨op, -, hw⟩ := List.mem_flatMap.1 hw
  exact isValue_of_mem_words hw

theorem isValue_viewBox (v : Viewport) : IsValue v.viewBox :=
  isValue_intercalate (List.forall_mem_map.2 fun x _ => isValue_numberText x)

theorem isValue_transform (v : Viewport) : IsValue v.transform := by
  have htranslation (x y : Float) : IsValue (Viewport.translation x y) :=
    (((isValue_of_all (by decide)).append (isValue_numberText x)).append
      (isValue_of_all (by decide))).append (isValue_numberText y) |>.append
        (isValue_of_all (by decide))
  exact ((htranslation _ _).append (isValue_of_all (by decide))).append (htranslation _ _)

theorem isValue_toString (n : Nat) : IsValue (toString n) := by
  intro c hc
  rw [Svg.toList_toString] at hc
  have hdigit := (isDigits_digitChars n).2 c hc
  rw [isValueChar, Char.isAlphanum, hdigit, Bool.or_true, Bool.true_or]

theorem isValue_color (printing : Bool) (lineThickness : Float) :
    IsValue (Pen.ofPath printing lineThickness).color := by
  cases printing
  · exact isValue_of_all (by decide : Pen.rapidColor.toList.all isValueChar)
  · exact isValue_of_all (by decide : Pen.printingColor.toList.all isValueChar)

/-! ## The tags of a document -/

/-- The names of elements and attributes. -/
def names : List String :=
  ["svg", "viewBox", "width", "height", "xmlns", "g", "transform", "path", "d", "stroke",
    "stroke-width", "fill", "stroke-linecap", "stroke-linejoin"]

theorem isName_of_mem {name : String} (h : name ∈ names) : IsName name := by
  have hall : ∀ name ∈ names, name.toList ≠ [] ∧ name.toList.all isNameChar := by decide
  exact ⟨(hall name h).1, List.all_eq_true.1 (hall name h).2⟩

section document

open Svg

variable (t : Toolpath) (v : Viewport) (o : Options)

/-- The tag of the picture. -/
def pictureTag : Tag :=
  ⟨"svg", [("viewBox", v.viewBox), ("width", toString o.width.toNat),
    ("height", toString o.height.toNat), ("xmlns", nameSpace)]⟩

/-- The tag of the group that mirrors the paths. -/
def groupTag : Tag := ⟨"g", [("transform", v.transform)]⟩

/-- The tag of a path. -/
def pathTag (p : Path) : Tag :=
  let pen := Pen.ofPath p.printing o.lineThickness
  ⟨"path", [("d", p.data), ("stroke", pen.color), ("stroke-width", numberText pen.width),
    ("fill", "none"), ("stroke-linecap", "round"), ("stroke-linejoin", "round")]⟩

theorem wellFormed_pictureTag : WellFormed (pictureTag v o) where
  name := isName_of_mem (by decide : "svg" ∈ names)
  attributes := by
    simp only [pictureTag, List.forall_mem_cons]
    exact ⟨⟨isName_of_mem (by decide), isValue_viewBox v⟩,
      ⟨isName_of_mem (by decide), isValue_toString _⟩,
      ⟨isName_of_mem (by decide), isValue_toString _⟩,
      ⟨isName_of_mem (by decide), isValue_of_all (by decide)⟩,
      fun _ ha => absurd ha List.not_mem_nil⟩

theorem wellFormed_groupTag : WellFormed (groupTag v) where
  name := isName_of_mem (by decide : "g" ∈ names)
  attributes := List.forall_mem_singleton.2
    ⟨isName_of_mem (by decide : "transform" ∈ names), isValue_transform v⟩

theorem wellFormed_pathTag (p : Path) : WellFormed (pathTag o p) where
  name := isName_of_mem (by decide : "path" ∈ names)
  attributes := by
    simp only [pathTag, List.forall_mem_cons]
    exact ⟨⟨isName_of_mem (by decide), isValue_data p⟩,
      ⟨isName_of_mem (by decide), isValue_color _ _⟩,
      ⟨isName_of_mem (by decide), isValue_numberText _⟩,
      ⟨isName_of_mem (by decide), isValue_of_all (by decide)⟩,
      ⟨isName_of_mem (by decide), isValue_of_all (by decide)⟩,
      ⟨isName_of_mem (by decide), isValue_of_all (by decide)⟩,
      fun _ ha => absurd ha List.not_mem_nil⟩

theorem opening_eq : opening v o = (pictureTag v o).text ++ ">\n" := by
  simp [opening, Tag.text, pictureTag, Tag.attributesText, String.join_cons, String.append_assoc]

theorem element_eq (p : Path) :
    element o.lineThickness p = "    " ++ ((pathTag o p).text ++ " />\n") := by
  simp [element, Tag.text, pathTag, Tag.attributesText, String.join_cons, String.append_assoc,
    String.ext_iff]

theorem group_eq : "  <g" ++ attr "transform" v.transform = "  " ++ (groupTag v).text := by
  simp [Tag.text, groupTag, Tag.attributesText, String.join_cons, String.ext_iff]

variable {t v o}

/-- A tag of the document is read back in front of its end. -/
theorem tags_text_append {tag : Tag} (h : WellFormed tag) {ending : String}
    (hending : ending = ">\n" ∨ ending = " />\n") (rest : List Char) :
    tags (tag.text.toList ++ (ending.toList ++ rest)) = tag :: tags rest := by
  rcases hending with rfl | rfl
  · rw [tags_text h (by rfl) fun c hc => by obtain rfl := Option.some.inj hc; decide,
      tags_append (by decide)]
  · rw [tags_text h (by rfl) fun c hc => by obtain rfl := Option.some.inj hc; decide,
      tags_append (by decide)]

theorem tags_elements (paths : List Path) (rest : List Char) :
    tags ((String.join (paths.map (element o.lineThickness))).toList ++ rest) =
      paths.map (pathTag o) ++ tags rest := by
  induction paths with
  | nil => rfl
  | cons p paths ih =>
    rw [List.map_cons, String.join_cons, element_eq]
    simp only [String.toList_append, List.append_assoc]
    rw [tags_append (by decide), tags_text_append (wellFormed_pathTag o p) (.inr rfl), ih]
    rfl

/-- The tags of a document are those of the picture, of the group and of the paths in order. -/
theorem tags_document : tags (document t v o).toList =
    pictureTag v o :: groupTag v :: t.paths.map (pathTag o) := by
  have hdocument : document t v o = (pictureTag v o).text ++ (">\n" ++ ("  " ++
      ((groupTag v).text ++ (">\n" ++
        (String.join (t.paths.map (element o.lineThickness)) ++ "  </g>\n</svg>\n"))))) := by
    simp only [document, opening_eq, String.append_assoc]
    rw [← @String.append_assoc "  <g", group_eq]
    simp only [String.append_assoc]
  rw [hdocument]
  simp only [String.toList_append]
  rw [tags_text_append (wellFormed_pictureTag v o) (.inl rfl), tags_append (by decide),
    tags_text_append (wellFormed_groupTag v) (.inl rfl), tags_elements]
  -- The tags behind the paths open no element.
  have hend : tags "  </g>\n</svg>\n".toList = [] := by decide
  rw [hend, List.append_nil]

end document

end Markup

/-! ## Reports -/

/-- The path elements of a document. -/
def Markup.pathElements (svg : String) : List Tag := (tags svg.toList).filter (·.name = "path")

/-- The elements of a document that stand for whole pictures. -/
def Markup.pictureElements (svg : String) : List Tag := (tags svg.toList).filter (·.name = "svg")

open Markup

section document

variable (t : Toolpath) (v : Viewport) (o : Options)

theorem pathElements_document :
    pathElements (Svg.document t v o) = t.paths.map (pathTag o) := by
  have hall : ∀ tag ∈ t.paths.map (pathTag o), decide (tag.name = "path") := by
    rw [List.forall_mem_map]
    exact fun path _ => decide_eq_true rfl
  rw [pathElements, tags_document]
  exact List.filter_eq_self.2 hall

theorem pictureElements_document :
    pictureElements (Svg.document t v o) = [pictureTag v o] := by
  have hnone : ∀ tag ∈ t.paths.map (pathTag o), ¬ decide (tag.name = "svg") := by
    rw [List.forall_mem_map]
    exact fun path _ => (by decide : ¬ decide ("path" = "svg"))
  rw [pictureElements, tags_document]
  exact congrArg _ (List.filter_eq_nil_iff.2 hnone)

theorem value?_stroke_pathTag (p : Path) : (pathTag o p).value? "stroke" =
    some (if p.printing then Pen.printingColor else Pen.rapidColor) := by
  obtain ⟨start, strokes, printing⟩ := p
  cases printing <;> rfl

/-- The colour of an element tells whether its path is printed. -/
theorem value?_stroke_pathTag_iff (p : Path) :
    ((pathTag o p).value? "stroke" = some Pen.printingColor ↔ p.printing) ∧
      ((pathTag o p).value? "stroke" = some Pen.rapidColor ↔ !p.printing) := by
  rw [value?_stroke_pathTag]
  cases p.printing <;> decide

variable (p : Program)

/-- The printed paths are counted, and so are the rapid ones. -/
theorem countP_pathElements :
    ((pathElements (Svg.document (Toolpath.trace p) v o)).countP fun tag =>
      tag.value? "stroke" = some Pen.printingColor) = (Toolpath.trace p).stats.printing ∧
    ((pathElements (Svg.document (Toolpath.trace p) v o)).countP fun tag =>
      tag.value? "stroke" = some Pen.rapidColor) = (Toolpath.trace p).stats.rapid := by
  have hsound := Outcome.sound_ofProgram p
  rw [pathElements_document, List.countP_map, List.countP_map]
  constructor
  · refine (List.countP_congr fun path _ => ?_).trans hsound.printing.symm
    exact decide_eq_true_iff.trans (value?_stroke_pathTag_iff o path).1
  · refine (List.countP_congr fun path _ => ?_).trans hsound.rapid.symm
    exact decide_eq_true_iff.trans (value?_stroke_pathTag_iff o path).2

/-- Every path is counted once. -/
theorem length_paths_trace : (Toolpath.trace p).paths.length =
    (Toolpath.trace p).stats.printing + (Toolpath.trace p).stats.rapid := by
  have hsound := Outcome.sound_ofProgram p
  have hnot : (fun path : Path => decide ¬ path.printing) = fun path => !path.printing :=
    funext fun path => by cases path.printing <;> rfl
  change _ = (Outcome.ofProgram p).stats.printing + (Outcome.ofProgram p).stats.rapid
  rw [hsound.printing, hsound.rapid, ← hnot]
  exact List.length_eq_countP_add_countP _

end document

/-- A report describes the document it comes with. The document is that of the program that was read
    and says what the report says: it has one path element for each traced path, in order, printed
    and rapid paths are as many as the report counts, and it shows the box that the report names. -/
theorem report_describes (text : String) (o : Options) :
    let r := Rendered.ofText text o
    let p := Program.ofText text
    r.svg = Svg.render p o ∧
    ((pathElements r.svg).map fun tag => (tag.value? "d", tag.value? "stroke")) =
      ((Toolpath.trace p).paths.map fun path => (some path.data,
        some (if path.printing then Pen.printingColor else Pen.rapidColor))) ∧
    (pathElements r.svg).countP (fun tag => tag.value? "stroke" = some Pen.printingColor) =
      r.report.toolpath.printing ∧
    (pathElements r.svg).countP (fun tag => tag.value? "stroke" = some Pen.rapidColor) =
      r.report.toolpath.rapid ∧
    (pathElements r.svg).length = r.report.toolpath.printing + r.report.toolpath.rapid ∧
    ((pictureElements r.svg).map fun tag => tag.value? "viewBox") = [some r.report.viewBox] ∧
    r.report.commands = p.commands.length ∧ r.report.skippedLines = p.skipped := by
  intro r p
  obtain ⟨hprinting, hrapid⟩ := countP_pathElements (Viewport.fit p o.padding) o p
  refine ⟨rfl, ?_, hprinting, hrapid, ?_, ?_, (List.length_map _).symm, rfl⟩
  · change (pathElements (Svg.document (Toolpath.trace p) (Viewport.fit p o.padding) o)).map _ = _
    rw [pathElements_document, List.map_map]
    exact List.map_congr_left fun path _ => congrArg (Prod.mk _) (value?_stroke_pathTag o path)
  · change (pathElements (Svg.document (Toolpath.trace p) (Viewport.fit p o.padding) o)).length = _
    rw [pathElements_document, List.length_map]
    exact length_paths_trace p
  · change
      (pictureElements (Svg.document (Toolpath.trace p) (Viewport.fit p o.padding) o)).map _ = _
    rw [pictureElements_document]
    rfl

end JetPlot
