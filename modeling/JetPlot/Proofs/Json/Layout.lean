import JetPlot.Proofs.Json.Scalars

/-!
# Layouts of values

A JSON value may be laid out in many ways, with white space between its parts: compactly, or with
one entry per line. Whatever the layout (`Spells`), the value is read back from the front of a
text (`Spells.takes`). For a block, the entries are read back one after the other if each
of them can be taken off the front of whatever may follow it (`Takes`).

* `split?_of_spells`: every layout of a value is read back as the value;
* `Writable.spells_compact`, `Writable.spells_indented`: both ways to write a value lay it out.
-/

namespace JetPlot.Json

/-! ## Taking entries -/

/-- Whether an entry begins in a way that no closing bracket and no white space does. -/
def BeginsEntry (cs : List Char) : Prop :=
  ∃ c cs', cs = c :: cs' ∧ isSpace c = false ∧ c ≠ ']' ∧ c ≠ '}'

/-- Whether a text is taken off the front of whatever may follow it. -/
structure Takes {α : Type} (split? : List Char → Option (α × List Char)) (cs : List Char)
    (a : α) : Prop where
  begins : BeginsEntry cs
  split : ∀ rest, EndsNumeral rest → split? (cs ++ rest) = some (a, rest)

/-- Whether there is nothing but white space. -/
def IsSpaces (cs : List Char) : Prop := ∀ c ∈ cs, isSpace c

theorem skipSpace_append {cs : List Char} (h : IsSpaces cs) (rest : List Char) :
    skipSpace (cs ++ rest) = skipSpace rest := List.dropWhile_append_of_pos h

theorem skipSpace_cons {c : Char} (h : isSpace c = false) (rest : List Char) :
    skipSpace (c :: rest) = c :: rest := List.dropWhile_cons_of_neg (Bool.eq_false_iff.1 h)

theorem BeginsEntry.skipSpace_append {cs : List Char} (h : BeginsEntry cs) (rest : List Char) :
    skipSpace (cs ++ rest) = cs ++ rest := by
  obtain ⟨c, cs, rfl, hc, -⟩ := h
  exact skipSpace_cons hc _

/-- A numeral ends in front of a comma, a bracket or white space. -/
theorem endsNumeral_cons {c : Char} (h : c = ',' ∨ c = ']' ∨ c = '}' ∨ isSpace c)
    (rest : List Char) : EndsNumeral (c :: rest) := by
  rintro d ⟨⟩
  have hspace (h : isSpace c) : c = ' ' ∨ c = '\t' ∨ c = '\n' ∨ c = '\r' := by
    simpa [isSpace, or_assoc] using h
  rcases h with rfl | rfl | rfl | h
  · decide
  · decide
  · decide
  · rcases hspace h with rfl | rfl | rfl | rfl <;> decide

theorem endsNumeral_append {cs rest : List Char} (h : IsSpaces cs) (hrest : EndsNumeral rest) :
    EndsNumeral (cs ++ rest) := by
  cases cs with
  | nil => exact hrest
  | cons c cs => exact endsNumeral_cons (.inr (.inr (.inr (h c List.mem_cons_self)))) _

section block

variable {α β : Type} {split? : List Char → Option (α × List Char)} {closing : Char}
  {pre post : List Char} {text : β → List Char} {entry : β → α}

/-- Entries with commas between them and white space around them are taken off the front of a
    text together with the closing bracket. -/
theorem splitEntries?_append (hclosing : closing = ']' ∨ closing = '}') (hpre : IsSpaces pre)
    (hpost : IsSpaces post) {l : List β} (hne : l ≠ [])
    (h : ∀ b ∈ l, Takes split? (text b) (entry b)) {fuel : ℕ} (hfuel : l.length ≤ fuel)
    (rest : List Char) :
    splitEntries? split? closing fuel
        (commaSeparated (l.map fun b => pre ++ text b) ++ post ++ closing :: rest) =
      some (l.map entry, rest) := by
  have hclosingSpace : isSpace closing = false := by
    rcases hclosing with rfl | rfl <;> decide
  have hcomma : closing ≠ ',' := by
    rcases hclosing with rfl | rfl <;> decide
  have hends : EndsNumeral (closing :: rest) := by
    rcases hclosing with rfl | rfl
    · exact endsNumeral_cons (.inr (.inl rfl)) _
    · exact endsNumeral_cons (.inr (.inr (.inl rfl))) _
  induction l generalizing fuel with
  | nil => exact absurd rfl hne
  | cons b l ih =>
    obtain ⟨hb, hl⟩ := List.forall_mem_cons.1 h
    obtain ⟨fuel, rfl⟩ : ∃ k, fuel = k + 1 :=
      Nat.exists_eq_succ_of_ne_zero (Nat.ne_zero_of_lt hfuel)
    cases l with
    | nil =>
      -- The bracket follows, perhaps behind white space.
      have hsplit := hb.split _ (endsNumeral_append hpost hends)
      simp only [List.map_cons, List.map_nil, commaSeparated, List.append_assoc]
      rw [splitEntries?, skipSpace_append hpre, hb.begins.skipSpace_append, hsplit]
      simp only [Option.bind_eq_bind, Option.bind_some, skipSpace_append hpost,
        skipSpace_cons hclosingSpace, if_neg hcomma]
      rfl
    | cons b' l =>
      -- A comma follows, and the other entries behind it.
      have hrest := ih (List.cons_ne_nil _ _) hl (Nat.le_of_succ_le_succ hfuel)
      have hsplit := hb.split _ (endsNumeral_cons (.inl rfl)
        (commaSeparated ((b' :: l).map fun b => pre ++ text b) ++ post ++ closing :: rest))
      have hspace : isSpace ',' = false := by decide
      simp only [List.map_cons, commaSeparated, List.append_assoc, List.cons_append]
        at hrest hsplit ⊢
      rw [splitEntries?, skipSpace_append hpre, hb.begins.skipSpace_append, hsplit]
      simp only [Option.bind_eq_bind, Option.bind_some, skipSpace_cons hspace, if_true, hrest]
      rfl

/-- White space in front of the entries does not count. -/
theorem splitEntries?_skipSpace (fuel : ℕ) (cs : List Char) :
    splitEntries? split? closing fuel (skipSpace cs) = splitEntries? split? closing fuel cs := by
  have hidem : skipSpace (skipSpace cs) = skipSpace cs := List.dropWhile_idempotent _ cs
  cases fuel with
  | zero => rfl
  | succ fuel => rw [splitEntries?, splitEntries?, hidem]

theorem commaSeparated_append (cs ds : List Char) (ls : List (List Char)) :
    commaSeparated ((cs ++ ds) :: ls) = cs ++ commaSeparated (ds :: ls) := by
  cases ls with
  | nil => rfl
  | cons l ls => exact List.append_assoc ..

/-- There are not many more texts than characters of them, with commas in between. -/
theorem length_le_commaSeparated (ls : List (List Char)) :
    ls.length ≤ (commaSeparated ls).length + 1 := by
  fun_induction commaSeparated ls with
  | case1 => exact Nat.zero_le _
  | case2 cs => exact Nat.le_add_left 1 _
  | case3 cs rest hne ih =>
    rw [List.length_cons, List.length_append, List.length_cons]
    omega

/-- The entries of a block are taken off the front of a text together with the closing bracket. -/
theorem splitBlock?_append (hclosing : closing = ']' ∨ closing = '}') (hpre : IsSpaces pre)
    (hpost : IsSpaces post) {l : List β} (h : ∀ b ∈ l, Takes split? (text b) (entry b))
    (rest : List Char) :
    splitBlock? split? closing
        (commaSeparated (l.map fun b => pre ++ text b) ++ post ++ closing :: rest) =
      some (l.map entry, rest) := by
  cases l with
  | nil =>
    have hclosingSpace : isSpace closing = false := by
      rcases hclosing with rfl | rfl <;> decide
    have hskip : skipSpace (post ++ closing :: rest) = closing :: rest := by
      rw [skipSpace_append hpost, skipSpace_cons hclosingSpace]
    change splitBlock? split? closing (post ++ closing :: rest) = _
    rw [splitBlock?, hskip]
    exact if_pos rfl
  | cons b l =>
    obtain ⟨c, cs, htext, hspace, hbracket, hbrace⟩ := (h b List.mem_cons_self).begins
    have hc : c ≠ closing := by
      rcases hclosing with rfl | rfl <;> assumption
    -- Without the white space in front of it, the block begins with the first entry.
    obtain ⟨ds, hds, hlength⟩ : ∃ ds, skipSpace (commaSeparated
        ((b :: l).map fun b => pre ++ text b) ++ post ++ closing :: rest) = c :: ds ∧
          (b :: l).length ≤ ds.length + 1 := by
      let ls := l.map fun b => pre ++ text b
      refine ⟨commaSeparated (cs :: ls) ++ (post ++ closing :: rest), ?_, ?_⟩
      · rw [List.map_cons, htext, commaSeparated_append, List.append_assoc, List.append_assoc,
          skipSpace_append hpre]
        change skipSpace (commaSeparated (([c] ++ cs) :: ls) ++ _) = _
        rw [commaSeparated_append]
        exact skipSpace_cons hspace _
      · have hcount := length_le_commaSeparated (cs :: ls)
        rw [List.length_cons, List.length_map] at hcount
        rw [List.length_cons, List.length_append]
        omega
    have hentries :=
      splitEntries?_append hclosing hpre hpost (List.cons_ne_nil b l) h hlength rest
    rw [← splitEntries?_skipSpace, hds] at hentries
    rw [splitBlock?, hds]
    exact (if_neg hc).trans hentries

end block

/-! ## Values -/

/-- Whether characters are a layout of a value, with any white space in its blocks. -/
inductive Spells : Json → List Char → Prop
  | null : Spells null "null".toList
  | bool (b : Bool) : Spells (bool b) (if b then "true" else "false").toList
  | number {numeral : List Char} (h : IsNumeral numeral) : Spells (number numeral) numeral
  | text (s : String) : Spells (text (some s)) (quoted s)
  | array {pre post : List Char} (hpre : IsSpaces pre) (hpost : IsSpaces post) (items : List Json)
      (layout : Json → List Char) (h : ∀ item ∈ items, Spells item (layout item)) :
      Spells (array items)
        ('[' :: (commaSeparated (items.map fun item => pre ++ layout item) ++ post ++ [']']))
  | object {pre post sep : List Char} (hpre : IsSpaces pre) (hpost : IsSpaces post)
      (hsep : IsSpaces sep) (entries : List (String × Json)) (layout : Json → List Char)
      (h : ∀ entry ∈ entries, Spells entry.2 (layout entry.2)) :
      Spells (ofEntries entries)
        ('{' :: (commaSeparated (entries.map fun entry =>
          pre ++ (quoted entry.1 ++ ':' :: (sep ++ layout entry.2))) ++ post ++ ['}']))

theorem quoted_append (s : String) (rest : List Char) :
    quoted s ++ rest = '"' :: (s.toList.flatMap escape ++ '"' :: rest) :=
  congrArg ('"' :: ·) (List.append_assoc ..)

/-- An entry of an object is taken off if its value is. -/
theorem Takes.member {split? : List Char → Option (Json × List Char)} {cs sep : List Char}
    {j : Json} (h : Takes split? cs j) (hsep : IsSpaces sep) (key : String) :
    Takes (splitMember? split?) (quoted key ++ ':' :: (sep ++ cs)) (some key, j) where
  begins := ⟨'"', _, rfl, by decide, by decide, by decide⟩
  split rest hrest := by
    rw [List.append_assoc, quoted_append, splitMember?, splitString?_escape]
    simp only [Option.bind_eq_bind, Option.bind_some, List.cons_append, List.append_assoc,
      skipSpace_cons (by decide : isSpace ':' = false), skipSpace_append hsep,
      h.begins.skipSpace_append, h.split rest hrest]
    rfl

/-- What begins with no opening bracket is a scalar. -/
theorem splitValue?_scalar {c : Char} (harray : c ≠ '[') (hobject : c ≠ '{') (depth : ℕ)
    (cs : List Char) : splitValue? depth (c :: cs) = splitScalar? (c :: cs) := by
  cases depth with
  | zero => rfl
  | succ depth =>
    rw [splitValue?]
    · exact fun _ h => harray (List.cons.inj h).1
    · exact fun _ h => hobject (List.cons.inj h).1

theorem takes_number {numeral : List Char} (h : IsNumeral numeral) (depth : ℕ) :
    Takes (splitValue? depth) numeral (number numeral) := by
  obtain ⟨c, cs, rfl, hc⟩ := h.exists_cons
  have hne {d : Char} (hminus : d ≠ '-') (hdigit : d.isDigit = false) : c ≠ d := by
    rintro rfl
    rcases hc with hc | hc
    · exact hminus hc
    · exact absurd hc (Bool.eq_false_iff.1 hdigit)
  have hspace : isSpace c = false := by
    simp [isSpace, hne (d := ' ') (by decide) rfl, hne (d := '\t') (by decide) rfl,
      hne (d := '\n') (by decide) rfl, hne (d := '\r') (by decide) rfl]
  refine ⟨⟨c, cs, rfl, hspace, hne (by decide) rfl, hne (by decide) rfl⟩, fun rest hrest => ?_⟩
  have hnumeral := splitNumeral?_append h hrest
  rw [List.cons_append, splitValue?_scalar (hne (by decide) rfl) (hne (by decide) rfl),
    splitScalar?]
  · rw [← List.cons_append, hnumeral]
    rfl
  all_goals exact fun _ h => hne (by decide) rfl (List.cons.inj h).1

theorem length_le_of_mem_commaSeparated {cs : List Char} {ls : List (List Char)} (h : cs ∈ ls) :
    cs.length ≤ (commaSeparated ls).length := by
  fun_induction commaSeparated ls with
  | case1 => cases h
  | case2 ds => rw [List.mem_singleton.1 h]
  | case3 ds rest hne ih =>
    rw [List.length_append, List.length_cons]
    rcases List.mem_cons.1 h with rfl | h
    · exact Nat.le_add_right ..
    · exact (ih h).trans (by omega)

/-- The text of an entry is shorter than that of its block. -/
theorem length_le_of_mem_block {β : Type} (text : β → List Char) {pre post : List Char}
    {opening closing : Char} {l : List β} {b : β} {depth : ℕ} (hb : b ∈ l)
    (h : (opening :: (commaSeparated (l.map fun b => pre ++ text b) ++ post ++ [closing])).length ≤
      depth + 1) : (text b).length ≤ depth := by
  have hmem : pre ++ text b ∈ l.map fun b => pre ++ text b :=
    List.mem_map.2 ⟨b, hb, rfl⟩
  have hlength := length_le_of_mem_commaSeparated hmem
  rw [List.length_append] at hlength
  rw [List.length_cons, List.length_append, List.length_append] at h
  omega

/-- Every layout of a value is taken off the front of a text. -/
theorem Spells.takes {j : Json} {cs : List Char} (h : Spells j cs) {depth : ℕ}
    (hdepth : cs.length ≤ depth) : Takes (splitValue? depth) cs j := by
  -- A block uses up one of the depth, and the texts in it are shorter than its own.
  induction h generalizing depth with
  | null =>
    exact ⟨⟨'n', _, rfl, by decide⟩, fun rest _ =>
      splitValue?_scalar (by decide) (by decide) depth _⟩
  | bool b =>
    cases b with
    | true =>
      exact ⟨⟨'t', _, rfl, by decide⟩, fun rest _ =>
        splitValue?_scalar (by decide) (by decide) depth _⟩
    | false =>
      exact ⟨⟨'f', _, rfl, by decide⟩, fun rest _ =>
        splitValue?_scalar (by decide) (by decide) depth _⟩
  | number h => exact takes_number h depth
  | text s =>
    refine ⟨⟨'"', _, rfl, by decide⟩, fun rest _ => ?_⟩
    rw [quoted_append, splitValue?_scalar (by decide) (by decide), splitScalar?,
      splitString?_escape]
    rfl
  | @array pre post hpre hpost items layout h ih =>
    obtain ⟨depth, rfl⟩ : ∃ k, depth = k + 1 :=
      ⟨depth - 1, by rw [List.length_cons] at hdepth; omega⟩
    have hitems : ∀ item ∈ items, Takes (splitValue? depth) (layout item) (id item) :=
      fun item hitem => ih item hitem (length_le_of_mem_block layout hitem hdepth)
    refine ⟨⟨'[', _, rfl, by decide⟩, fun rest _ => ?_⟩
    rw [List.cons_append, List.append_assoc, List.singleton_append, splitValue?,
      splitBlock?_append (.inl rfl) hpre hpost hitems, List.map_id]
    rfl
  | @object pre post sep hpre hpost hsep entries layout h ih =>
    obtain ⟨depth, rfl⟩ : ∃ k, depth = k + 1 :=
      ⟨depth - 1, by rw [List.length_cons] at hdepth; omega⟩
    have hentries : ∀ entry ∈ entries, Takes (splitMember? (splitValue? depth))
        (quoted entry.1 ++ ':' :: (sep ++ layout entry.2)) (some entry.1, entry.2) := by
      intro entry hentry
      have hlength : (quoted entry.1 ++ ':' :: (sep ++ layout entry.2)).length ≤ depth :=
        length_le_of_mem_block (fun entry : String × Json =>
          quoted entry.1 ++ ':' :: (sep ++ layout entry.2)) hentry hdepth
      rw [List.length_append, List.length_cons, List.length_append] at hlength
      exact (ih entry hentry (by omega)).member hsep entry.1
    refine ⟨⟨'{', _, rfl, by decide⟩, fun rest _ => ?_⟩
    rw [List.cons_append, List.append_assoc, List.singleton_append, splitValue?,
      splitBlock?_append (.inr rfl) hpre hpost hentries]
    rfl

/-- Every layout of a value is read back. -/
theorem split?_of_spells {j : Json} {cs : List Char} (h : Spells j cs) :
    split? cs = some (j, []) := by
  have htakes := h.takes le_rfl
  have hskip := htakes.begins.skipSpace_append []
  have hsplit := htakes.split [] nofun
  rw [List.append_nil] at hskip hsplit
  rw [split?, hskip, hsplit]
  rfl

/-! ## Writing -/

/-- Whether a value has a text: its numerals belong to JSON, and its strings are texts. -/
inductive Writable : Json → Prop
  | null : Writable null
  | bool (b : Bool) : Writable (bool b)
  | number {numeral : List Char} (h : IsNumeral numeral) : Writable (number numeral)
  | text (s : String) : Writable (text (some s))
  | array (items : List Json) (h : ∀ item ∈ items, Writable item) : Writable (array items)
  | object (entries : List (String × Json)) (h : ∀ entry ∈ entries, Writable entry.2) :
      Writable (ofEntries entries)

theorem compactItems_eq (items : List Json) : compactItems items = items.map compact := by
  induction items with
  | nil => rfl
  | cons item items ih => rw [compactItems, ih, List.map_cons]

theorem compactEntries_eq (entries : List (String × Json)) :
    compactEntries (entries.map fun entry => (some entry.1, entry.2)) =
      entries.map fun entry => quoted entry.1 ++ ':' :: compact entry.2 := by
  induction entries with
  | nil => rfl
  | cons entry entries ih => rw [List.map_cons, compactEntries, ih, List.map_cons]; rfl

theorem indentedItems_eq (indent : ℕ) (items : List Json) :
    indentedItems indent items = items.map (indented indent) := by
  induction items with
  | nil => rfl
  | cons item items ih => rw [indentedItems, ih, List.map_cons]

theorem indentedEntries_eq (indent : ℕ) (entries : List (String × Json)) :
    indentedEntries indent (entries.map fun entry => (some entry.1, entry.2)) =
      entries.map fun entry => quoted entry.1 ++ ':' :: ([' '] ++ indented indent entry.2) := by
  induction entries with
  | nil => rfl
  | cons entry entries ih => rw [List.map_cons, indentedEntries, ih, List.map_cons]; rfl

theorem isSpaces_newLine (indent : ℕ) : IsSpaces (newLine indent) := by
  intro c hc
  rcases List.mem_cons.1 hc with rfl | hc
  · decide
  · rw [List.eq_of_mem_replicate hc]
    decide

theorem isSpaces_nil : IsSpaces [] := nofun

theorem block_eq (indent : ℕ) (opening closing : Char) {ls : List (List Char)} (h : ls ≠ []) :
    block indent opening closing ls =
      opening :: (commaSeparated (ls.map (newLine (indent + 2) ++ ·)) ++ newLine indent ++
        [closing]) := by
  cases ls with
  | nil => exact absurd rfl h
  | cons l ls => rfl

variable {j : Json}

/-- Without any white space, a value is laid out. -/
theorem Writable.spells_compact (h : j.Writable) : Spells j j.compact := by
  induction h with
  | null => exact .null
  | bool b => exact .bool b
  | number h => exact .number h
  | text s => exact .text s
  | array items h ih =>
    rw [compact, compactItems_eq]
    simpa using Spells.array isSpaces_nil isSpaces_nil items compact ih
  | object entries h ih =>
    rw [ofEntries, compact, compactEntries_eq]
    simpa [ofEntries] using
      Spells.object isSpaces_nil isSpaces_nil isSpaces_nil entries compact ih

/-- With one entry per line, a value is laid out, at whichever indentation. -/
theorem Writable.spells_indented (h : j.Writable) (indent : ℕ) :
    Spells j (j.indented indent) := by
  induction h generalizing indent with
  | null => exact .null
  | bool b => exact .bool b
  | number h => exact .number h
  | text s => exact .text s
  | array items h ih =>
    have hlayout := fun item hitem => ih item hitem (indent + 2)
    rw [indented, indentedItems_eq]
    by_cases hnil : items = []
    · obtain rfl := hnil
      exact Spells.array isSpaces_nil isSpaces_nil [] compact nofun
    · rw [block_eq _ _ _ (mt List.map_eq_nil_iff.1 hnil), List.map_map]
      exact .array (isSpaces_newLine _) (isSpaces_newLine _) items _ hlayout
  | object entries h ih =>
    have hlayout := fun entry hentry => ih entry hentry (indent + 2)
    rw [ofEntries, indented, indentedEntries_eq]
    by_cases hnil : entries = []
    · obtain rfl := hnil
      exact Spells.object isSpaces_nil isSpaces_nil isSpaces_nil [] compact nofun
    · rw [block_eq _ _ _ (mt List.map_eq_nil_iff.1 hnil), List.map_map]
      exact .object (isSpaces_newLine _) (isSpaces_newLine _)
        (List.forall_mem_singleton.2 (by decide)) entries _ hlayout

/-- A written value is read back. -/
theorem Writable.split?_compactText (h : j.Writable) :
    split? j.compactText.toList = some (j, []) := by
  rw [compactText, String.toList_ofList]
  exact split?_of_spells h.spells_compact

theorem Writable.split?_prettyText (h : j.Writable) :
    split? j.prettyText.toList = some (j, []) := by
  rw [prettyText, String.toList_ofList]
  exact split?_of_spells (h.spells_indented 0)

end JetPlot.Json
