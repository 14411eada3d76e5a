import JetPlot.Proofs.Toml.Numbers
import JetPlot.Toml.Reader

/-!
# Documents of plain lines

A document without headers is a list of lines, each with a key that needs no quotes and a value
that ends with the line (`Document`). It is read as the entries that its lines spell, provided that
no key is repeated.

* `splitDocument?_of_document`: the expressions of such a document are its lines;
* `ofText?_of_document`: its root table has one entry for each line.
-/

namespace JetPlot.Toml

/-! ## Keys -/

/-- Whether a key needs no quotes. -/
def IsBareKey (key : String) : Prop := key.toList ≠ [] ∧ ∀ c ∈ key.toList, isBare c

instance : DecidablePred IsBareKey := fun key =>
  decidable_of_iff (key.toList ≠ [] ∧ key.toList.all isBare) (and_congr_right' List.all_eq_true)

section keys

variable {key : String}

theorem IsBareKey.exists_cons (h : IsBareKey key) : ∃ c cs, key.toList = c :: cs ∧ isBare c := by
  obtain ⟨c, cs, heq⟩ := List.exists_cons_of_ne_nil h.1
  exact ⟨c, cs, heq, h.2 c (heq ▸ List.mem_cons_self)⟩

/-- What begins with a key without quotes does not begin with a bracket, a quote or a blank. -/
theorem IsBareKey.append_ne_cons (h : IsBareKey key) {d : Char} (hd : isBare d = false)
    (rest ds : List Char) : key.toList ++ rest ≠ d :: ds := by
  obtain ⟨c, cs, heq, hc⟩ := h.exists_cons
  rw [heq]
  intro hcons
  obtain rfl := (List.cons.inj hcons).1
  rw [hd] at hc
  cases hc

theorem isSpace_of_isBare {c : Char} (h : isBare c) : isSpace c = false := by
  refine Bool.eq_false_iff.2 fun hspace => ?_
  rw [isSpace, Bool.or_eq_true, decide_eq_true_iff, decide_eq_true_iff] at hspace
  rcases hspace with rfl | rfl <;> revert h <;> decide

/-- A key without quotes is one part of a key. -/
theorem splitPart?_append (h : IsBareKey key) {c : Char} (hc : isBare c = false)
    (rest : List Char) : splitPart? (key.toList ++ c :: rest) = some (key, c :: rest) := by
  have hspan : (key.toList ++ c :: rest).span isBare = (key.toList, c :: rest) :=
    span_append_eq h.2 (by rintro d ⟨⟩; exact hc)
  rw [splitPart?]
  · obtain ⟨d, ds, heq, -⟩ := h.exists_cons
    rw [hspan, heq]
    exact congrArg (fun part => some (part, c :: rest)) (heq ▸ String.ofList_toList)
  · exact fun _ => h.append_ne_cons (by decide) _ _
  · exact fun _ => h.append_ne_cons (by decide) _ _

/-- No white space stands in front of a key without quotes. -/
theorem skipSpace_append (h : IsBareKey key) (rest : List Char) :
    skipSpace (key.toList ++ rest) = key.toList ++ rest := by
  obtain ⟨c, cs, heq, hc⟩ := h.exists_cons
  rw [heq]
  exact List.dropWhile_cons_of_neg (by simp [isSpace_of_isBare hc])

/-- A key without quotes is read up to the sign behind it. -/
theorem splitKey?_append (h : IsBareKey key) (rest : List Char) :
    splitKey? (key.toList ++ ' ' :: '=' :: rest) = some (⟨[], key⟩, '=' :: rest) := by
  have hparts :
      splitParts? depth (key.toList ++ ' ' :: '=' :: rest) = some ([key], '=' :: rest) := by
    rw [depth, splitParts?, skipSpace_append h, splitPart?_append h (by decide)]
    rfl
  rw [splitKey?, hparts]
  rfl

end keys

/-! ## Values -/

/-- Whether characters spell a value that ends with the line. -/
def Spells (value : Toml) (cs : List Char) : Prop :=
  ∀ rest, splitValue? depth (skipSpace (cs ++ '\n' :: rest)) = some (value, '\n' :: rest)

/-- A value that begins with a digit or a minus sign is a number or a date. -/
theorem splitValue?_numeric {c : Char} (hc : c = '-' ∨ c.isDigit) (rest : List Char) :
    splitValue? depth (skipSpace (c :: rest)) = splitNumeric? (c :: rest) := by
  have hne {d : Char} (hd : (d = '-' ∨ d.isDigit) → False) : c ≠ d := fun h => hd (h ▸ hc)
  have hspace : skipSpace (c :: rest) = c :: rest := by
    refine List.dropWhile_cons_of_neg ?_
    simp [isSpace, hne (d := ' ') (by decide), hne (d := '\t') (by decide)]
  rw [hspace, depth, splitValue?, splitScalar?]
  all_goals
    intros
    next heq => exact hne (by decide) (List.cons.inj heq).1

/-- An integer that fits into 64 bits is spelled by its digits, with its sign. -/
theorem spells_integerChars {n : ℤ} (hlow : Int64.minValue.toInt ≤ n)
    (hhigh : n ≤ Int64.maxValue.toInt) : Spells (integer n) (Decimal.integerChars n) := by
  intro rest
  obtain ⟨c, cs, heq, hc⟩ := exists_integerChars_cons n
  rw [← splitNumeric?_integerChars hlow hhigh, heq]
  exact splitValue?_numeric hc _

/-- A finite double is spelled by its characters. -/
theorem spells_chars {x : Float} (hx : x.isFinite) :
    Spells (float x) (Settings.tomlStyle.chars x) := by
  intro rest
  obtain ⟨c, cs, heq, hc⟩ :
      ∃ c cs, Settings.tomlStyle.chars x = c :: cs ∧ (c = '-' ∨ c.isDigit) := by
    obtain ⟨sign, whole, places, heq, rfl | rfl, hwhole, -⟩ := isPointed_chars hx
    · obtain ⟨d, ds, rfl⟩ := List.exists_cons_of_ne_nil hwhole.1
      exact ⟨d, _, heq, .inr (hwhole.2 d List.mem_cons_self)⟩
    · exact ⟨'-', _, heq, .inl rfl⟩
  rw [← splitNumeric?_chars hx, heq]
  exact splitValue?_numeric hc _

/-! ## Lines -/

/-- Whether a text is a document with a line for each entry, whose key needs no quotes. -/
inductive Document : Entries → List Char → Prop
  /-- The empty document. -/
  | nil : Document [] []
  /-- A line in front of a document. -/
  | cons {key : String} {value : Toml} {cs rest : List Char} {entries : Entries}
      (hkey : IsBareKey key) (hvalue : Spells value cs) (h : Document entries rest) :
      Document ((key, value) :: entries) (key.toList ++ ' ' :: '=' :: ' ' :: (cs ++ '\n' :: rest))

/-- The expression that a line with an entry stands for. -/
def Expression.ofEntry (entry : String × Toml) : Expression := .value ⟨[], entry.1⟩ entry.2

namespace Document

variable {cs : List Char} {entries : Entries}

theorem length_le (h : Document entries cs) : entries.length ≤ cs.length := by
  induction h with
  | nil => exact Nat.le_refl 0
  | cons _ _ _ ih =>
    simp only [List.length_append, List.length_cons]
    omega

/-- No byte order mark stands in front of a key. -/
theorem skipMark_eq (h : Document entries cs) : skipMark cs = cs := by
  cases h with
  | nil => rfl
  | cons hkey =>
    rw [skipMark]
    exact fun _ => hkey.append_ne_cons (by decide) _ _

end Document

section lines

variable {key : String} {value : Toml} {cs : List Char} {entries : Entries}

/-- A line with a key and a value is split off. -/
theorem splitExpression?_append (hkey : IsBareKey key) (hvalue : Spells value cs)
    (rest : List Char) :
    splitExpression? (key.toList ++ ' ' :: '=' :: ' ' :: (cs ++ '\n' :: rest)) =
      some (.ofEntry (key, value), rest) := by
  have hsplit : splitKeyValue? (splitValue? depth)
      (key.toList ++ ' ' :: '=' :: ' ' :: (cs ++ '\n' :: rest)) =
        some ((⟨[], key⟩, value), '\n' :: rest) := by
    simp only [splitKeyValue?, splitKey?_append hkey, Option.bind_eq_bind, Option.bind_some]
    exact congrArg (Option.bind · _) (hvalue rest)
  rw [splitExpression?]
  · rw [hsplit]
    rfl
  · exact fun _ => hkey.append_ne_cons (by decide) _ _
  · exact fun _ => hkey.append_ne_cons (by decide) _ _

/-- What begins with a key is no blank line. -/
theorem afterLine?_append (hkey : IsBareKey key) (rest : List Char) :
    afterLine? (key.toList ++ rest) = none := by
  have hcomment : skipComment (key.toList ++ rest) = key.toList ++ rest := by
    rw [skipComment]
    exact fun _ => hkey.append_ne_cons (by decide) _ _
  have hbreak : afterBreak? (key.toList ++ rest) = none := by
    rw [afterBreak?]
    · exact fun _ => hkey.append_ne_cons (by decide) _ _
    · exact fun _ => hkey.append_ne_cons (by decide) _ _
  rw [afterLine?, skipSpace_append hkey, hcomment]
  split
  · next hnil => exact absurd (List.append_eq_nil_iff.1 hnil).1 hkey.1
  · exact hbreak

/-- One expression is read after the other. -/
theorem splitDocument?_succ (hspace : skipSpace cs = cs) (hblank : afterLine? cs = none)
    {expression : Expression} {rest : List Char}
    (hsplit : splitExpression? cs = some (expression, rest)) (fuel : ℕ) :
    splitDocument? (fuel + 1) cs = (splitDocument? fuel rest).map (expression :: ·) := by
  rw [splitDocument?, hspace]
  cases cs with
  | nil => cases hblank
  | cons c cs =>
    simp only [hblank, hsplit, Option.bind_eq_bind, Option.bind_some]
    rw [Option.map_eq_bind]
    rfl

/-- The expressions of a document are its lines. -/
theorem splitDocument?_of_document (h : Document entries cs) {fuel : ℕ}
    (hfuel : entries.length < fuel) :
    splitDocument? fuel cs = some (entries.map .ofEntry) := by
  induction h generalizing fuel with
  | nil =>
    obtain ⟨fuel, rfl⟩ := Nat.exists_eq_succ_of_ne_zero (Nat.ne_zero_of_lt hfuel)
    rfl
  | cons hkey hvalue _ ih =>
    obtain ⟨fuel, rfl⟩ := Nat.exists_eq_succ_of_ne_zero (Nat.ne_zero_of_lt hfuel)
    rw [splitDocument?_succ (skipSpace_append hkey _) (afterLine?_append hkey _)
      (splitExpression?_append hkey hvalue _), ih (Nat.lt_of_succ_lt_succ hfuel)]
    rfl

/-! ## Tables -/

theorem leadingValues_ofEntry (entries : Entries) :
    leadingValues (entries.map .ofEntry) = entries.map fun entry => (⟨[], entry.1⟩, entry.2) := by
  induction entries with
  | nil => rfl
  | cons entry entries ih => exact congrArg _ ih

/-- A document without headers has no other table than the root. -/
theorem addTables_ofEntry (entries table : Entries) :
    addTables (entries.map .ofEntry) table = some table := by
  induction entries with
  | nil => rfl
  | cons entry entries ih => exact ih

/-- Values with keys that are not repeated are added at the end of a table. -/
theorem fill_eq_some (table : Entries) (hnodup : ((table ++ entries).map Prod.fst).Nodup) :
    fill (entries.map fun entry => (⟨[], entry.1⟩, entry.2)) table = some (table ++ entries) := by
  induction entries generalizing table with
  | nil => rw [List.append_nil]; rfl
  | cons entry entries ih =>
    -- The key is new in the table so far, so its value is added behind the others.
    have hlookup : table.lookup entry.1 = none := by
      rw [List.map_append, List.nodup_append] at hnodup
      refine List.lookup_eq_none_iff.2 fun other hother => ?_
      have hne := hnodup.2.2 other.1 (List.mem_map_of_mem hother) entry.1 List.mem_cons_self
      simpa using hne.symm
    have hinsert : Entries.insert entry.1 entry.2 [] table = some (table ++ [entry]) := by
      rw [Entries.insert, hlookup]
      rfl
    rw [List.append_cons] at hnodup ⊢
    rw [← ih _ hnodup, fill, List.map_cons, List.foldlM_cons, hinsert]
    rfl

/-- A document whose keys are not repeated is read as the entries that its lines spell. -/
theorem ofText?_of_document {text : String} (h : Document entries text.toList)
    (hnodup : (entries.map Prod.fst).Nodup) : ofText? text = some entries := by
  have hlength : entries.length < text.toList.length + 1 := Nat.lt_succ_of_le h.length_le
  simp only [ofText?, h.skipMark_eq, splitDocument?_of_document h hlength, Option.bind_some, build,
    leadingValues_ofEntry, fill_eq_some [] hnodup, Option.bind_eq_bind, addTables_ofEntry]
  rfl

end lines

end JetPlot.Toml
