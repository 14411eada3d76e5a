import JetPlot.Json.Record
import JetPlot.Proofs.Json.Layout

/-!
# Written records

What is written as a JSON value is read back from the value: records with their fields in any
order (`Record.read?_ofEntries`), also among unknown keys (`Record.read?_ofEntries_filter`), lists,
optional values, natural numbers below `2 ^ 64`, and those doubles whose numeral is read back
exactly (`ReadsBack`). JSON numerals are read fast, and a few doubles with all of their digits are
read as their neighbours.
-/

namespace JetPlot.Json

/-- Whether the numeral that is written for a double is read as that double. -/
def ReadsBack (x : Float) : Prop := numeralFloat? (style.chars x) = some x

instance : DecidablePred ReadsBack := fun x =>
  inferInstanceAs (Decidable (numeralFloat? (style.chars x) = some x))

example : ReadsBack 0.1 ∧ ¬ ReadsBack 1.2345678901236943 := by decide +kernel

/-! ## Values -/

/-- A list is read back if all of its items are. -/
theorem mapM_map_eq_some {α β : Type} {write : α → β} {read? : β → Option α} {l : List α}
    (h : ∀ a ∈ l, read? (write a) = some a) : (l.map write).mapM read? = some l := by
  induction l with
  | nil => rfl
  | cons a l ih =>
    obtain ⟨ha, hl⟩ := List.forall_mem_cons.1 h
    rw [List.map_cons, List.mapM_cons, ha, ih hl]
    rfl

section values

variable {α : Type} {write : α → Json} {read? : Json → Option α}

theorem float?_ofFloat {x : Float} (hx : x.isFinite) (h : ReadsBack x) :
    float? (ofFloat x) = some x := by
  rw [ofFloat, if_pos hx]
  exact h

theorem ofFloat_ne_null {x : Float} (hx : x.isFinite) : ofFloat x ≠ null := by
  rw [ofFloat, if_pos hx]
  exact nofun

theorem nat?_ofNat {n : ℕ} (h : n < UInt64.size) : nat? (ofNat n) = some n := by
  have hdigits : (Decimal.digitChars n).all Char.isDigit :=
    List.all_eq_true.2 (isDigits_digitChars n).2
  change numeralNat? (Decimal.digitChars n) = some n
  rw [numeralNat?, if_pos hdigits, Decimal.ofDigitChars_digitChars]
  exact if_pos h

/-- An optional value is read back, unless it is written like a missing one. -/
theorem option?_ofOption {value : Option α}
    (h : ∀ a ∈ value, write a ≠ null ∧ read? (write a) = some a) :
    option? read? (ofOption write value) = some value := by
  cases value with
  | none => rfl
  | some a =>
    obtain ⟨hnull, hread⟩ := h a rfl
    rw [ofOption, Option.elim_some, option?, hread]
    · rfl
    · exact hnull

theorem list?_ofList {values : List α} (h : ∀ a ∈ values, read? (write a) = some a) :
    list? read? (ofList write values) = some values := mapM_map_eq_some h

end values

/-! ## Records -/

/-- A record is read back from its fields, none of them repeated, whatever there is beside them. -/
theorem Record.read?_ofEntries_filter {names : List String} {entries : List (String × Json)}
    (hnodup : ((entries.filter fun entry => names.contains entry.1).map Prod.fst).Nodup)
    (least : ℕ) :
    read? names least (ofEntries entries) =
      some ⟨entries.filter fun entry => names.contains entry.1⟩ := by
  have hentries : (entries.map fun entry => (some entry.1, entry.2)).mapM
      (fun entry : Option String × Json => entry.1.map (·, entry.2)) = some entries :=
    mapM_map_eq_some fun _ _ => rfl
  simp only [ofEntries, read?, hentries, Option.bind_eq_bind, Option.bind_some]
  exact if_pos hnodup

/-- A record is read back from its fields, none of them repeated. -/
theorem Record.read?_ofEntries {entries : List (String × Json)}
    (hnodup : (entries.map Prod.fst).Nodup) (least : ℕ) :
    read? (entries.map Prod.fst) least (ofEntries entries) = some ⟨entries⟩ := by
  have hfilter : entries.filter (fun entry => (entries.map Prod.fst).contains entry.1) = entries :=
    List.filter_eq_self.2 fun _ hentry => List.contains_iff_mem.2 (List.mem_map_of_mem hentry)
  rw [read?_ofEntries_filter (by rwa [hfilter]) least, hfilter]

/-- Unknown keys do not hide a known one. -/
theorem Record.find?_filter {names : List String} {name : String} (hname : name ∈ names)
    (entries : List (String × Json)) :
    (⟨entries.filter fun entry => names.contains entry.1⟩ : Record).find? name =
      entries.lookup name := by
  change (entries.filter fun entry => names.contains entry.1).lookup name = _
  induction entries with
  | nil => rfl
  | cons entry entries ih =>
    rw [List.filter_cons]
    by_cases hkey : name = entry.1
    · have hknown : names.contains entry.1 := List.contains_iff_mem.2 (hkey ▸ hname)
      rw [if_pos hknown, List.lookup_cons, List.lookup_cons, beq_iff_eq.2 hkey]
    · rw [List.lookup_cons, beq_false_of_ne hkey, ← ih]
      split
      · rw [List.lookup_cons, beq_false_of_ne hkey]
      · rfl

/-! ## Texts -/

/-- What is written has a text. -/
theorem writable_ofFloat (x : Float) : (ofFloat x).Writable := by
  rw [ofFloat]
  split
  · next hx => exact .number (isNumeral_chars hx)
  · exact .null

theorem writable_ofNat (n : ℕ) : (ofNat n).Writable := .number (isNumeral_digitChars n)

theorem writable_ofOption {α : Type} {write : α → Json} (h : ∀ a, (write a).Writable)
    (value : Option α) : (ofOption write value).Writable := by
  cases value with
  | none => exact .null
  | some a => exact h a

theorem writable_ofList {α : Type} {write : α → Json} (h : ∀ a, (write a).Writable)
    (values : List α) : (ofList write values).Writable :=
  .array _ (List.forall_mem_map.2 fun a _ => h a)

end JetPlot.Json
