import Mathlib.Data.List.TakeDrop

/-!
# Patterns

Regular expressions, searched for from left to right with backtracking: repetition takes as much as
it can and an alternative comes before the ones behind it, but each gives way if what follows does
not match (`Pattern.ways`). Only the first way to match counts, and what it captures
(`Pattern.captures?`).

* `LedBy`: the first way to match, where all the other ways stop in front of a character that they
  could have taken;
* `LedBy.seq`, `LedBy.first?_seq`: backtracking into such ways is in vain if what follows cannot
  begin with such a character.
-/

namespace JetPlot

/-- A regular expression, in which repetition is greedy and alternatives are ordered. -/
inductive Pattern
  /-- Nothing. -/
  | empty
  /-- One character of a class. -/
  | one (p : Char → Bool)
  /-- Any number of characters of a class. -/
  | many (p : Char → Bool)
  /-- One pattern followed by another one. -/
  | seq (a b : Pattern)
  /-- One pattern or, failing that, another one. -/
  | alt (a b : Pattern)
  /-- A pattern whose text is captured. -/
  | group (a : Pattern)

/-- A way in which the front of a text matches. -/
structure Match where
  /-- What matches. -/
  text : List Char
  /-- What is captured, in order. -/
  groups : List (List Char)
  /-- What is left. -/
  rest : List Char

/-- One match followed by another one. -/
def Match.append (m n : Match) : Match := ⟨m.text ++ n.text, m.groups ++ n.groups, n.rest⟩

namespace Pattern

/-- The ways to match characters of a class, the longest one first. -/
def waysMany (p : Char → Bool) : List Char → List Match
  | [] => [⟨[], [], []⟩]
  | c :: cs =>
    (if p c then (waysMany p cs).map (Match.append ⟨[c], [], cs⟩) else []) ++ [⟨[], [], c :: cs⟩]

/-- All ways to match the front of a text, in the order in which backtracking tries them. -/
def ways : Pattern → List Char → List Match
  | empty, cs => [⟨[], [], cs⟩]
  | one _, [] => []
  | one p, c :: cs => if p c then [⟨[c], [], cs⟩] else []
  | many p, cs => waysMany p cs
  | seq a b, cs => (a.ways cs).flatMap fun m => (b.ways m.rest).map m.append
  | alt a b, cs => a.ways cs ++ b.ways cs
  | group a, cs => (a.ways cs).map fun m => { m with groups := m.text :: m.groups }

/-- What the first way to match the front of a text captures. -/
def first? (a : Pattern) (cs : List Char) : Option (List (List Char)) :=
  (a.ways cs).head?.map Match.groups

/-- What is captured at the first place of a text where a pattern matches. -/
def captures? (a : Pattern) : List Char → Option (List (List Char))
  | [] => a.first? []
  | c :: cs => (a.first? (c :: cs)).or (a.captures? cs)

/-- A pattern or nothing. -/
def optional (a : Pattern) : Pattern := alt a empty

/-- At least one character of a class. -/
def several (p : Char → Bool) : Pattern := seq (one p) (many p)

/-- The character itself. -/
def char (c : Char) : Pattern := one (· = c)

/-- One of two characters. -/
def either (c d : Char) : Pattern := one fun e => e = c ∨ e = d

/-! ## Ways that one of them leads -/

/-- Whether a text begins with a character of a class. -/
def Begins (p : Char → Bool) (cs : List Char) : Prop := ∃ c ∈ cs.head?, p c

/-- Whether a match is the first one, and all others stop in front of a character of a class. -/
def LedBy (p : Char → Bool) (m : Match) (ms : List Match) : Prop :=
  ∃ others, ms = m :: others ∧ ∀ n ∈ others, Begins p n.rest

section led

variable {p q : Char → Bool} {a b : Pattern} {cs rest : List Char} {m n : Match}
  {ms : List Match} {c : Char}

theorem Begins.mono (h : Begins p cs) (hpq : ∀ c, p c → q c) : Begins q cs := by
  obtain ⟨c, hc, hp⟩ := h
  exact ⟨c, hc, hpq c hp⟩

theorem not_begins_of_false (hpq : ∀ c, p c → q c = false) (h : Begins p cs) : ¬ Begins q cs := by
  rintro ⟨d, hd, hq⟩
  obtain ⟨c, hc, hp⟩ := h
  obtain rfl := Option.mem_unique hc hd
  rw [hpq c hp] at hq
  cases hq

theorem takeWhile_eq_nil_of_not_begins (h : ¬ Begins p cs) : cs.takeWhile p = [] := by
  cases cs with
  | nil => rfl
  | cons c cs => exact List.takeWhile_cons_of_neg fun hc => h ⟨c, rfl, hc⟩

theorem LedBy.head? (h : LedBy p m ms) : ms.head? = some m := by
  obtain ⟨others, rfl, -⟩ := h
  rfl

theorem LedBy.singleton (p : Char → Bool) (m : Match) : LedBy p m [m] :=
  ⟨[], rfl, fun _ hn => absurd hn List.not_mem_nil⟩

/-- Ways to go on after a match. -/
theorem LedBy.map_append (h : LedBy p m ms) (k : Match) :
    LedBy p (k.append m) (ms.map k.append) := by
  obtain ⟨others, rfl, hothers⟩ := h
  refine ⟨others.map k.append, rfl, fun n hn => ?_⟩
  obtain ⟨w, hw, rfl⟩ := List.mem_map.1 hn
  exact hothers w hw

/-- Ways that stop in front of such a character may be tried after the others. -/
theorem LedBy.append (h : LedBy p m ms) {ns : List Match} (hns : ∀ n ∈ ns, Begins p n.rest) :
    LedBy p m (ms ++ ns) := by
  obtain ⟨others, rfl, hothers⟩ := h
  refine ⟨others ++ ns, rfl, fun n hn => ?_⟩
  rcases List.mem_append.1 hn with hn | hn
  exacts [hothers n hn, hns n hn]

theorem LedBy.mono (h : LedBy p m ms) (hpq : ∀ c, p c → q c) : LedBy q m ms := by
  obtain ⟨others, rfl, hothers⟩ := h
  exact ⟨others, rfl, fun n hn => (hothers n hn).mono hpq⟩

/-! ### Classes of characters -/

theorem ledBy_many (p : Char → Bool) (cs : List Char) :
    LedBy p ⟨cs.takeWhile p, [], cs.dropWhile p⟩ ((many p).ways cs) := by
  rw [ways]
  induction cs with
  | nil => exact .singleton p _
  | cons c cs ih =>
    rw [waysMany]
    by_cases hc : p c
    · rw [if_pos hc, List.takeWhile_cons_of_pos hc, List.dropWhile_cons_of_pos hc]
      -- The longest way is tried first; the last one takes nothing and stops in front of `c`.
      refine (ih.map_append ⟨[c], [], cs⟩).append fun n hn => ?_
      obtain rfl := List.mem_singleton.1 hn
      exact ⟨c, rfl, hc⟩
    · rw [if_neg hc, List.takeWhile_cons_of_neg hc, List.dropWhile_cons_of_neg hc]
      exact .singleton p _

theorem ways_one_of_not_begins (h : ¬ Begins p cs) : (one p).ways cs = [] := by
  cases cs with
  | nil => rfl
  | cons c cs => exact if_neg fun hc => h ⟨c, rfl, hc⟩

theorem ways_seq_one (hc : p c) (b : Pattern) (cs : List Char) :
    (seq (one p) b).ways (c :: cs) = (b.ways cs).map (Match.append ⟨[c], [], cs⟩) := by
  rw [ways, ways, if_pos hc, List.flatMap_singleton]

theorem ways_seq_of_nil (h : a.ways cs = []) : (seq a b).ways cs = [] := by
  rw [ways, h, List.flatMap_nil]

theorem ways_seq_one_of_not_begins (h : ¬ Begins p cs) : (seq (one p) b).ways cs = [] :=
  ways_seq_of_nil (ways_one_of_not_begins h)

theorem exists_cons_of_ways_ne_nil (h : (seq (one p) b).ways cs ≠ []) :
    ∃ c tail, cs = c :: tail ∧ p c ∧ b.ways tail ≠ [] := by
  cases cs with
  | nil => exact absurd rfl h
  | cons c tail =>
    by_cases hc : p c
    · rw [ways_seq_one hc, Ne, List.map_eq_nil_iff] at h
      exact ⟨c, tail, rfl, hc, h⟩
    · exact absurd (ways_seq_one_of_not_begins fun ⟨d, hd, hp⟩ => hc (Option.some.inj hd ▸ hp)) h

theorem ledBy_several (h : cs.takeWhile p ≠ []) :
    LedBy p ⟨cs.takeWhile p, [], cs.dropWhile p⟩ ((several p).ways cs) := by
  cases cs with
  | nil => exact absurd rfl h
  | cons c cs =>
    by_cases hc : p c
    · rw [several, ways_seq_one hc, List.takeWhile_cons_of_pos hc, List.dropWhile_cons_of_pos hc]
      exact (ledBy_many p cs).map_append _
    · exact absurd (List.takeWhile_cons_of_neg hc) h

theorem ways_several_of_nil (h : cs.takeWhile p = []) : (several p).ways cs = [] := by
  refine ways_seq_one_of_not_begins fun ⟨c, hc, hp⟩ => ?_
  obtain ⟨rest, rfl⟩ := List.head?_eq_some_iff.1 hc
  rw [List.takeWhile_cons_of_pos hp] at h
  cases h

/-! ### Sequences and options -/

/-- What is tried behind the first way, and stops at once behind all the others. -/
theorem LedBy.seq (h : LedBy p m (a.ways cs)) (hn : LedBy q n (b.ways m.rest))
    (hb : ∀ rest, Begins p rest → ∀ w ∈ b.ways rest, Begins q w.rest) :
    LedBy q (m.append n) ((Pattern.seq a b).ways cs) := by
  obtain ⟨others, hways, hothers⟩ := h
  rw [ways, hways, List.flatMap_cons]
  refine (hn.map_append m).append fun w hw => ?_
  obtain ⟨k, hk, hw⟩ := List.mem_flatMap.1 hw
  obtain ⟨v, hv, rfl⟩ := List.mem_map.1 hw
  exact hb _ (hothers k hk) v hv

/-- Backtracking is in vain if what follows cannot begin where the other ways stop. -/
theorem LedBy.ways_seq (h : LedBy p m (a.ways cs))
    (hb : ∀ rest, Begins p rest → b.ways rest = []) :
    (Pattern.seq a b).ways cs = (b.ways m.rest).map m.append := by
  obtain ⟨others, hways, hothers⟩ := h
  have hnil : (others.flatMap fun n => (b.ways n.rest).map n.append) = [] :=
    List.flatMap_eq_nil_iff.2 fun n hn => by rw [hb _ (hothers n hn), List.map_nil]
  rw [ways, hways, List.flatMap_cons, hnil, List.append_nil]

theorem LedBy.first?_seq (h : LedBy p m (a.ways cs))
    (hb : ∀ rest, Begins p rest → b.ways rest = []) :
    (Pattern.seq a b).first? cs = (b.first? m.rest).map (m.groups ++ ·) := by
  rw [first?, h.ways_seq hb, first?, List.head?_map, Option.map_map, Option.map_map]
  rfl

/-- If the first way can be continued, it is. -/
theorem LedBy.first?_seq_of_some (h : LedBy p m (a.ways cs)) {gs : List (List Char)}
    (hb : b.first? m.rest = some gs) : (Pattern.seq a b).first? cs = some (m.groups ++ gs) := by
  obtain ⟨others, hways, -⟩ := h
  obtain ⟨n, hn, rfl⟩ := Option.map_eq_some_iff.1 hb
  obtain ⟨others', hways'⟩ := List.head?_eq_some_iff.1 hn
  rw [first?, ways, hways, List.flatMap_cons, hways']
  rfl

theorem first?_seq_of_singleton (h : a.ways cs = [m]) :
    (seq a b).first? cs = (b.first? m.rest).map (m.groups ++ ·) := by
  have hled : LedBy (fun _ => false) m (a.ways cs) := h ▸ .singleton _ m
  refine hled.first?_seq ?_
  rintro rest ⟨c, -, hc⟩
  cases hc

theorem first?_seq_of_nil (h : a.ways cs = []) : (seq a b).first? cs = none := by
  rw [first?, ways_seq_of_nil h]
  rfl

theorem LedBy.optional (h : LedBy p m (a.ways cs)) (hcs : Begins p cs) :
    LedBy p m ((Pattern.optional a).ways cs) :=
  LedBy.append h fun n hn => by
    obtain rfl := List.mem_singleton.1 hn
    exact hcs

theorem ways_optional_of_nil (h : a.ways cs = []) : (optional a).ways cs = [⟨[], [], cs⟩] := by
  rw [optional, ways, h]
  rfl

theorem first?_optional (a : Pattern) (cs : List Char) :
    (optional a).first? cs = some ((a.first? cs).getD []) := by
  rw [first?, optional, ways, first?]
  cases a.ways cs <;> rfl

theorem LedBy.group (h : LedBy p m (a.ways cs)) :
    LedBy p ⟨m.text, m.text :: m.groups, m.rest⟩ ((Pattern.group a).ways cs) := by
  obtain ⟨others, hways, hothers⟩ := h
  rw [ways, hways]
  refine ⟨_, rfl, fun n hn => ?_⟩
  obtain ⟨w, hw, rfl⟩ := List.mem_map.1 hn
  exact hothers w hw

theorem ways_group_of_nil (h : a.ways cs = []) : (group a).ways cs = [] := by
  rw [ways, h, List.map_nil]

end led

end Pattern

end JetPlot
