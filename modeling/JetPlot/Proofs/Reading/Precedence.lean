import Mathlib.Data.List.Infix
import JetPlot.Program.Line

/-!
# Which test decides

A line that is neither blank nor marked is tested in upper case: whether its first word is a
control word, whether it is about the shutter, and whether it begins with a motion keyword
(`Line.Test`). Only the test for the shutter has to come before the one for the motions. No
keyword is the beginning of another one, nor of a control word: the word `ENDS` is not taken for
`END`, because the first word of a line is as long as it can be (`Line.IsFirstWord`).

* `Line.IsMotion`: what makes a line a motion, without any order;
* `Line.classifyBy`: what a line is if tests and keywords are tried in another order;
* `Line.classify_motion`: lines are motions by what they are made of, in whichever of these orders
  they are tested.
-/

namespace JetPlot

/-- A text occurs within another one if it is a piece of it. -/
theorem Text.occursIn_iff {part cs : List Char} : occursIn part cs ↔ part <:+: cs := by
  induction cs with
  | nil => rw [occursIn, List.isEmpty_iff, List.infix_nil]
  | cons c cs ih =>
    rw [occursIn, Bool.or_eq_true, List.isPrefixOf_iff_prefix, ih, List.infix_cons_iff]

/-! ## Keywords -/

namespace Keyword

variable {j k : Keyword} {cs : List Char}

theorem mem_all (k : Keyword) : k ∈ all := by
  cases k <;> decide

/-- No keyword is the beginning of another one. -/
theorem eq_of_startsWith (h : j.text.toList <+: k.text.toList) : j = k := by
  have hall : ∀ j ∈ all, ∀ k ∈ all, j.text.toList <+: k.text.toList → j = k := by decide
  exact hall j j.mem_all k k.mem_all h

/-- A text begins with one keyword at most. -/
theorem eq_of_prefixes (hj : j.text.toList <+: cs) (hk : k.text.toList <+: cs) : j = k :=
  (List.prefix_or_prefix_of_prefix hj hk).elim eq_of_startsWith fun h => (eq_of_startsWith h).symm

/-- The keyword that a text begins with is found in any order of the keywords. -/
theorem find?_prefix_eq_some_iff {order : List Keyword} (horder : order.Perm all) :
    order.find? (fun k => k.text.toList.isPrefixOf cs) = some k ↔ k.text.toList <+: cs := by
  have hsome {j : Keyword} (h : order.find? (fun k => k.text.toList.isPrefixOf cs) = some j) :
      j.text.toList <+: cs := by
    have hj := List.find?_some h
    exact List.isPrefixOf_iff_prefix.1 hj
  refine ⟨hsome, fun hk => ?_⟩
  cases h : order.find? fun k => k.text.toList.isPrefixOf cs with
  | none =>
    have hnone := List.find?_eq_none.1 h k (horder.mem_iff.2 k.mem_all)
    exact absurd (List.isPrefixOf_iff_prefix.2 hk) hnone
  | some j => rw [eq_of_prefixes (hsome h) hk]

end Keyword

namespace Line

variable {k : Keyword} {cs upper : List Char} {word : String}

/-! ## First words -/

/-- Whether a text begins with a word that cannot be longer: it consists of letters and digits of
    ASCII and of underscores, and so does no longer beginning of the text. -/
structure IsFirstWord (word cs : List Char) : Prop where
  leading : word <+: cs
  letters : ∀ c ∈ word, c.isAlphanum ∨ c = '_'
  longest : ∀ run, run <+: cs → (∀ c ∈ run, c.isAlphanum ∨ c = '_') → run <+: word

theorem isFirstWord_firstWord (cs : List Char) : IsFirstWord (firstWord cs) cs where
  leading := List.takeWhile_prefix _
  letters c hc := by
    have h := List.all_eq_true.1 List.all_takeWhile c hc
    simpa using h
  longest := by
    rintro run ⟨rest, rfl⟩ hrun
    have h : ∀ c ∈ run, (c.isAlphanum || decide (c = '_')) = true := by simpa using hrun
    rw [firstWord, List.takeWhile_append_of_pos h]
    exact List.prefix_append _ _

/-- A keyword at the beginning of a line is at the beginning of its first word. -/
theorem prefix_firstWord (h : k.text.toList <+: upper) : k.text.toList <+: firstWord upper := by
  refine (isFirstWord_firstWord upper).longest _ h ?_
  have hletters : (k.text.toList.all fun c => c.isAlphanum || c = '_') = true := by
    cases k <;> decide
  simpa using hletters

/-- A line that begins with a keyword does not begin with a control word. -/
theorem firstWord_ne_controlWord (h : k.text.toList <+: upper) :
    ∀ word ∈ controlWords, word.toList ≠ firstWord upper := by
  have hall : ∀ word ∈ controlWords, ∀ k ∈ Keyword.all, ¬ k.text.toList <+: word.toList := by decide
  intro word hword heq
  exact hall word hword k k.mem_all (heq ▸ prefix_firstWord h)

/-! ## Tests -/

/-- What a line in upper case is tested for. -/
inductive Test
  /-- Whether its first word is a control word. -/
  | control
  /-- Whether it opens or closes the shutter. -/
  | shutter
  /-- Whether it begins with a motion keyword. -/
  | motion
  deriving DecidableEq

/-- What a test finds out about a line in upper case, if the keywords are tried in the given
    order. -/
def Test.apply (order : List Keyword) (upper : List Char) : Test → Option Line
  | control =>
    (controlWords.find? fun word => word.toList = firstWord upper).map (skip <| .control ·)
  | shutter =>
    if Text.occursIn opening.toList upper then some (.shutter true)
    else if Text.occursIn closing.toList upper then some (.shutter false)
    else none
  | motion => (order.find? fun k => k.text.toList.isPrefixOf upper).map .motion

/-- The orders of the tests in which the shutter comes before the motions. -/
def Test.arrangements : List (List Test) :=
  [[control, shutter, motion], [shutter, control, motion], [shutter, motion, control]]

/-- What a line is if the first test that finds out something decides, with the tests and the
    keywords in the given orders. -/
def classifyBy (tests : List Test) (order : List Keyword) : List Char → Line
  | [] => blank
  | '!' :: _ => skip .comment
  | '#' :: _ => skip .header
  | cs => (tests.findSome? (Test.apply order (Text.upper cs))).getD (skip .unrecognized)

/-- The order in which lines are tested is one of these orders. -/
theorem classify_eq_classifyBy (cs : List Char) :
    classify cs = classifyBy [.control, .shutter, .motion] Keyword.all cs := by
  rw [classify.eq_def, classifyBy.eq_def]
  split <;> try rfl
  simp only [classifyUpper, List.findSome?, Test.apply]
  cases controlWords.find? fun word => word.toList = firstWord (Text.upper cs) with
  | some word => rfl
  | none =>
    cases Text.occursIn opening.toList (Text.upper cs) with
    | true => rfl
    | false =>
      cases Text.occursIn closing.toList (Text.upper cs) with
      | true => rfl
      | false => cases Keyword.all.find? fun k => k.text.toList.isPrefixOf (Text.upper cs) <;> rfl

namespace Test

variable {order : List Keyword} {l : Line}

theorem exists_word_of_apply_control (h : apply order upper control = some l) :
    ∃ word ∈ controlWords, l = skip (.control word) ∧ word.toList = firstWord upper := by
  obtain ⟨word, hword, rfl⟩ := Option.map_eq_some_iff.1 h
  have hfirst := List.find?_some hword
  exact ⟨word, List.mem_of_find?_eq_some hword, rfl, of_decide_eq_true hfirst⟩

/-- A line that begins with a keyword passes for no control line. -/
theorem apply_control_eq_none (h : k.text.toList <+: upper) : apply order upper control = none := by
  cases hl : apply order upper control with
  | none => rfl
  | some l =>
    obtain ⟨word, hmem, -, hword⟩ := exists_word_of_apply_control hl
    exact absurd hword (firstWord_ne_controlWord h word hmem)

theorem exists_opens_of_apply_shutter (h : apply order upper shutter = some l) :
    ∃ opens, l = .shutter opens := by
  rw [apply] at h
  split at h
  · exact ⟨true, (Option.some.inj h).symm⟩
  · split at h
    · exact ⟨false, (Option.some.inj h).symm⟩
    · cases h

theorem apply_shutter_eq_none_iff : apply order upper shutter = none ↔
    ¬ opening.toList <:+: upper ∧ ¬ closing.toList <:+: upper := by
  rw [apply, ← Text.occursIn_iff, ← Text.occursIn_iff]
  split
  · next h => exact iff_of_false nofun fun hnot => hnot.1 h
  · next h =>
    split
    · next h' => exact iff_of_false nofun fun hnot => hnot.2 h'
    · next h' => exact iff_of_true rfl ⟨h, h'⟩

theorem apply_motion_eq_some_iff (horder : order.Perm Keyword.all) :
    apply order upper motion = some (.motion k) ↔ k.text.toList <+: upper := by
  rw [apply, Option.map_eq_some_iff, ← Keyword.find?_prefix_eq_some_iff horder]
  constructor
  · rintro ⟨j, hj, heq⟩
    exact Line.motion.inj heq ▸ hj
  · intro hk
    exact ⟨k, hk, rfl⟩

/-- In whichever of these orders the tests are made, a motion is found where there is nothing about
    the shutter. -/
theorem findSome?_eq_motion_iff {tests : List Test} (htests : tests ∈ arrangements)
    (horder : order.Perm Keyword.all) :
    tests.findSome? (apply order upper) = some (.motion k) ↔
      apply order upper shutter = none ∧ apply order upper motion = some (.motion k) := by
  -- The control words find no motion, and nothing at all where there is one.
  have hcontrol : apply order upper control ≠ some (.motion k) := fun h => by
    obtain ⟨word, -, heq, -⟩ := exists_word_of_apply_control h
    cases heq
  have hnone (h : apply order upper motion = some (.motion k)) : apply order upper control = none :=
    apply_control_eq_none ((apply_motion_eq_some_iff horder).1 h)
  have hshutter : apply order upper shutter ≠ some (.motion k) := fun h => by
    obtain ⟨opens, heq⟩ := exists_opens_of_apply_shutter h
    cases heq
  simp only [arrangements, List.mem_cons, List.not_mem_nil, or_false] at htests
  generalize apply order upper = f at hcontrol hnone hshutter ⊢
  rcases htests with rfl | rfl | rfl <;> grind [List.findSome?]

end Test

/-! ## Motions -/

/-- Whether a line stands for a motion: it is neither blank nor marked, and in upper case it begins
    with the keyword and mentions neither the opening nor the closing of the shutter. -/
structure IsMotion (k : Keyword) (cs : List Char) : Prop where
  not_blank : cs ≠ []
  not_comment : cs.head? ≠ some '!'
  not_header : cs.head? ≠ some '#'
  not_opening : ¬ opening.toList <:+: Text.upper cs
  not_closing : ¬ closing.toList <:+: Text.upper cs
  keyword : k.text.toList <+: Text.upper cs

/-- In whichever of these orders a line is tested, it is a motion by what it is made of. -/
theorem classifyBy_eq_motion_iff {tests : List Test} (htests : tests ∈ Test.arrangements)
    {order : List Keyword} (horder : order.Perm Keyword.all) :
    classifyBy tests order cs = motion k ↔ IsMotion k cs := by
  rw [classifyBy.eq_def]
  split
  · exact iff_of_false nofun fun h => h.not_blank rfl
  · exact iff_of_false nofun fun h => h.not_comment rfl
  · exact iff_of_false nofun fun h => h.not_header rfl
  · next hblank hcomment hheader =>
    have hunrecognized : skip .unrecognized ≠ motion k := nofun
    rw [Option.getD_eq_iff, Test.findSome?_eq_motion_iff htests horder,
      Test.apply_shutter_eq_none_iff, Test.apply_motion_eq_some_iff horder]
    constructor
    · rintro (⟨⟨hopening, hclosing⟩, hk⟩ | ⟨-, h⟩)
      · have hhead {c : Char} (h : ∀ rest, cs = c :: rest → False) : cs.head? ≠ some c := fun hc =>
          let ⟨rest, hrest⟩ := List.head?_eq_some_iff.1 hc
          h rest hrest
        exact ⟨hblank, hhead hcomment, hhead hheader, hopening, hclosing, hk⟩
      · exact absurd h hunrecognized
    · intro h
      exact .inl ⟨⟨h.not_opening, h.not_closing⟩, h.keyword⟩

/-- A control line begins with a control word, which is its first word. -/
theorem firstWord_of_classify (h : classify cs = skip (.control word)) :
    word ∈ controlWords ∧ word.toList = firstWord (Text.upper cs) := by
  rw [classify_eq_classifyBy, classifyBy.eq_def] at h
  split at h
  · cases h
  · cases h
  · cases h
  · obtain hsome | ⟨-, h⟩ := Option.getD_eq_iff.1 h
    · obtain ⟨test, -, htest⟩ := List.exists_of_findSome?_eq_some hsome
      cases test with
      | control =>
        obtain ⟨_, hmem, heq, hword⟩ := Test.exists_word_of_apply_control htest
        cases heq
        exact ⟨hmem, hword⟩
      | shutter =>
        obtain ⟨_, heq⟩ := Test.exists_opens_of_apply_shutter htest
        cases heq
      | motion =>
        obtain ⟨_, -, heq⟩ := Option.map_eq_some_iff.1 htest
        cases heq
    · cases h

/-- A line is a motion with a given keyword just if it is neither blank nor marked, mentions nothing
    about the shutter, and begins with that keyword, and it begins with one keyword at most. So it
    does not matter in which order keywords are tried, nor whether control words are tried before
    or after them. No line that begins with a keyword is a control line, and a control line has its
    word as the longest one that it begins with. -/
theorem classify_motion (cs : List Char) :
    (∀ k, classify cs = motion k ↔ IsMotion k cs) ∧
    (∀ j k : Keyword, j.text.toList <+: Text.upper cs → k.text.toList <+: Text.upper cs → j = k) ∧
    (∀ tests ∈ Test.arrangements, ∀ order, order.Perm Keyword.all → ∀ k,
      classifyBy tests order cs = motion k ↔ classify cs = motion k) ∧
    (∀ (k : Keyword) word, k.text.toList <+: Text.upper cs → classify cs ≠ skip (.control word)) ∧
    ∀ word, classify cs = skip (.control word) → IsFirstWord word.toList (Text.upper cs) := by
  have hmotion (k : Keyword) : classify cs = motion k ↔ IsMotion k cs := by
    rw [classify_eq_classifyBy]
    exact classifyBy_eq_motion_iff (by decide) (.refl _)
  refine ⟨hmotion, fun _ _ => Keyword.eq_of_prefixes, ?_, ?_, ?_⟩
  · intro tests htests order horder k
    rw [hmotion, classifyBy_eq_motion_iff htests horder]
  · intro k word hk hcontrol
    obtain ⟨hmem, hword⟩ := firstWord_of_classify hcontrol
    exact firstWord_ne_controlWord hk word hmem hword
  · intro word hcontrol
    rw [(firstWord_of_classify hcontrol).2]
    exact isFirstWord_firstWord _

/-- The end of a segment is no end of the program, however it is spelled. -/
example : classify "Ends (X,Y)".toList = motion .ends ∧ classify "ends2".toList = motion .ends ∧
    classify "End".toList = skip (.control "END") ∧
    classify "end:ENDS".toList = skip (.control "END") := by
  decide

end Line

end JetPlot
