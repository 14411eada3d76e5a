import JetPlot.Program.Reading

/-!
# Fates of lines

No line of a program text is lost, and none counts twice. What becomes of a line is
its `Fate`: it is blank, opens or closes the shutter, holds a command or is skipped.
A line tells its fate on its own (`Fate.ofLine`). Each fate also has some numbers of
lines (`Fate.numbers`): for blank lines and those about the shutter they come from
the text, for the others from the program that the text stands for.

* `numbers_ofLines`: the numbers of a fate are those of the lines that meet it;
* `fates_ofText`: every line of a text meets one fate, once.
-/

namespace JetPlot

/-- What becomes of a line of a program text. -/
inductive Fate
  /-- There is nothing but white space in the line. -/
  | blank
  /-- The line opens or closes the shutter. -/
  | toggle
  /-- The line holds a command. -/
  | command
  /-- The line is skipped. -/
  | skipped
  deriving DecidableEq

/-- The new state of the shutter if a line opens or closes it. -/
def Line.opens? : Line → Option Bool
  | shutter opens => some opens
  | _ => none

/-- What becomes of a trimmed line. -/
def Fate.ofLine (line : List Char) : Fate :=
  match Line.classify line with
  | .blank => blank
  | .skip _ => skipped
  | .shutter _ => toggle
  | .motion keyword =>
    -- A motion without the point that it needs holds no command.
    if keyword.needsPoint && (Parameters.read line).point.isNone then skipped else command

/-- The numbers of the lines that meet a condition, counted from the given one on. -/
def Text.numbersWhere (q : List Char → Bool) (first : Nat) (lines : List (List Char)) : List Nat :=
  ((lines.zipIdx first).filter fun line => q line.1).map Prod.snd

/-- The numbers of the lines that meet a fate, if the given lines, counted from the
    given number on, stand for the given program. -/
def Fate.numbers (first : Nat) (lines : List (List Char)) (p : Program) : Fate → List Nat
  | blank => Text.numbersWhere (fun raw => (Text.trim raw).isEmpty) first lines
  | toggle =>
    Text.numbersWhere (fun raw => (Line.classify (Text.trim raw)).opens?.isSome) first lines
  | command => p.commands.map Command.lineNumber
  | skipped => p.skipped.map SkippedLine.number

/-! ## Numbers of lines -/

namespace Text

variable (q : List Char → Bool) (first : Nat)

theorem numbersWhere_singleton (raw : List Char) :
    numbersWhere q first [raw] = if q raw then [first] else [] := by
  rw [numbersWhere, List.zipIdx_singleton, List.filter_cons]
  cases q raw <;> rfl

theorem numbersWhere_cons (raw : List Char) (rest : List (List Char)) :
    numbersWhere q first (raw :: rest) =
      numbersWhere q first [raw] ++ numbersWhere q (first + 1) rest := by
  rw [numbersWhere_singleton, numbersWhere, List.zipIdx_cons, List.filter_cons]
  cases q raw <;> rfl

theorem numbersWhere_sublist (lines : List (List Char)) :
    (numbersWhere q first lines).Sublist (List.range' first lines.length) := by
  rw [← List.zipIdx_map_snd]
  exact List.filter_sublist.map Prod.snd

/-- The number of a line occurs once if the line meets the condition. -/
theorem count_numbersWhere (lines : List (List Char)) {i : Nat} (h : i < lines.length) :
    (numbersWhere q first lines).count (first + i) = if q lines[i] then 1 else 0 := by
  induction lines generalizing first i with
  | nil => exact absurd h (Nat.not_lt_zero i)
  | cons raw rest ih =>
    rw [numbersWhere_cons, numbersWhere_singleton, List.count_append]
    cases i with
    | zero =>
      -- The numbers of the later lines are greater.
      have hrest : (numbersWhere q (first + 1) rest).count first = 0 := by
        refine List.count_eq_zero.2 fun hmem => ?_
        have := List.mem_range'_1.1 ((numbersWhere_sublist q (first + 1) rest).subset hmem)
        omega
      rw [Nat.add_zero, hrest, List.getElem_cons_zero]
      cases q raw <;> simp
    | succ i =>
      have hi := ih (first + 1) (Nat.lt_of_succ_lt_succ h)
      rw [Nat.add_right_comm, Nat.add_assoc] at hi
      rw [hi, List.getElem_cons_succ]
      cases q raw <;> simp

theorem length_numbersWhere (lines : List (List Char)) :
    (numbersWhere q first lines).length = lines.countP q := by
  induction lines generalizing first with
  | nil => rfl
  | cons raw rest ih =>
    rw [numbersWhere_cons, numbersWhere_singleton, List.length_append, ih, List.countP_cons]
    cases q raw <;> simp [Nat.add_comm]

end Text

/-! ## Reading -/

theorem Line.classifyUpper_ne_blank (upper : List Char) : classifyUpper upper ≠ blank := by
  rw [classifyUpper]
  split
  · exact nofun
  · split
    · exact nofun
    · split
      · exact nofun
      · split <;> exact nofun

/-- A line is blank only if there is nothing in it. -/
theorem Line.isEmpty_eq_decide (cs : List Char) : cs.isEmpty = decide (classify cs = blank) := by
  rw [Bool.eq_iff_iff, List.isEmpty_iff, decide_eq_true_iff]
  refine ⟨fun h => by rw [h]; rfl, fun h => ?_⟩
  rw [classify.eq_def] at h
  split at h
  · rfl
  · cases h
  · cases h
  · exact absurd h (classifyUpper_ne_blank _)

theorem Reading.lineNumber_of_command? {number : Nat} {keyword : Keyword} {line : List Char}
    {c : Command} (h : command? number keyword line = some c) : c.lineNumber = number := by
  simp only [command?] at h
  split at h <;> cases h <;> rfl

/-- A motion line holds no command only if it lacks the point that it needs. -/
theorem Reading.command?_eq_none_iff (number : Nat) (keyword : Keyword) (line : List Char) :
    command? number keyword line = none ↔
      keyword.needsPoint && (Parameters.read line).point.isNone := by
  simp only [command?]
  cases (Parameters.read line).point <;> cases keyword <;> simp [Keyword.needsPoint]

/-- The numbers that a line adds to those of the lines after it. -/
theorem Fate.numbers_cons (first : Nat) (raw : List Char) (rest : List (List Char))
    (r s : Reading) (f : Fate) :
    Fate.numbers first (raw :: rest) (Program.ofReading (r ++ s)) f =
      Fate.numbers first [raw] (Program.ofReading r) f ++
        Fate.numbers (first + 1) rest (Program.ofReading s) f := by
  cases f with
  | blank | toggle => rw [numbers, Text.numbersWhere_cons]; rfl
  | command => simp [Fate.numbers, Program.ofReading, Program.commands]
  | skipped => simp [Fate.numbers, Program.ofReading]

theorem Fate.numbers_singleton (number : Nat) (raw : List Char) (r : Reading) (f : Fate) :
    Fate.numbers number [raw] (Program.ofReading r) f = match f with
      | blank => if Line.classify (Text.trim raw) = .blank then [number] else []
      | toggle => if (Line.classify (Text.trim raw)).opens?.isSome then [number] else []
      | command => r.steps.map fun s => s.command.lineNumber
      | skipped => r.skipped.map SkippedLine.number := by
  cases f with
  | blank =>
    simp only [numbers, Text.numbersWhere, List.zipIdx_singleton, List.filter_cons, List.filter_nil,
      Line.isEmpty_eq_decide, decide_eq_true_iff]
    split <;> rfl
  | toggle =>
    simp only [numbers, Text.numbersWhere, List.zipIdx_singleton, List.filter_cons, List.filter_nil]
    split <;> rfl
  | command => simp [numbers, Program.ofReading, Program.commands]
  | skipped => rfl

/-- Every line meets its fate, whatever the state of the shutter. -/
theorem Fate.numbers_ofLine (shutterOpen : Bool) (number : Nat) (raw : List Char) (f : Fate) :
    Fate.numbers number [raw] (Program.ofReading (Reading.ofLine shutterOpen number
      (Text.trim raw) (Line.classify (Text.trim raw)))) f =
      if f = Fate.ofLine (Text.trim raw) then [number] else [] := by
  rw [numbers_singleton, Fate.ofLine]
  cases Line.classify (Text.trim raw) with
  | blank => cases f <;> rfl
  | skip reason => cases f <;> rfl
  | shutter opens => cases f <;> rfl
  | motion keyword =>
    have hnone := Reading.command?_eq_none_iff number keyword (Text.trim raw)
    cases hc : Reading.command? number keyword (Text.trim raw) with
    | none =>
      have hlacks := hnone.1 hc
      cases f <;> simp [Reading.ofLine, hc, hlacks, Line.opens?]
    | some c =>
      have hnumber := Reading.lineNumber_of_command? hc
      have hlacks :
          (keyword.needsPoint && (Parameters.read (Text.trim raw)).point.isNone) = false :=
        Bool.eq_false_iff.2 fun h => by rw [hnone.2 h] at hc; cases hc
      cases f <;> simp [Reading.ofLine, hc, hnumber, hlacks, Line.opens?]

/-- The numbers of a fate are those of the lines that meet it. -/
theorem Fate.numbers_ofLines (shutterOpen : Bool) (first : Nat) (lines : List (List Char))
    (f : Fate) :
    Fate.numbers first lines (Program.ofReading (Reading.ofLines shutterOpen first lines)) f =
      Text.numbersWhere (fun raw => f = Fate.ofLine (Text.trim raw)) first lines := by
  induction lines generalizing shutterOpen first with
  | nil => cases f <;> rfl
  | cons raw rest ih =>
    -- The fates of the later lines do not depend on the shutter that they are handed.
    rw [Reading.ofLines_cons, numbers_cons, ih, numbers_ofLine, Text.numbersWhere_cons,
      Text.numbersWhere_singleton]
    simp only [decide_eq_true_iff]

theorem Fate.numbers_subset (shutterOpen : Bool) (first : Nat) (lines : List (List Char))
    (f : Fate) :
    Fate.numbers first lines (Program.ofReading (Reading.ofLines shutterOpen first lines)) f ⊆
      List.range' first lines.length := by
  rw [numbers_ofLines]
  exact (Text.numbersWhere_sublist _ first lines).subset

/-- There are as many lines as fates that they meet. -/
theorem Fate.countP_add_countP (lines : List (List Char)) :
    lines.countP (fun raw => command = Fate.ofLine (Text.trim raw)) +
        lines.countP (fun raw => skipped = Fate.ofLine (Text.trim raw)) +
        lines.countP (fun raw => toggle = Fate.ofLine (Text.trim raw)) +
        lines.countP (fun raw => blank = Fate.ofLine (Text.trim raw)) =
      lines.length := by
  induction lines with
  | nil => rfl
  | cons raw rest ih =>
    simp only [List.countP_cons, List.length_cons]
    cases Fate.ofLine (Text.trim raw) <;> simp <;> omega

/-- No line of a text is lost, and none counts twice: every line meets its fate, and
    no other one, once. Each fate has the numbers of its lines in order, and together
    there are as many of them as lines. Every command has its state of the shutter. -/
theorem fates_ofText (text : String) :
    let lines := Text.lines text.toList
    let p := Program.ofText text
    (∀ (i : Fin lines.length) (f : Fate), (Fate.numbers 1 lines p f).count (i.val + 1) =
      if f = Fate.ofLine (Text.trim lines[i]) then 1 else 0) ∧
    (∀ f, (Fate.numbers 1 lines p f).Pairwise (· < ·) ∧
      Fate.numbers 1 lines p f ⊆ List.range' 1 lines.length) ∧
    p.commands.length + p.skipped.length + (Fate.numbers 1 lines p .toggle).length +
      (Fate.numbers 1 lines p .blank).length = lines.length ∧
    p.flags.length = p.commands.length := by
  intro lines p
  have hnumbers : ∀ f, Fate.numbers 1 lines p f =
      Text.numbersWhere (fun raw => f = Fate.ofLine (Text.trim raw)) 1 lines :=
    Fate.numbers_ofLines false 1 lines
  refine ⟨fun i f => ?_, fun f => ⟨?_, Fate.numbers_subset false 1 lines f⟩, ?_, ?_⟩
  · rw [hnumbers, Nat.add_comm, Text.count_numbersWhere _ 1 lines i.isLt]
    simp only [decide_eq_true_iff]
    rfl
  · rw [hnumbers]
    exact List.Pairwise.sublist (Text.numbersWhere_sublist _ 1 lines) List.pairwise_lt_range'
  · have hcommands : p.commands.length = (Fate.numbers 1 lines p .command).length :=
      (List.length_map _).symm
    have hskipped : p.skipped.length = (Fate.numbers 1 lines p .skipped).length :=
      (List.length_map _).symm
    rw [hcommands, hskipped, hnumbers, hnumbers, hnumbers, hnumbers, Text.length_numbersWhere,
      Text.length_numbersWhere, Text.length_numbersWhere, Text.length_numbersWhere]
    exact Fate.countP_add_countP lines
  · rw [Program.flags, Program.commands, List.length_map, List.length_map]

end JetPlot
