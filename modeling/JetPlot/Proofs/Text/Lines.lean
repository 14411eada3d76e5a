import Mathlib.Data.List.Induction
import JetPlot.Text.Blank
import JetPlot.Text.Lines

/-!
# Lines of joined texts

What follows a text begins a new line if the text is empty or ends with a newline
(`Text.endsLine`). Then the lines of both are simply those of the one and those of the
other. A newline put at the end of any text has the same effect, and changes the lines of
the text in no way that matters: a carriage return may vanish from its last line, or an
empty line may follow it.

* `lines_append`: the lines of a text that ends its last line, and of what follows it;
* `lines_newline`: what a newline at its end makes of the lines of a text.
-/

namespace JetPlot.Text

/-- Whether a text is empty or ends with a newline, so that whatever follows it begins a
    new line. -/
def endsLine (cs : List Char) : Bool := cs.getLast?.all fun c => c = '\n'

variable {cs : List Char} {c : Char}

theorem endsLine_concat : endsLine (cs ++ [c]) = decide (c = '\n') := by
  rw [endsLine, List.getLast?_concat, Option.all_some]

theorem endsLine_of_cons (h : endsLine (c :: cs)) : endsLine cs := by
  cases cs with
  | nil => rfl
  | cons d ds => rwa [endsLine, List.getLast?_cons_cons] at h

/-! ## One character more -/

theorem pushChar_ne_nil (ls : List (List Char)) : pushChar c ls ≠ [] := by
  cases ls <;> exact List.cons_ne_nil _ _

theorem pushChar_append {ls : List (List Char)} (h : ls ≠ []) (ms : List (List Char)) :
    pushChar c (ls ++ ms) = pushChar c ls ++ ms := by
  obtain ⟨line, rest, rfl⟩ := List.exists_cons_of_ne_nil h
  rfl

theorem lines_ne_nil (h : cs ≠ []) : lines cs ≠ [] := by
  fun_cases lines cs with
  | case1 => exact absurd rfl h
  | case2 | case3 => exact List.cons_ne_nil _ _
  | case4 => exact pushChar_ne_nil _

/-- A character that ends no line, not even together with the next one, belongs to the
    first line. -/
theorem lines_cons (hc : c ≠ '\n') (hcs : c = '\r' → cs.head? ≠ some '\n') :
    lines (c :: cs) = pushChar c (lines cs) := by
  rw [lines]
  · rintro ds rfl rfl
    exact hcs rfl rfl
  · exact hc

/-! ## Texts one after the other -/

/-- The lines of a text that ends its last line, and of what follows it. -/
theorem lines_append (h : endsLine cs) (ds : List Char) :
    lines (cs ++ ds) = lines cs ++ lines ds := by
  fun_induction lines cs with
  | case1 => rfl
  | case2 cs ih =>
    have hlines := ih (endsLine_of_cons (endsLine_of_cons h))
    exact congrArg ([] :: ·) hlines
  | case3 cs ih =>
    have hlines := ih (endsLine_of_cons h)
    exact congrArg ([] :: ·) hlines
  | case4 c cs hreturn hnewline ih =>
    -- Something stands behind the character, since it does not end a line itself.
    cases cs with
    | nil => exact absurd (of_decide_eq_true h) hnewline
    | cons d cs =>
      have hlines := ih (endsLine_of_cons h)
      rw [List.cons_append, lines_cons hnewline, hlines,
        pushChar_append (lines_ne_nil (List.cons_ne_nil d cs))]
      rintro rfl hd
      obtain rfl := Option.some.inj hd
      exact hreturn cs rfl rfl

/-- A text without a newline is one line, if it is a line at all. -/
theorem lines_of_not_mem (h : '\n' ∉ cs) : lines cs = if cs = [] then [] else [cs] := by
  induction cs with
  | nil => rfl
  | cons c cs ih =>
    obtain ⟨hc, hcs⟩ := not_or.1 (List.mem_cons.not.1 h)
    rw [lines_cons (Ne.symm hc) fun _ hhead => hcs (List.mem_of_head? hhead), ih hcs,
      if_neg (List.cons_ne_nil c cs)]
    cases cs <;> rfl

/-- A newline makes one line of a text without newlines, and may take a carriage return
    off its end. -/
theorem lines_concat_newline (h : '\n' ∉ cs) :
    lines (cs ++ ['\n']) = [cs] ∨ ∃ ds, cs = ds ++ ['\r'] ∧ lines (cs ++ ['\n']) = [ds] := by
  induction cs with
  | nil => exact .inl rfl
  | cons c cs ih =>
    obtain ⟨hc, hcs⟩ := not_or.1 (List.mem_cons.not.1 h)
    by_cases hlast : c = '\r' ∧ cs = []
    · obtain ⟨rfl, rfl⟩ := hlast
      exact .inr ⟨[], rfl, rfl⟩
    · have hlines : lines (c :: cs ++ ['\n']) = pushChar c (lines (cs ++ ['\n'])) := by
        refine lines_cons (Ne.symm hc) fun hr hhead => ?_
        cases cs with
        | nil => exact hlast ⟨hr, rfl⟩
        | cons d cs =>
          obtain rfl := Option.some.inj hhead
          exact hcs List.mem_cons_self
      rw [hlines]
      rcases ih hcs with ih | ⟨ds, rfl, ih⟩
      · exact .inl (congrArg (pushChar c) ih)
      · exact .inr ⟨c :: ds, rfl, congrArg (pushChar c) ih⟩

/-! ## White space at the end of a line -/

theorem skipBlanks_cons (h : isBlank c) (cs : List Char) : skipBlanks (c :: cs) = skipBlanks cs :=
  List.dropWhile_cons_of_pos h

theorem trim_concat (h : isBlank c) (cs : List Char) : trim (cs ++ [c]) = trim cs := by
  have hskip : skipBlanks (cs ++ [c]) =
      if (skipBlanks cs).isEmpty then skipBlanks [c] else skipBlanks cs ++ [c] :=
    List.dropWhile_append
  rw [trim, trim, hskip]
  split
  · next hempty => rw [List.isEmpty_iff.1 hempty, skipBlanks_cons h]; rfl
  · rw [List.reverse_concat, skipBlanks_cons h]

/-- A newline makes one line of a text without newlines, which is the same when trimmed. -/
theorem exists_lines_concat_newline (h : '\n' ∉ cs) :
    ∃ line, lines (cs ++ ['\n']) = [line] ∧ trim line = trim cs := by
  rcases lines_concat_newline h with hlines | ⟨ds, rfl, hlines⟩
  · exact ⟨cs, hlines, rfl⟩
  · exact ⟨ds, hlines, (trim_concat (by decide) ds).symm⟩

/-! ## A newline at the end of a text -/

/-- The last line of a text begins where the text before it ends a line. -/
theorem exists_endsLine_append (cs : List Char) :
    ∃ ds line, cs = ds ++ line ∧ endsLine ds ∧ '\n' ∉ line := by
  induction cs using List.reverseRecOn with
  | nil => exact ⟨[], [], rfl, rfl, List.not_mem_nil⟩
  | append_singleton cs c ih =>
    by_cases hc : c = '\n'
    · have hends : endsLine (cs ++ [c]) := by rw [endsLine_concat, hc]; rfl
      exact ⟨cs ++ [c], [], (List.append_nil _).symm, hends, List.not_mem_nil⟩
    · obtain ⟨ds, line, rfl, hds, hline⟩ := ih
      refine ⟨ds, line ++ [c], List.append_assoc .., hds, ?_⟩
      rw [List.mem_append, List.mem_singleton]
      exact not_or.2 ⟨hline, Ne.symm hc⟩

/-- A newline at the end of a text adds an empty line, or leaves all lines as they are but for
    white space at the end of the last one. -/
theorem lines_newline (cs : List Char) :
    lines (cs ++ ['\n']) = lines cs ++ [[]] ∨
      ∃ before raw line, lines cs = before ++ [raw] ∧ lines (cs ++ ['\n']) = before ++ [line] ∧
        trim line = trim raw := by
  obtain ⟨ds, raw, rfl, hds, hraw⟩ := exists_endsLine_append cs
  obtain ⟨line, hline, htrim⟩ := exists_lines_concat_newline hraw
  rw [List.append_assoc, lines_append hds, lines_append hds, lines_of_not_mem hraw]
  split
  · next hnil =>
    rw [hnil, List.append_nil]
    exact .inl rfl
  · exact .inr ⟨lines ds, raw, line, rfl, by rw [hline], htrim⟩

end JetPlot.Text
