import Mathlib.Data.List.Chain
import JetPlot.Proofs.Decimal.Numeral
import JetPlot.Proofs.Reading.Precedence
import JetPlot.Toolpath.Trace

/-!
# What log records are about

A record of the tracer is about one thing or another (`Topic`), and a reader of the log tells by a
marker that occurs in its message. Every marker has two characters next to each other that no other
message has, wherever its parts meet (`Topic.Apart`).

* `mentions_record_iff`: the marker of a topic occurs in the messages of its events and no others;
* `filter_tracingLog`: a marker picks the events of its topic out of a log.
-/

namespace JetPlot

/-- Whether a part occurs in the message of a record. -/
def Log.Record.mentions (r : Record) (part : String) : Bool :=
  Text.occursIn part.toList r.message.toList

/-- What a record of the tracer is about. -/
inductive Topic
  /-- A command that is carried out. -/
  | command
  /-- An open path that gives way. -/
  | replaced
  /-- A path that is finished. -/
  | finished
  /-- An arc drawn as a line. -/
  | flattened
  /-- An arc with a radius. -/
  | drawn
  deriving DecidableEq

namespace Topic

/-- The words that tell a topic. -/
def marker : Topic → String
  | command => "Cmd["
  | replaced => "Dropping"
  | finished => "Finalize"
  | flattened => "undefined radius"
  | drawn => "radius="

/-- Two neighbours in the marker that are none in the messages of other topics. -/
def telltale : Topic → Char × Char
  | command => ('d', '[')
  | replaced => ('r', 'o')
  | finished => ('i', 'z')
  | flattened => ('u', 'n')
  | drawn => ('s', '=')

variable {k : Topic} {s t : String}

/-- Whether a text, put among others, cannot make up the marker with them. -/
def Apart (k : Topic) (s : String) : Prop :=
  s.toList.head? ≠ some k.telltale.2 ∧
    s.toList.IsChain fun a b => a = k.telltale.1 → b ≠ k.telltale.2

instance (k : Topic) (s : String) : Decidable (k.Apart s) :=
  inferInstanceAs (Decidable (_ ∧ _))

theorem Apart.append (h : k.Apart s) (ht : k.Apart t) : k.Apart (s ++ t) := by
  obtain ⟨hhead, hchain⟩ := h
  obtain ⟨hhead', hchain'⟩ := ht
  rw [Apart, String.toList_append]
  refine ⟨?_, hchain.append hchain' fun a _ b hb _ hsecond => hhead' (hsecond ▸ hb)⟩
  cases hs : s.toList with
  | nil => exact hhead'
  | cons c cs =>
    rw [hs] at hhead
    exact hhead

theorem telltale_infix (k : Topic) : [k.telltale.1, k.telltale.2] <:+: k.marker.toList := by
  cases k <;> decide

/-- Whether the marker occurs in a text. -/
def Marks (k : Topic) (s : String) : Prop := k.marker.toList <:+: s.toList

instance (k : Topic) (s : String) : Decidable (k.Marks s) :=
  inferInstanceAs (Decidable (_ <:+: _))

theorem Marks.append (h : k.Marks s) (t : String) : k.Marks (s ++ t) := by
  rw [Marks, String.toList_append]
  exact List.infix_append_of_infix_left h

theorem Marks.behind (h : k.Marks t) (s : String) : k.Marks (s ++ t) := by
  rw [Marks, String.toList_append]
  exact List.infix_append_of_infix_right h

theorem Apart.not_marks (h : k.Apart s) : ¬ k.Marks s := fun hmarker => by
  have hpair := List.IsChain.infix h.2 (k.telltale_infix.trans hmarker)
  exact List.isChain_pair.1 hpair rfl rfl

/-! ## Numbers -/

theorem apart_of_numeric {cs : List Char} (h : ∀ c ∈ cs, c.isDigit ∨ c = '-' ∨ c = '.') :
    k.Apart (String.ofList cs) := by
  have hsecond : ∀ c ∈ cs, c ≠ k.telltale.2 := by
    rintro c hc rfl
    have := h _ hc
    revert this
    cases k <;> decide
  have hpairwise : cs.Pairwise fun a b => a = k.telltale.1 → b ≠ k.telltale.2 :=
    List.pairwise_of_forall_mem_list fun _ _ b hb _ => hsecond b hb
  rw [Apart, String.toList_ofList]
  exact ⟨fun hhead => hsecond _ (List.mem_of_head? hhead) rfl, hpairwise.isChain⟩

theorem apart_toString (k : Topic) (n : Nat) : k.Apart (toString n) := by
  rw [Nat.toString_eq_ofList_toDigits]
  exact apart_of_numeric fun c hc => .inl ((isDigits_digitChars n).2 c hc)

theorem apart_plain (k : Topic) (x : Float) : k.Apart (Style.plain.text x) := by
  have hwords : ∀ word ∈ ["NaN", "-inf", "inf"], k.Apart (String.ofList word.toList) := by
    cases k <;> decide
  rw [Style.text, Style.chars]
  split
  · next d _ => exact apart_of_numeric fun c hc => (isNumeral_decimalChars_plain d).mem hc
  · split
    · exact hwords "NaN" (by decide)
    · split
      · exact hwords "-inf" (by decide)
      · exact hwords "inf" (by decide)

theorem apart_fixed (k : Topic) (places : Nat) (x : Float) : k.Apart (Decimal.fixed places x) := by
  -- With some places behind the point, a number has a sign, digits and a point.
  have hlayout (negative : Bool) (scaled before : Nat) : k.Apart (String.ofList
      ((if negative then ['-'] else []) ++ (Decimal.paddedDigits (places + 1) scaled).take before ++
        '.' :: (Decimal.paddedDigits (places + 1) scaled).drop before)) := by
    have hdigits : ∀ c ∈ Decimal.paddedDigits (places + 1) scaled, c.isDigit := by
      intro c hc
      rcases List.mem_append.1 hc with hc | hc
      exacts [isDigit_of_mem_replicate hc, (isDigits_digitChars scaled).2 c hc]
    refine apart_of_numeric fun c hc => ?_
    rw [List.append_assoc, List.mem_append, List.mem_append, List.mem_cons] at hc
    rcases hc with hc | hc | rfl | hc
    · cases negative with
      | true => exact .inr (.inl (List.mem_singleton.1 hc))
      | false => exact absurd hc List.not_mem_nil
    · exact .inl (hdigits c (List.mem_of_mem_take hc))
    · exact .inr (.inr rfl)
    · exact .inl (hdigits c (List.mem_of_mem_drop hc))
  rw [Decimal.fixed]
  split
  · exact hlayout ..
  · exact hlayout ..
  · exact apart_plain k x

theorem apart_point (k : Topic) (p : Point) : k.Apart p.text := by
  have hmarks : ∀ mark ∈ ["(", ", ", ")"], k.Apart mark := by cases k <;> decide
  simp only [List.forall_mem_cons] at hmarks
  obtain ⟨hopen, hcomma, hclose, -⟩ := hmarks
  exact (((hopen.append (apart_plain k _)).append hcomma).append (apart_plain k _)).append hclose

theorem apart_command (k : Topic) (c : Command) : k.Apart c.text := by
  have hmarks : ∀ mark ∈ ["", " ", " angle="], k.Apart mark := by cases k <;> decide
  simp only [List.forall_mem_cons] at hmarks
  obtain ⟨hnil, hspace, hangle, -⟩ := hmarks
  have hkeyword : k.Apart c.keyword.text := by cases c.keyword <;> cases k <;> decide
  rw [Command.text]
  refine (hkeyword.append ?_).append ?_
  · cases c.point with
    | none => exact hnil
    | some p => exact hspace.append (apart_point k p)
  · cases c.angle with
    | none => exact hnil
    | some angle => exact hangle.append (apart_plain k angle)

end Topic

/-! ## Messages -/

/-- What an event of the tracer is about. An arc that is left out has no topic of its own. -/
def TraceEvent.topic? : TraceEvent → Option Topic
  | step .. => some .command
  | arcSkipped .. => none
  | arcDrawn .. => some .drawn
  | arcFlattened .. => some .flattened
  | replaced _ => some .replaced
  | finished .. => some .finished

/-- An event of another topic does not mention a marker. -/
theorem TraceEvent.apart_message {e : TraceEvent} {k : Topic} (h : e.topic? ≠ some k) :
    k.Apart e.message := by
  have hnumber := k.apart_toString
  cases e with
  | step index s =>
    have hmarks : k.Apart "Cmd[" ∧ k.Apart "]: " ∧ k.Apart " shutter=" := by
      cases k <;> first | exact absurd rfl h | decide +kernel
    have hshutter : k.Apart (toString s.shutterOpen) := by
      cases s.shutterOpen <;> cases k <;> decide +kernel
    obtain ⟨hbefore, hbehind, hlast⟩ := hmarks
    exact ((((hbefore.append (hnumber index)).append hbehind).append
      (k.apart_command s.command)).append hlast).append hshutter
  | arcSkipped index target cursor =>
    have hmarks : k.Apart "Arc[" ∧ k.Apart "]: no usable angle, skipping arc to " ∧
        k.Apart " and holding cursor at " := by cases k <;> decide +kernel
    obtain ⟨hbefore, hbehind, hlast⟩ := hmarks
    exact ((((hbefore.append (hnumber index)).append hbehind).append
      (k.apart_point target)).append hlast).append (k.apart_point cursor)
  | arcDrawn index radius =>
    have hmarks : k.Apart "Arc[" ∧ k.Apart "]: radius=" := by
      cases k <;> first | exact absurd rfl h | decide +kernel
    obtain ⟨hbefore, hbehind⟩ := hmarks
    exact ((hbefore.append (hnumber index)).append hbehind).append (k.apart_fixed 4 radius)
  | arcFlattened index angle =>
    have hmarks : k.Apart "Arc[" ∧ k.Apart "]: undefined radius for angle=" ∧ k.Apart ", " ∧
        k.Apart "treating as line segment" := by
      cases k <;> first | exact absurd rfl h | decide +kernel
    obtain ⟨hbefore, hbehind, hcomma, hlast⟩ := hmarks
    exact ((((hbefore.append (hnumber index)).append hbehind).append
      (k.apart_plain angle)).append hcomma).append hlast
  | replaced size =>
    have hmarks : k.Apart "Dropping open implicit path with " ∧ k.Apart " ops" := by
      cases k <;> first | exact absurd rfl h | decide +kernel
    obtain ⟨hbefore, hbehind⟩ := hmarks
    exact (hbefore.append (hnumber size)).append hbehind
  | finished segment size printing =>
    have hmarks : k.Apart "Finalize " ∧ k.Apart " path with " ∧ k.Apart " ops as " := by
      cases k <;> first | exact absurd rfl h | decide +kernel
    have hsegment : k.Apart (if segment then "explicit" else "implicit") := by
      cases segment <;> cases k <;> decide +kernel
    have hprinting : k.Apart (if printing then "printing" else "rapid") := by
      cases printing <;> cases k <;> decide +kernel
    obtain ⟨hbefore, hbehind, hlast⟩ := hmarks
    exact ((hbefore.append hsegment).append
      ((hbehind.append (hnumber size)).append hlast)).append hprinting

/-- An event of a topic mentions its marker. -/
theorem TraceEvent.marks_message {e : TraceEvent} {k : Topic} (h : e.topic? = some k) :
    k.Marks e.message := by
  cases e with
  | arcSkipped => cases h
  | step index s =>
    cases h
    have hmark : Topic.command.Marks "Cmd[" := List.infix_refl _
    exact ((((hmark.append _).append _).append _).append _).append _
  | arcDrawn index radius =>
    cases h
    have hmark : Topic.drawn.Marks "]: radius=" := by decide +kernel
    exact (hmark.behind _).append _
  | arcFlattened index angle =>
    cases h
    have hmark : Topic.flattened.Marks "]: undefined radius for angle=" := by decide +kernel
    exact (((hmark.behind _).append _).append _).append _
  | replaced size =>
    cases h
    have hmark : Topic.replaced.Marks "Dropping open implicit path with " := by decide +kernel
    exact (hmark.append _).append _
  | finished segment size printing =>
    cases h
    have hmark : Topic.finished.Marks "Finalize " := by decide +kernel
    exact ((hmark.append _).append _).append _

namespace Topic

/-- The marker of a topic occurs in the messages of its events and in no others. -/
theorem mentions_record_iff (k : Topic) (e : TraceEvent) :
    e.record.mentions k.marker ↔ e.topic? = some k := by
  rw [Log.Record.mentions, Text.occursIn_iff]
  refine ⟨fun hmarks => by_contra fun h => ?_, TraceEvent.marks_message⟩
  exact (TraceEvent.apart_message h).not_marks hmarks

/-- The counts at the end of a trace mention no marker. -/
theorem apart_summary (k : Topic) (s : Stats) : k.Apart (Toolpath.summary s) := by
  have hmarks : ∀ mark ∈ ["Trace complete: ", " printing, ", " rapid, ", " discarded, ",
      " replaced, ", " arcs (", " degenerate, ", " skipped)"], k.Apart mark := by
    cases k <;> decide +kernel
  simp only [List.forall_mem_cons] at hmarks
  obtain ⟨hopening, hprinting, hrapid, hdiscarded, hreplaced, harcs, hdegenerate, hskipped, -⟩ :=
    hmarks
  have hnumber := k.apart_toString
  have hpaths := (((((hopening.append (hnumber s.printing)).append hprinting).append
    (hnumber s.rapid)).append hrapid).append (hnumber s.discarded)).append hdiscarded
  have harcs := ((hnumber s.replaced).append hreplaced).append (hnumber s.arcs) |>.append harcs
  have hothers := ((harcs.append (hnumber s.degenerate)).append hdegenerate).append
    (hnumber s.skippedArcs) |>.append hskipped
  exact hpaths.append hothers

/-- The marker of a topic picks the records of its events out of the log of a trace. -/
theorem filter_tracingLog (k : Topic) (p : Program) :
    (Toolpath.tracingLog p).filter (·.mentions k.marker) =
      ((Outcome.ofProgram p).events.filter (·.topic? = some k)).map TraceEvent.record := by
  have hsummary : (⟨.debug, .toolpath, Toolpath.summary (Outcome.ofProgram p).stats⟩ :
      Log.Record).mentions k.marker = false := by
    rw [← Bool.not_eq_true, Log.Record.mentions, Text.occursIn_iff]
    exact (k.apart_summary _).not_marks
  have hevents : (fun r : Log.Record => r.mentions k.marker) ∘ TraceEvent.record =
      fun e => decide (e.topic? = some k) :=
    funext fun e => Bool.eq_iff_iff.2 ((k.mentions_record_iff e).trans decide_eq_true_iff.symm)
  simp only [Toolpath.tracingLog]
  rw [List.filter_append, List.filter_map, hevents,
    List.filter_cons_of_neg (by simpa using hsummary), List.filter_nil, List.append_nil]

end Topic

end JetPlot
