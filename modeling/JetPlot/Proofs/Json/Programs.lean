import JetPlot.Program.Json
import JetPlot.Proofs.Json.Records

/-!
# Written programs in JSON

A program is read back from its JSON text, in either layout, if its numbers are finite, are read
back from their numerals (`Json.ReadsBack`), and fit into 64 bits where they count lines
(`Program.Storable`). Whatever text a program is read from, the lists of its commands and of its
states of the shutter are those of the text, which are equally long; if they are not, the text is
rejected.

* `ofJsonText_toJson`: writing and reading programs, and the check of the lengths.
-/

namespace JetPlot

/-- The numbers that a command has besides the number of its line. -/
def Command.numbers (c : Command) : List Float :=
  c.point.elim [] (fun q => [q.x, q.y]) ++ c.angle.toList ++ c.speed.toList

/-- Whether all numbers of a program have JSON numerals that are read back. -/
structure Program.Storable (p : Program) : Prop where
  /-- The numbers of the commands are finite, and read back. -/
  numbers : ∀ c ∈ p.commands, ∀ x ∈ c.numbers, x.isFinite ∧ Json.ReadsBack x
  /-- The numbers of lines fit into 64 bits. -/
  lineNumber : ∀ c ∈ p.commands, c.lineNumber < UInt64.size
  /-- So do those of the skipped lines. -/
  skipped : ∀ s ∈ p.skipped, s.number < UInt64.size

/-! ## Values -/

theorem Point.ofJson?_toJson {q : Point} (hx : q.x.isFinite ∧ Json.ReadsBack q.x)
    (hy : q.y.isFinite ∧ Json.ReadsBack q.y) : ofJson? q.toJson = some q := by
  have hread : Json.Record.read? ["x", "y"] 2 q.toJson =
      some ⟨[("x", .ofFloat q.x), ("y", .ofFloat q.y)]⟩ := Json.Record.read?_ofEntries (by simp) 2
  rw [ofJson?, hread]
  change (Json.float? (.ofFloat q.x)).bind (fun x => (Json.float? (.ofFloat q.y)).bind
    fun y => some ⟨x, y⟩) = some q
  rw [Json.float?_ofFloat hx.1 hx.2, Json.float?_ofFloat hy.1 hy.2]
  rfl

theorem Keyword.ofJson?_toJson (k : Keyword) : ofJson? k.toJson = some k := by
  cases k <;> rfl

theorem SkipReason.ofJson?_toJson (r : SkipReason) : ofJson? r.toJson = some r := by
  cases r with
  | comment | header | unrecognized => rfl
  | control word => rfl
  | missingPoint keyword => cases keyword <;> rfl

/-- A command is read back from its fields, those included that are missing. -/
theorem Command.ofJson?_toJson {c : Command}
    (hnumbers : ∀ x ∈ c.numbers, x.isFinite ∧ Json.ReadsBack x)
    (hline : c.lineNumber < UInt64.size) : ofJson? c.toJson = some c := by
  have hfloat {x : Float} (hx : x ∈ c.numbers) :
      Json.ofFloat x ≠ .null ∧ Json.float? (.ofFloat x) = some x :=
    ⟨Json.ofFloat_ne_null (hnumbers x hx).1,
      Json.float?_ofFloat (hnumbers x hx).1 (hnumbers x hx).2⟩
  have hpoint : Json.option? Point.ofJson? (.ofOption Point.toJson c.point) = some c.point :=
    Json.option?_ofOption fun q hq => by
      have hx : q.x ∈ c.numbers := by simp [numbers, Option.mem_def.1 hq]
      have hy : q.y ∈ c.numbers := by simp [numbers, Option.mem_def.1 hq]
      exact ⟨nofun, Point.ofJson?_toJson (hnumbers _ hx) (hnumbers _ hy)⟩
  have hangle : Json.option? Json.float? (.ofOption .ofFloat c.angle) = some c.angle :=
    Json.option?_ofOption fun a ha => hfloat (by simp [numbers, Option.mem_def.1 ha])
  have hspeed : Json.option? Json.float? (.ofOption .ofFloat c.speed) = some c.speed :=
    Json.option?_ofOption fun v hv => hfloat (by simp [numbers, Option.mem_def.1 hv])
  have hread : Json.Record.read? ["kind", "point", "angle", "speed", "line_number"] 5 c.toJson =
      some ⟨[("kind", c.keyword.toJson), ("point", .ofOption Point.toJson c.point),
        ("angle", .ofOption .ofFloat c.angle), ("speed", .ofOption .ofFloat c.speed),
        ("line_number", .ofNat c.lineNumber)]⟩ := Json.Record.read?_ofEntries (by simp) 5
  rw [ofJson?, hread]
  -- Every field is found in the record under its name.
  change (Keyword.ofJson? c.keyword.toJson).bind (fun keyword =>
    (Json.option? Point.ofJson? (.ofOption Point.toJson c.point)).bind fun point =>
    (Json.option? Json.float? (.ofOption .ofFloat c.angle)).bind fun angle =>
    (Json.option? Json.float? (.ofOption .ofFloat c.speed)).bind fun speed =>
    (Json.nat? (.ofNat c.lineNumber)).bind fun lineNumber =>
      some ⟨keyword, point, angle, speed, lineNumber⟩) = some c
  rw [Keyword.ofJson?_toJson, hpoint, hangle, hspeed, Json.nat?_ofNat hline]
  rfl

theorem SkippedLine.ofJson?_toJson {l : SkippedLine} (h : l.number < UInt64.size) :
    ofJson? l.toJson = some l := by
  have hread : Json.Record.read? ["line_number", "reason"] 2 l.toJson =
      some ⟨[("line_number", .ofNat l.number), ("reason", l.reason.toJson)]⟩ :=
    Json.Record.read?_ofEntries (by simp) 2
  rw [ofJson?, hread]
  change (Json.nat? (.ofNat l.number)).bind (fun number =>
    (SkipReason.ofJson? l.reason.toJson).bind fun reason => some ⟨number, reason⟩) = some l
  rw [Json.nat?_ofNat h, SkipReason.ofJson?_toJson]
  rfl

/-! ## Texts -/

theorem Point.writable_toJson (q : Point) : q.toJson.Writable :=
  .object _ (by simp [Json.writable_ofFloat])

theorem Keyword.writable_toJson (k : Keyword) : k.toJson.Writable := .text k.name

theorem Command.writable_toJson (c : Command) : c.toJson.Writable :=
  .object _ (by simp [Keyword.writable_toJson, Json.writable_ofOption, Point.writable_toJson,
    Json.writable_ofFloat, Json.writable_ofNat])

theorem SkipReason.writable_toJson (r : SkipReason) : r.toJson.Writable := by
  cases r with
  | comment => exact .text "Comment"
  | header => exact .text "Header"
  | unrecognized => exact .text "Unrecognized"
  | control word => exact .object [_] (List.forall_mem_singleton.2 (.text word))
  | missingPoint keyword =>
    exact .object [_] (List.forall_mem_singleton.2 keyword.writable_toJson)

theorem SkippedLine.writable_toJson (l : SkippedLine) : l.toJson.Writable :=
  .object _ (by simp [Json.writable_ofNat, SkipReason.writable_toJson])

namespace Program

variable {p : Program} {text : String} {j : Json} {rest : List Char} {commands : List Command}
  {flags : List Bool} {skipped : List SkippedLine}

theorem writable_toJson (p : Program) : p.toJson.Writable :=
  .object _ (by simp [Json.writable_ofList, Command.writable_toJson, Json.Writable.bool,
    SkippedLine.writable_toJson])

/-! ## Programs -/

/-- The commands, the states of the shutter and the skipped lines are read back. -/
theorem Storable.partsOfJson?_toJson (h : p.Storable) :
    partsOfJson? p.toJson = some (p.commands, p.flags, p.skipped) := by
  have hcommands : Json.list? Command.ofJson? (.ofList Command.toJson p.commands) =
      some p.commands :=
    Json.list?_ofList fun c hc => Command.ofJson?_toJson (h.numbers c hc) (h.lineNumber c hc)
  have hflags : Json.list? Json.bool? (.ofList .bool p.flags) = some p.flags :=
    Json.list?_ofList fun _ _ => rfl
  have hskipped : Json.list? SkippedLine.ofJson? (.ofList SkippedLine.toJson p.skipped) =
      some p.skipped :=
    Json.list?_ofList fun l hl => SkippedLine.ofJson?_toJson (h.skipped l hl)
  have hread : Json.Record.read? ["commands", "shutter_flags", "skipped"] 2 p.toJson =
      some ⟨[("commands", .ofList Command.toJson p.commands),
        ("shutter_flags", .ofList .bool p.flags),
        ("skipped", .ofList SkippedLine.toJson p.skipped)]⟩ :=
    Json.Record.read?_ofEntries (by simp) 2
  rw [partsOfJson?, hread]
  change (Json.list? Command.ofJson? (.ofList Command.toJson p.commands)).bind (fun commands =>
    (Json.list? Json.bool? (.ofList .bool p.flags)).bind fun flags =>
    (Json.list? SkippedLine.ofJson? (.ofList SkippedLine.toJson p.skipped)).bind fun skipped =>
      some (commands, flags, skipped)) = _
  rw [hcommands, hflags, hskipped]
  rfl

/-- A program is put together from its commands and its states of the shutter. -/
theorem ofParts_commands_flags (p : Program) : ofParts p.commands p.flags = .ok ⟨p.steps, []⟩ := by
  have hsteps : List.zipWith Step.mk (p.steps.map Step.command) (p.steps.map Step.shutterOpen) =
      p.steps := by
    rw [List.zipWith_map, List.zipWith_self]
    exact List.map_id _
  rw [ofParts, if_pos (by simp [commands, flags]), commands, flags, hsteps]

/-- What is put together has the commands and the states of the shutter that it is made of. -/
theorem commands_flags_ofParts (h : ofParts commands flags = .ok p) :
    p.commands = commands ∧ p.flags = flags := by
  rw [ofParts] at h
  split at h
  · next hlength =>
    cases h
    have hsteps : List.zipWith Step.mk commands flags =
        (commands.zip flags).map (Function.uncurry Step.mk) := by
      rw [List.map_uncurry_zip_eq_zipWith]
    rw [Program.commands, Program.flags, hsteps, List.map_map, List.map_map]
    exact ⟨List.map_fst_zip hlength.le, List.map_snd_zip hlength.ge⟩
  · cases h

/-- A text is read as a program if it is JSON with the parts of that program. -/
theorem ofJsonText_eq_ok_iff : ofJsonText text = .ok p ↔
    ∃ j, Json.split? text.toList = some (j, []) ∧
      partsOfJson? j = some (p.commands, p.flags, p.skipped) := by
  constructor
  · intro h
    -- Of the ways through the reader, one does not end in a fault.
    unfold ofJsonText at h
    split at h
    · cases h
    · next j rest hsplit =>
      split at h
      · cases h
      · next commands flags skipped hparts =>
        split at h
        · cases h
        · next p' hp' =>
          split at h
          · next hrest =>
            obtain ⟨rfl, rfl⟩ := commands_flags_ofParts hp'
            cases h
            exact ⟨j, hrest ▸ hsplit, hparts⟩
          · cases h
  · rintro ⟨j, hsplit, hparts⟩
    simp only [ofJsonText, hsplit, hparts, ofParts_commands_flags, if_true]

/-- If the two lists in a text are not equally long, the text is rejected with their lengths,
    whatever comes behind the value. -/
theorem ofJsonText_eq_unpaired (hsplit : Json.split? text.toList = some (j, rest))
    (hparts : partsOfJson? j = some (commands, flags, skipped))
    (hlength : commands.length ≠ flags.length) :
    ofJsonText text = .error (.unpaired ⟨commands.length, flags.length⟩) := by
  simp only [ofJsonText, hsplit, hparts, ofParts, if_neg hlength]

/-- A program is read back from its JSON text, in either layout. What is read from any text are the
    equally long lists that the text holds; if they are not equally long, the text is rejected, and
    both lengths are told. -/
theorem ofJsonText_toJson :
    (∀ p : Program, p.Storable →
      ofJsonText p.toJson.compactText = .ok p ∧ ofJsonText p.toJson.prettyText = .ok p) ∧
    (∀ (text : String) (p : Program), ofJsonText text = .ok p →
      p.commands.length = p.flags.length ∧
      ∃ j, Json.split? text.toList = some (j, []) ∧
        partsOfJson? j = some (p.commands, p.flags, p.skipped)) ∧
    (∀ (text : String) (j : Json) (rest : List Char) (commands : List Command)
      (flags : List Bool) (skipped : List SkippedLine),
      Json.split? text.toList = some (j, rest) →
      partsOfJson? j = some (commands, flags, skipped) →
      commands.length ≠ flags.length →
      ∃ mismatch : LengthMismatch, ofJsonText text = .error (.unpaired mismatch) ∧
        mismatch.text =
          s!"Program has {commands.length} commands but {flags.length} shutter flags") := by
  refine ⟨fun p hp => ?_, fun text p h => ?_, fun text j rest commands flags skipped hsplit hparts
    hlength => ?_⟩
  · have hparts := hp.partsOfJson?_toJson
    have hwritable := p.writable_toJson
    exact ⟨ofJsonText_eq_ok_iff.2 ⟨_, hwritable.split?_compactText, hparts⟩,
      ofJsonText_eq_ok_iff.2 ⟨_, hwritable.split?_prettyText, hparts⟩⟩
  · exact ⟨by rw [commands, flags, List.length_map, List.length_map], ofJsonText_eq_ok_iff.1 h⟩
  · exact ⟨_, ofJsonText_eq_unpaired hsplit hparts hlength, rfl⟩

/-- A line behind a loop, read back; and a state of the shutter without a command, rejected. -/
theorem ofJsonText_toJson_line :
    ∃ p : Program, ∃ j : Json, p.Storable ∧
      p.steps = [⟨⟨.line, some ⟨0.1, -2⟩, none, some 20, 2⟩, true⟩] ∧
      p.skipped = [⟨1, .control "WAIT"⟩] ∧
      ofJsonText p.toJson.compactText = .ok p ∧ ofJsonText p.toJson.prettyText = .ok p ∧
      p.commands.length = p.flags.length ∧
      ∃ mismatch : LengthMismatch, ofJsonText j.compactText = .error (.unpaired mismatch) ∧
        mismatch.text = "Program has 0 commands but 1 shutter flags" := by
  let p : Program := ⟨[⟨⟨.line, some ⟨0.1, -2⟩, none, some 20, 2⟩, true⟩],
    [⟨1, .control "WAIT"⟩]⟩
  let j : Json := .ofEntries [("commands", .ofList Command.toJson []),
    ("shutter_flags", .ofList .bool [true])]
  have hp : p.Storable := ⟨by decide +kernel, by decide, by decide⟩
  obtain ⟨hcompact, hpretty⟩ := ofJsonText_toJson.1 p hp
  have hj : j.Writable := .object _ (by simp [Json.writable_ofList, Command.writable_toJson,
    Json.Writable.bool])
  exact ⟨p, j, hp, rfl, rfl, hcompact, hpretty, (ofJsonText_toJson.2.1 _ p hcompact).1,
    ofJsonText_toJson.2.2 _ j [] [] [true] [] hj.split?_compactText rfl (by decide)⟩

end Program

end JetPlot
