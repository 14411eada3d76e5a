import JetPlot.CommandLine.Run
import JetPlot.Proofs.Files.Writing

/-!
# Runs that succeed and runs that fail

A run goes through four steps: the options, the text of the program, the rendering, which cannot
fail, and the writing of the document, which can fail if it goes to a file; the standard output is
taken never to fail. The document is written last, so a run that fails has written nothing. A run
that succeeds has put the document in the one place that the arguments ask for (`Delivered`), and
has done so to the text that was there before it (`IsInput`), even if the document replaces the
file that holds the text or the settings.

* `ofArguments_cases`: how a run goes;
* `result_eq_ok_iff`: when a run succeeds;
* `delivered_or_unchanged`: what is left of a run that succeeds, and of one that fails.
-/

namespace JetPlot.Run

variable {a : Arguments} {t files : Files.Tree} {usual : Files.Path}
  {stdin stdout text svg : String} {o : Options} {log : List Log.Record} {report : Report}

/-! ## The text of the program -/

/-- Whether a text is the one that a run with the given arguments, files and standard input renders:
    that of the demonstration, the standard input, or the content of the named file. -/
inductive IsInput (a : Arguments) (t : Files.Tree) (stdin : String) : (text : String) → Prop
  | demo (hdemo : a.demo) : IsInput a t stdin Program.demo
  | stream (hdemo : a.demo = false) (hinput : a.input = none ∨ a.input = some "-") :
      IsInput a t stdin stdin
  | file {name text : String} (hdemo : a.demo = false) (hinput : a.input = some name)
      (hdash : name ≠ "-") (hread : t.read ⟨name⟩ = .ok text.toUTF8) : IsInput a t stdin text

theorem programText_eq_ok_iff : programText a t stdin = .ok text ↔ IsInput a t stdin text := by
  rw [programText]
  constructor
  · intro h
    split at h
    · next hdemo => cases h; exact .demo hdemo
    · next hdemo =>
      have hdemo : a.demo = false := Bool.eq_false_iff.2 hdemo
      split at h
      · next hinput => cases h; exact .stream hdemo (.inl hinput)
      · next name hinput =>
        split at h
        · next hdash => cases h; exact .stream hdemo (.inr (hdash ▸ hinput))
        · next hdash =>
          rw [mapError_eq_ok_iff, Files.Tree.readText_eq_ok_iff] at h
          exact .file hdemo hinput hdash h
  · rintro (⟨hdemo⟩ | ⟨hdemo, hinput | hinput⟩ | ⟨hdemo, hinput, hdash, hread⟩)
    · rw [if_pos hdemo]
    · rw [if_neg (Bool.eq_false_iff.1 hdemo), hinput]
    · rw [if_neg (Bool.eq_false_iff.1 hdemo), hinput]
      rfl
    · rw [if_neg (Bool.eq_false_iff.1 hdemo), hinput]
      dsimp only
      rw [if_neg hdash, mapError_eq_ok_iff, Files.Tree.readText_eq_ok_iff]
      exact hread

/-! ## The document -/

/-- Whether a document has been put where the arguments ask for it, and nowhere else: on the
    standard output, with all files as they were, or in the file named for it, with nothing on the
    standard output and every other file as it was. -/
inductive Delivered (a : Arguments) (t : Files.Tree) (svg stdout : String) (files : Files.Tree) :
    Prop
  | printed (hout : a.out = none) (hstdout : stdout = svg) (hfiles : files = t)
  | written {p : Files.Path} {l : Files.Location} (hout : a.out = some p) (hstdout : stdout = "")
      (hread : files.read p = .ok svg.toUTF8) (htarget : t.target p = .ok l)
      (hcontent : files.content? l = some svg.toUTF8)
      (hothers : ∀ l' ≠ l, files.content? l' = t.content? l')

theorem delivered_of_writeDocument (h : writeDocument a t svg = .ok (stdout, files)) :
    Delivered a t svg stdout files := by
  rw [writeDocument] at h
  split at h
  · next hout =>
    cases h
    exact .printed hout rfl rfl
  · next p hout =>
    obtain ⟨written, hwritten, h⟩ := map_eq_ok_iff.1 h
    cases h
    rw [mapError_eq_ok_iff] at hwritten
    obtain ⟨l, htarget, -, -, rfl⟩ := Files.Tree.write_eq_ok_iff.1 hwritten
    exact .written hout rfl (Files.Tree.read_of_write hwritten) htarget
      (Files.Tree.content?_put_self ..) fun l' hl' => Files.Tree.content?_put_of_ne t hl' _

/-- A document can be written where the arguments ask for it if the file, should one be named, can
    be written. -/
theorem exists_writeDocument_iff : (∃ stdout files, writeDocument a t svg = .ok (stdout, files)) ↔
    ∀ p, a.out = some p → ∃ files, t.writeText p svg = .ok files := by
  rw [writeDocument]
  cases a.out with
  | none => exact ⟨fun _ => nofun, fun _ => ⟨svg, t, rfl⟩⟩
  | some p =>
    simp only [map_eq_ok_iff, mapError_eq_ok_iff]
    constructor
    · rintro ⟨_, _, files, hwritten, -⟩ _ ⟨⟩
      exact ⟨files, hwritten⟩
    · intro h
      obtain ⟨files, hwritten⟩ := h p rfl
      exact ⟨"", files, files, hwritten, rfl⟩

/-! ## Runs -/

/-- A rendered text shows the program that the text stands for. -/
theorem svg_ofText (text : String) (o : Options) :
    (Rendered.ofText text o).svg = Svg.render (Program.ofText text) o := rfl

/-- A run that finds its options and its text renders the text with the options. -/
theorem ofArguments_of_ok (hoptions : options a t usual = (.ok o, log))
    (htext : programText a t stdin = .ok text) :
    ofArguments a t usual stdin = deliver a t (Rendered.ofText text o)
      (log ++ [optionsRecord o] ++ Rendered.renderingLog text o) := by
  rw [ofArguments, hoptions]
  dsimp only
  rw [htext]

/-- A run fails and leaves everything as it was, or it finds its options and its text and writes the
    document. -/
theorem ofArguments_cases (a : Arguments) (t : Files.Tree) (usual : Files.Path) (stdin : String) :
    (∃ fault log, ofArguments a t usual stdin = failed fault t log) ∨
    ∃ o log text stdout files, options a t usual = (.ok o, log) ∧
      programText a t stdin = .ok text ∧
      writeDocument a t (Svg.render (Program.ofText text) o) = .ok (stdout, files) ∧
      (ofArguments a t usual stdin).result = .ok (Rendered.ofText text o).report ∧
      (ofArguments a t usual stdin).stdout = stdout ∧
      (ofArguments a t usual stdin).files = files := by
  rcases hoptions : options a t usual with ⟨fault | o, log⟩
  · exact .inl ⟨fault, log, by rw [ofArguments, hoptions]⟩
  · cases htext : programText a t stdin with
    | error fault => exact .inl ⟨fault, _, by rw [ofArguments, hoptions]; dsimp only; rw [htext]⟩
    | ok text =>
      rw [ofArguments_of_ok hoptions htext, deliver, svg_ofText]
      cases hwrite : writeDocument a t (Svg.render (Program.ofText text) o) with
      | error fault => exact .inl ⟨fault, _, rfl⟩
      | ok delivered => exact .inr ⟨o, log, text, _, _, rfl, rfl, hwrite, rfl, rfl, rfl⟩

/-- A run succeeds if its options are found, its text is there, and the file for the document,
    should one be named, can be written. -/
theorem result_eq_ok_iff : (ofArguments a t usual stdin).result = .ok report ↔
    ∃ o log text, options a t usual = (.ok o, log) ∧ IsInput a t stdin text ∧
      (∀ p, a.out = some p →
        ∃ files, t.writeText p (Svg.render (Program.ofText text) o) = .ok files) ∧
      report = (Rendered.ofText text o).report := by
  constructor
  · intro h
    obtain ⟨fault, log, hfailed⟩ | ⟨o, log, text, stdout, files, hoptions, htext, hwrite, hresult,
      -⟩ := ofArguments_cases a t usual stdin
    · rw [hfailed] at h
      cases h
    · rw [hresult] at h
      exact ⟨o, log, text, hoptions, programText_eq_ok_iff.1 htext,
        exists_writeDocument_iff.1 ⟨stdout, files, hwrite⟩, (Except.ok.inj h).symm⟩
  · rintro ⟨o, log, text, hoptions, htext, hout, rfl⟩
    obtain ⟨stdout, files, hwrite⟩ := exists_writeDocument_iff.2 hout
    rw [ofArguments_of_ok hoptions (programText_eq_ok_iff.2 htext), deliver, svg_ofText, hwrite]

theorem exists_result_eq_ok_iff : (∃ report, (ofArguments a t usual stdin).result = .ok report) ↔
    ∃ o log text, options a t usual = (.ok o, log) ∧ IsInput a t stdin text ∧
      ∀ p, a.out = some p →
        ∃ files, t.writeText p (Svg.render (Program.ofText text) o) = .ok files := by
  simp only [result_eq_ok_iff]
  constructor
  · rintro ⟨_, o, log, text, hoptions, htext, hout, -⟩
    exact ⟨o, log, text, hoptions, htext, hout⟩
  · rintro ⟨o, log, text, hoptions, htext, hout⟩
    exact ⟨_, o, log, text, hoptions, htext, hout, rfl⟩

/-- A run that fails leaves all files as they are and writes nothing to the standard output. A run
    that succeeds has found its options and its text in the files that were there before, and has
    put the picture of that text where the arguments ask for it, and nowhere else. As the standard
    output is taken never to fail, nothing else makes a run fail than that there are no options or
    no text, or that the file for the picture cannot be written. -/
theorem delivered_or_unchanged (a : Arguments) (t : Files.Tree) (usual : Files.Path)
    (stdin : String) :
    (∀ fault, (ofArguments a t usual stdin).result = .error fault →
      (ofArguments a t usual stdin).files = t ∧ (ofArguments a t usual stdin).stdout = "") ∧
    (∀ report, (ofArguments a t usual stdin).result = .ok report →
      ∃ o log text, options a t usual = (.ok o, log) ∧ IsInput a t stdin text ∧
        Delivered a t (Svg.render (Program.ofText text) o)
          (ofArguments a t usual stdin).stdout (ofArguments a t usual stdin).files) ∧
    ((∃ report, (ofArguments a t usual stdin).result = .ok report) ↔
      ∃ o log text, options a t usual = (.ok o, log) ∧ IsInput a t stdin text ∧
        ∀ p, a.out = some p →
          ∃ files, t.writeText p (Svg.render (Program.ofText text) o) = .ok files) := by
  refine and_assoc.1 ⟨?_, exists_result_eq_ok_iff⟩
  obtain ⟨fault, log, hfailed⟩ | ⟨o, log, text, stdout, files, hoptions, htext, hwrite, hresult,
    hstdout, hfiles⟩ := ofArguments_cases a t usual stdin
  · rw [hfailed]
    exact ⟨fun _ _ => ⟨rfl, rfl⟩, nofun⟩
  · rw [hresult, hstdout, hfiles]
    exact ⟨nofun, fun _ _ => ⟨o, log, text, hoptions, programText_eq_ok_iff.1 htext,
      delivered_of_writeDocument hwrite⟩⟩

/-- A picture replaces the program that it shows; if it were to have no width, nothing changes. -/
theorem delivered_or_unchanged_replacing :
    ∃ (a : Arguments) (t : Files.Tree) (usual : Files.Path) (report : Report) (fault : RunFault),
      a.input = some "part.prg" ∧ a.out = some ⟨"part.prg"⟩ ∧
      (ofArguments a t usual "").result = .ok report ∧
      (∃ o log text, options a t usual = (.ok o, log) ∧ IsInput a t "" text ∧
        Delivered a t (Svg.render (Program.ofText text) o)
          (ofArguments a t usual "").stdout (ofArguments a t usual "").files) ∧
      (ofArguments { a with width := some 0 } t usual "").result = .error fault ∧
      (ofArguments { a with width := some 0 } t usual "").files = t ∧
      (ofArguments { a with width := some 0 } t usual "").stdout = "" := by
  let a : Arguments := { Arguments.empty with input := some "part.prg", out := some ⟨"part.prg"⟩ }
  let t : Files.Tree := ⟨[(["part.prg"], "LINE (X,Y),1,2".toUTF8)], [], []⟩
  let usual : Files.Path := ⟨"config.toml"⟩
  have hoptions : options a t usual = (.ok Options.default, [Settings.Event.defaults.record]) := by
    decide +kernel
  have htext : IsInput a t "" "LINE (X,Y),1,2" := .file rfl rfl (by decide) (by decide +kernel)
  -- The text has been read when its file is replaced, so it does not matter that both are one.
  have hout (p : Files.Path) (hp : a.out = some p) :
      ∃ files,
        t.writeText p (Svg.render (Program.ofText "LINE (X,Y),1,2") .default) = .ok files := by
    cases hp
    exact ⟨_, Files.Tree.write_eq_ok_iff.2
      ⟨["part.prg"], by decide +kernel, by decide +kernel, by decide, rfl⟩⟩
  obtain ⟨report, hresult⟩ :=
    (delivered_or_unchanged a t usual "").2.2.2 ⟨_, _, _, hoptions, htext, hout⟩
  have hfault : (ofArguments { a with width := some 0 } t usual "").result =
      .error (.options .size) := by decide +kernel
  exact ⟨a, t, usual, report, _, rfl, rfl, hresult,
    (delivered_or_unchanged a t usual "").2.1 _ hresult,
    hfault, (delivered_or_unchanged _ t usual "").1 _ hfault⟩

end JetPlot.Run
