import Modlet.Proofs.Build.Steps

/-!
# A given source is built like a file

A build with the source itself instead of its file comes to the same, if the C text is asked for:
the name of a source is told in the diagnostic of an error and to the log, and nowhere else.

* `Module.parse_rename`: the name of a source makes no difference to what it spells.
* `Diagnostic.exists_shown_rename`: where the name stands in what is shown.
* `Module.parse_error_rename`: the error of a source under different names.
* `build_given_eq_file`: the two builds.
-/

namespace Modlet

variable {setup : Setup} {options : CommandLine.Options}

/-- What a source spells for `Module.parse` does not depend on its name, and neither does its error,
which tells the name. -/
theorem Module.parse_rename (file file' source : String) :
    Module.parse file' source = (Module.parse file source).mapError ({ · with file := file' }) := by
  unfold Module.parse
  cases Module.read source <;> rfl

/-- What a shown diagnostic begins with, before its message: the code of its first span with
`colours`, and the word for an error. -/
def Diagnostic.head (colours : Bool) : String :=
  (if colours then Span.coloured ⟨.alarm, "error"⟩ else "error") ++ ": "

/-- A diagnostic shown span by span begins with its message, and what stands under that does not
depend on it. -/
theorem Diagnostic.exists_join_eq (pos : Position) (sourceLine : Option String)
    {show' : Span → String} (hplain : ∀ text, show' ⟨.plain, text⟩ = text) :
    ∃ rows, ∀ message, String.join ((Diagnostic.mk message pos sourceLine).spans.map show') =
      show' ⟨.alarm, "error"⟩ ++ ": " ++ message ++ "\n" ++ rows := by
  refine ⟨String.join (((Diagnostic.mk "" pos sourceLine).spans.drop 2).map show'),
    fun message => ?_⟩
  have hspans : (Diagnostic.mk message pos sourceLine).spans =
      ⟨.alarm, "error"⟩ :: ⟨.plain, ": " ++ message ++ "\n"⟩
        :: (Diagnostic.mk "" pos sourceLine).spans.drop 2 := rfl
  rw [hspans, List.map_cons, List.map_cons, String.join_cons, String.join_cons, hplain]
  simp only [String.append_assoc]

/-- What is shown of a diagnostic begins with `Diagnostic.head` and the message, with colours and
without. -/
theorem Diagnostic.exists_shown_eq (pos : Position) (sourceLine : Option String) (colours : Bool) :
    ∃ rows, ∀ message, (Diagnostic.mk message pos sourceLine).shown colours =
      head colours ++ message ++ "\n" ++ rows := by
  cases colours with
  | false => exact exists_join_eq pos sourceLine fun _ => rfl
  | true => exact exists_join_eq pos sourceLine fun _ => rfl

/-- The diagnostic of an error tells the name of the source in front of its place and nowhere else,
whether `shown` with colours or without. -/
theorem Diagnostic.exists_shown_rename (e : SourceError) (source : String) (colours : Bool) :
    ∃ rest, ∀ file, (ofError { e with file } source).shown colours =
      head colours ++ file ++ ":" ++ rest := by
  obtain ⟨rows, hrows⟩ :=
    exists_shown_eq e.pos ((Lines.nth? source.toList e.pos.line).map String.ofList) colours
  refine ⟨e.pos.toText ++ " " ++ e.message ++ "\n" ++ rows, fun file => ?_⟩
  rw [ofError, hrows, SourceError.toText]
  simp only [String.append_assoc]

/-- A source with an error has it under each name, and each name stands at the same place of its
diagnostic, behind `Diagnostic.head`. -/
theorem Module.parse_error_rename {file source : String} {e : SourceError} (colours : Bool)
    (h : Module.parse file source = .error e) :
    ∃ rest, ∀ file', ∃ e', Module.parse file' source = .error e'
      ∧ (Diagnostic.ofError e' source).shown colours =
        Diagnostic.head colours ++ file' ++ ":" ++ rest := by
  obtain ⟨rest, hrest⟩ := Diagnostic.exists_shown_rename e source colours
  refine ⟨rest, fun file' => ⟨{ e with file := file' }, ?_, hrest file'⟩⟩
  rw [Module.parse_rename file, h]
  rfl

/-- With the C text asked for, `World.build` of a source in a file and of the same source given
itself come to the same, write the same to the standard output, and leave the same files. On the
standard error they differ in what the log shows, which is told the name, and in the diagnostic of
an error: there one tells the path of the file where the other tells that the source has no name. A
log that shows no more than warnings shows nothing in front of that. -/
theorem build_given_eq_file {w : World} {path text : String} (hemit : options.emitC = true)
    (hname : FileName.isSource path = true)
    (hread : w.files.read path = .ok (Text.Utf8.encode text)) :
    let logger := setup.logger options.verbose
    let log (name : String) := logger.text w.logged (Build.firstEvents name text)
    let file := w.build setup { options with input := path, source := false }
    let given := w.build setup { options with input := text, source := true }
    file.1 = given.1
      ∧ file.2.stdout = given.2.stdout
      ∧ file.2.files = given.2.files
      ∧ file.2.called = given.2.called
      ∧ (∀ name program, Module.parse name text = .ok program → ∃ taken,
        file.2.stderr = w.stderr ++ Text.Utf8.encode (log path) ++ taken
          ∧ given.2.stderr = w.stderr ++ Text.Utf8.encode (log "<unnamed>") ++ taken)
      ∧ (∀ name e, Module.parse name text = .error e →
        file.1 = .error .hadErrors ∧ given.1 = .error .hadErrors ∧ ∃ rest,
          let shown (name : String) := Diagnostic.head setup.coloured ++ name ++ ":" ++ rest
          (setup.Takes .err (Text.Utf8.encode (shown path)) →
            file.2.stderr = w.stderr ++ Text.Utf8.encode (log path ++ shown path))
          ∧ (setup.Takes .err (Text.Utf8.encode (shown "<unnamed>")) →
            given.2.stderr = w.stderr ++ Text.Utf8.encode (log "<unnamed>" ++ shown "<unnamed>")))
      ∧ (logger.ShowsUpTo .warn → log path = "" ∧ log "<unnamed>" = "") := by
  have hfile : HasSource w.files { options with input := path, source := false } path text :=
    .file rfl hname hread
  have hgiven : HasSource w.files { options with input := text, source := true }
      Build.unnamedSource text := .given rfl
  intro logger log file given
  have hquiet : logger.ShowsUpTo .warn → log path = "" ∧ log "<unnamed>" = "" := fun hquiet =>
    ⟨World.text_eq_empty hquiet (fun _ => World.rank_lt_of_mem_firstEvents) w.logged,
      World.text_eq_empty hquiet (fun _ => World.rank_lt_of_mem_firstEvents) w.logged⟩
  cases hparse : Module.parse path text with
  | ok program =>
    have hunnamed : Module.parse Build.unnamedSource text = .ok program := by
      rw [Module.parse_rename path, hparse]
      rfl
    -- Past the log both builds hand out the same text in worlds that agree.
    have hagrees : (w.noteAll logger (Build.firstEvents path text)).Agrees
        (w.noteAll logger (Build.firstEvents Build.unnamedSource text)) := ⟨rfl, rfl, rfl⟩
    have hsame := hagrees.handOut setup options.output (Text.Utf8.encode (CText.ofModule program))
    obtain ⟨taken, htakenFile, htakenGiven⟩ := hsame.stderr
    simp only [file, given]
    rw [World.build_of_emit hfile hparse hemit, World.build_of_emit hgiven hunnamed hemit]
    refine ⟨congrArg (Except.mapError BuildError.io) hsame.result.symm,
      hsame.agrees.stdout.symm, hsame.agrees.files.symm, hsame.agrees.called.symm,
      fun _ _ _ => ⟨taken, htakenFile, htakenGiven⟩, ?_, hquiet⟩
    intro name e herror
    rw [Module.parse_rename path, hparse] at herror
    cases herror
  | error e =>
    -- What stands behind the name is one and the same text in both diagnostics.
    obtain ⟨rest, hrest⟩ := Module.parse_error_rename setup.coloured hparse
    obtain ⟨eFile, hnamed, hshownFile⟩ := hrest path
    obtain ⟨eGiven, hunnamed, hshownGiven⟩ := hrest Build.unnamedSource
    have hleftFile := World.errorShown_diagnosed setup options.verbose path text eFile w
    have hleftGiven :=
      World.errorShown_diagnosed setup options.verbose Build.unnamedSource text eGiven w
    have hagrees := hleftGiven.agrees.symm.trans hleftFile.agrees
    simp only [file, given]
    rw [World.build_of_error hfile hnamed, World.build_of_error hgiven hunnamed]
    refine ⟨rfl, hagrees.stdout, hagrees.files, hagrees.called, ?_, fun _ _ _ => ?_, hquiet⟩
    · intro name program hok
      rw [Module.parse_rename path, hparse] at hok
      cases hok
    · refine ⟨rfl, rfl, rest, fun htakes => ?_, fun htakes => ?_⟩
      · rw [← hshownFile] at htakes ⊢
        exact (hleftFile.taken htakes).2
      · rw [show "<unnamed>" = Build.unnamedSource from rfl, ← hshownGiven] at htakes ⊢
        exact (hleftGiven.taken htakes).2

/-- A number in the place of the name of a module, in a verbose build whose log is shown. -/
theorem build_given_eq_file_number :
    let files : FileSystem :=
      { nodes := [(["a.b"], .file (Text.Utf8.encode "module 1;"))], here := [] }
    let setup : Setup := { logger := fun verbose => .upTo (Build.initialLevel none verbose) }
    let file := World.build setup { input := "a.b", emitC := true, verbose := true } { files }
    let given := World.build setup
      { input := "module 1;", source := true, emitC := true, verbose := true } { files }
    FileName.isSource "a.b" = true
      ∧ files.read "a.b" = .ok (Text.Utf8.encode "module 1;")
      ∧ ∃ rest, file.2.stderr = .empty
          ++ Text.Utf8.encode ("[INFO] building a.b\n" ++ ("error: " ++ "a.b" ++ ":" ++ rest))
        ∧ given.2.stderr = .empty ++ Text.Utf8.encode
          ("[INFO] building <unnamed>\n" ++ ("error: " ++ "<unnamed>" ++ ":" ++ rest)) := by
  intro files setup file given
  have hname : FileName.isSource "a.b" = true := by decide
  have hread : files.read "a.b" = .ok (Text.Utf8.encode "module 1;") := rfl
  have herror : Module.parse "a.b" "module 1;" =
      .error ⟨"expected identifier, found integer `1`", "a.b", ⟨1, 8⟩⟩ := by cbv
  have hevents (name : String) : Build.firstEvents name "module 1;" = [.building name] := by
    have hnone : (compile name "module 1;").events = [] := by cbv
    rw [Build.firstEvents, hnone]
    rfl
  obtain ⟨-, -, -, -, -, hdiagnostic, -⟩ :=
    @build_given_eq_file setup { input := "", emitC := true, verbose := true } { files } _ _ rfl
      hname hread
  obtain ⟨-, -, rest, hfile, hgiven⟩ := hdiagnostic _ _ herror
  simp only [hevents] at hfile hgiven
  exact ⟨hname, hread, rest, hfile rfl, hgiven rfl⟩

end Modlet
