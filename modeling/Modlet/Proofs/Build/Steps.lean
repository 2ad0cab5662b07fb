import Modlet.Build.Run
import Modlet.Host.World
import Modlet.Proofs.Host.Files

/-!
# The steps of a build

What each step of a build comes to on a model machine of some `Setup`, and the `World` that it
leaves. The steps are described by what they find there: whether the source can be read, and whether
it has errors.

* `World.perform`: what a part of a build comes to in a world.
* `World.build`: what a whole build comes to.
* `HasSource`, `InputFails`: what the options and the files say of the source.
* `Build.firstEvents`: what the log is told until the source is compiled.
* `World.diagnosed`, `World.ErrorShown`: the world after a diagnostic was shown.
* `World.Agrees`: two worlds that differ in the log and on the standard error only.
* `World.perform_makeProgram`: the call of the C compiler.
* `World.build_of_error`, `World.build_of_parse`: a build after its source was read.
* `World.build_of_emit`, `World.build_of_make`: a build that hands out the C text, and one that does
  not.
-/

namespace Modlet

variable {α β : Type} {setup : Setup} {verbose : Bool} {options : CommandLine.Options}

/-! ### The source of a build -/

/-- The options ask for a source with a name and a text, and the files have it. A source that is
given itself has no name of its own; else its file holds the text in UTF-8. -/
inductive HasSource (files : FileSystem) (options : CommandLine.Options) : String → String → Prop
  | given : options.source = true → HasSource files options Build.unnamedSource options.input
  | file {text : String} : options.source = false → FileName.isSource options.input = true →
      files.read options.input = .ok (Text.Utf8.encode text) →
      HasSource files options options.input text

/-- The options ask for a source in a file, which cannot be read, or holds what is no UTF-8. -/
inductive InputFails (files : FileSystem) (options : CommandLine.Options) : IoError → Prop
  | unread {e : IoError} : options.source = false → FileName.isSource options.input = true →
      files.read options.input = .error e → InputFails files options e
  | notText {content : ByteArray} : options.source = false →
      FileName.isSource options.input = true → files.read options.input = .ok content →
      (∀ text, content ≠ Text.Utf8.encode text) → InputFails files options .notText

theorem Text.Utf8.encode_append (a b : String) : encode (a ++ b) = encode a ++ encode b := by
  simp only [encode, String.toUTF8_eq_toByteArray, String.toByteArray_append]

theorem Text.Utf8.decode?_encode (text : String) : decode? (encode text) = some text := by
  rw [decode?, encode, String.fromUTF8?, String.toUTF8_eq_toByteArray, dif_pos text.isValidUTF8]
  rfl

theorem Text.Utf8.eq_encode_of_decode? {content : ByteArray} {text : String}
    (h : decode? content = some text) : content = encode text := by
  rw [decode?, String.fromUTF8?] at h
  split at h
  · cases h
    rfl
  · cases h

/-- A build has a source, or `InputFails`, or its name is refused. -/
theorem input_cases (files : FileSystem) (options : CommandLine.Options) :
    (∃ name text, HasSource files options name text) ∨ (∃ e, InputFails files options e)
      ∨ (options.source = false ∧ FileName.isSource options.input = false) := by
  -- What is asked for decides first, then the name, then the file, then what it holds.
  cases hgiven : options.source with
  | true => exact .inl ⟨_, _, .given hgiven⟩
  | false =>
    cases hname : FileName.isSource options.input with
    | false => exact .inr (.inr ⟨rfl, rfl⟩)
    | true =>
      cases hread : files.read options.input with
      | error e => exact .inr (.inl ⟨e, .unread hgiven hname hread⟩)
      | ok content =>
        by_cases htext : ∃ text, content = Text.Utf8.encode text
        · obtain ⟨text, rfl⟩ := htext
          exact .inl ⟨_, text, .file hgiven hname hread⟩
        · exact .inr (.inl ⟨_, .notText hgiven hname hread fun text heq => htext ⟨text, heq⟩⟩)

/-- What the log is told until the source with the given name is compiled. -/
def Build.firstEvents (name source : String) : List Build.Event :=
  .building name :: (compile name source).events.map .compiling

namespace World

/-! ### Parts of a build -/

/-- What a part of a build comes to in a world, and the world that it leaves. The lemmas below say
it of each part in turn, so that no statement about a build has to unfold one. -/
def perform (w : World) (part : ExceptT BuildError (StateM World) α) :
    Except BuildError α × World :=
  part.run.run w

/-- What `Build.start` comes to in a world, and the world that it leaves. -/
def build (setup : Setup) (options : CommandLine.Options) (w : World) :
    Except BuildError Unit × World :=
  w.perform (Build.start (host setup) options)

theorem perform_bind_of_ok {part : ExceptT BuildError (StateM World) α} {w w' : World} {a : α}
    (h : w.perform part = (.ok a, w')) (next : α → ExceptT BuildError (StateM World) β) :
    w.perform (part >>= next) = w'.perform (next a) := by
  unfold perform at h ⊢
  rw [ExceptT.run_bind, StateT.run_bind]
  simp only [h, bind]

theorem perform_bind_of_error {part : ExceptT BuildError (StateM World) α} {w w' : World}
    {e : BuildError} (h : w.perform part = (.error e, w'))
    (next : α → ExceptT BuildError (StateM World) β) :
    w.perform (part >>= next) = (.error e, w') := by
  unfold perform at h ⊢
  rw [ExceptT.run_bind, StateT.run_bind]
  simp only [h, bind]
  rfl

/-- An effect of the host, which is lifted, does not fail as a part of a build. -/
theorem perform_lift (effect : StateM World α) (w : World) :
    w.perform (liftM effect) = (.ok (effect.run w).1, (effect.run w).2) := rfl

/-- A part of a build whose failure is looked at does not fail. What `perform` gives for it is
handed on as a value. -/
theorem perform_lift_run (part : ExceptT BuildError (StateM World) α) (w : World) :
    w.perform (ExceptT.lift part.run) = (.ok (w.perform part).1, (w.perform part).2) := rfl

/-- An effect that may fail makes the build fail in the same way, with its error as
`BuildError.io`. -/
theorem perform_attempt (effect : StateM World (Except IoError α)) (w : World) :
    w.perform (Build.attempt effect) = ((effect.run w).1.mapError .io, (effect.run w).2) := by
  rw [Build.attempt, perform_bind_of_ok (perform_lift effect w)]
  cases (effect.run w).1 <;> rfl

theorem perform_attempt_of_ok {effect : StateM World (Except IoError α)} {w w' : World} {a : α}
    (h : effect.run w = (.ok a, w')) : w.perform (Build.attempt effect) = (.ok a, w') := by
  rw [perform_attempt, h]
  rfl

theorem perform_attempt_of_error {effect : StateM World (Except IoError α)} {w w' : World}
    {e : IoError} (h : effect.run w = (.error e, w')) :
    w.perform (Build.attempt effect) = (.error (.io e), w') := by
  rw [perform_attempt, h]
  rfl

/-! ### The log -/

theorem noteAll_nil (logger : Logger) (w : World) : w.noteAll logger [] = w := by
  rw [noteAll, Logger.text, List.append_nil]
  exact congrArg (fun stderr => { w with stderr }) ByteArray.append_empty

/-- Telling the log some events is telling it the first, by `World.note`, and then the others. -/
theorem noteAll_cons (logger : Logger) (event : Build.Event) (events : List Build.Event)
    (w : World) :
    w.noteAll logger (event :: events) = (w.note logger event).noteAll logger events := by
  simp only [noteAll, note, Logger.text, Text.Utf8.encode_append, ByteArray.append_assoc,
    List.append_assoc, List.singleton_append]

theorem noteAll_append (logger : Logger) (events more : List Build.Event) (w : World) :
    w.noteAll logger (events ++ more) = (w.noteAll logger events).noteAll logger more := by
  induction events generalizing w with
  | nil => rw [noteAll_nil, List.nil_append]
  | cons event events ih => rw [List.cons_append, noteAll_cons, noteAll_cons, ih]

theorem perform_logAll (events : List Build.Event) (w : World) :
    w.perform (Build.logAll (host setup verbose) events) =
      (.ok (), w.noteAll (setup.logger verbose) events) := by
  induction events generalizing w with
  | nil =>
    rw [noteAll_nil]
    rfl
  | cons event events ih =>
    rw [Build.logAll, perform_bind_of_ok (perform_lift _ w), ih, noteAll_cons]
    rfl

/-! ### Reading and compiling the source -/

theorem perform_readSource {w : World} {name text : String}
    (h : HasSource w.files options name text) :
    w.perform (Build.readSource (host setup verbose) options) = (.ok (name, text), w) := by
  cases h with
  | given hgiven =>
    rw [Build.readSource, if_pos hgiven]
    rfl
  | file hgiven hname hread =>
    have hfile : ((host setup verbose).readFile options.input).run w =
        (.ok (Text.Utf8.encode text), w) := congrArg (·, w) hread
    rw [Build.readSource, if_neg (by simp [hgiven]), if_pos hname,
      perform_bind_of_ok (perform_attempt_of_ok hfile), Text.Utf8.decode?_encode]
    rfl

theorem perform_readSource_of_fails {w : World} {e : IoError} (h : InputFails w.files options e) :
    w.perform (Build.readSource (host setup verbose) options) = (.error (.io e), w) := by
  cases h with
  | unread hgiven hname hread =>
    have hfile : ((host setup verbose).readFile options.input).run w = (.error e, w) :=
      congrArg (·, w) hread
    rw [Build.readSource, if_neg (by simp [hgiven]), if_pos hname,
      perform_bind_of_error (perform_attempt_of_error hfile)]
  | @notText content hgiven hname hread hcontent =>
    have hfile : ((host setup verbose).readFile options.input).run w = (.ok content, w) :=
      congrArg (·, w) hread
    -- What is decoded is what it is encoded from, so nothing is decoded here.
    have hdecode : Text.Utf8.decode? content = none := by
      rw [Option.eq_none_iff_forall_ne_some]
      intro text htext
      exact hcontent text (Text.Utf8.eq_encode_of_decode? htext)
    rw [Build.readSource, if_neg (by simp [hgiven]), if_pos hname,
      perform_bind_of_ok (perform_attempt_of_ok hfile), hdecode]
    rfl

theorem perform_readSource_of_refused {w : World} (hgiven : options.source = false)
    (hname : FileName.isSource options.input = false) :
    w.perform (Build.readSource (host setup verbose) options) =
      (.error (.badExtension options.input), w) := by
  rw [Build.readSource, if_neg (by simp [hgiven]), if_neg (by simp [hname])]
  rfl

/-- Two worlds are the same apart from what the log was told and what is on the standard error, so
what a build comes to agrees in them. -/
structure Agrees (w w' : World) : Prop where
  files : w'.files = w.files
  stdout : w'.stdout = w.stdout
  called : w'.called = w.called

theorem Agrees.trans {w w' w'' : World} (h : w.Agrees w') (h' : w'.Agrees w'') : w.Agrees w'' :=
  ⟨h'.files.trans h.files, h'.stdout.trans h.stdout, h'.called.trans h.called⟩

theorem Agrees.symm {w w' : World} (h : w.Agrees w') : w'.Agrees w :=
  ⟨h.files.symm, h.stdout.symm, h.called.symm⟩

theorem agrees_noteAll (logger : Logger) (events : List Build.Event) (w : World) :
    w.Agrees (w.noteAll logger events) := ⟨rfl, rfl, rfl⟩

/-- The world after a diagnostic was shown as `Diagnostic.shown` has it. Where the standard error
refuses a part of it, the log is told so. -/
def diagnosed (setup : Setup) (verbose : Bool) (diagnostic : Diagnostic) (w : World) : World :=
  match w.put setup .err (Text.Utf8.encode (diagnostic.shown setup.coloured)) with
  | (.ok _, w') => w'
  | (.error e, w') => w'.note (setup.logger verbose) (.unshown e)

theorem perform_showDiagnostic (diagnostic : Diagnostic) (w : World) :
    w.perform (Build.showDiagnostic (host setup verbose) diagnostic) =
      (.ok (), w.diagnosed setup verbose diagnostic) := by
  rw [Build.showDiagnostic, perform_bind_of_ok (perform_lift _ w), diagnosed]
  have hrun : ((host setup verbose).alert (diagnostic.shown (host setup verbose).coloured)).run w =
      w.put setup .err (Text.Utf8.encode (diagnostic.shown setup.coloured)) := rfl
  rw [hrun]
  generalize w.put setup .err (Text.Utf8.encode (diagnostic.shown setup.coloured)) = done
  obtain ⟨result, w'⟩ := done
  cases result <;> rfl

theorem perform_compileSource {w : World} {name source : String} {program : Module}
    (h : Module.parse name source = .ok program) :
    w.perform (Build.compileSource (host setup verbose) name source) =
      (.ok (CText.ofModule program),
        w.noteAll (setup.logger verbose) ((compile name source).events.map .compiling)) := by
  rw [Build.compileSource, perform_bind_of_ok (perform_logAll _ w), compile_result_of_parse h]
  rfl

theorem perform_compileSource_of_error {w : World} {name source : String} {e : SourceError}
    (h : Module.parse name source = .error e) :
    w.perform (Build.compileSource (host setup verbose) name source) =
      (.error .hadErrors,
        (w.noteAll (setup.logger verbose) ((compile name source).events.map .compiling)).diagnosed
          setup verbose (.ofError e source)) := by
  rw [Build.compileSource, perform_bind_of_ok (perform_logAll _ w), compile_result_of_error h]
  dsimp only
  rw [perform_bind_of_ok (perform_showDiagnostic _ _)]
  rfl

/-- What `firstEvents` tell the log until the source is compiled is less than a warning. -/
theorem rank_lt_of_mem_firstEvents {name source : String} {event : Build.Event}
    (h : event ∈ Build.firstEvents name source) : Level.warn.rank < event.level.rank := by
  rw [Build.firstEvents, List.mem_cons, List.mem_map] at h
  obtain rfl | ⟨happened, -, rfl⟩ := h
  · exact Nat.lt_succ_self 2
  · cases happened <;> simp [Build.Event.level, Event.level, Level.rank]

/-- A log that `ShowsUpTo` a level shows nothing of events that are less. -/
theorem text_eq_empty {logger : Logger} {level : Level} (h : logger.ShowsUpTo level)
    {events : List Build.Event} (hevents : ∀ event ∈ events, level.rank < event.level.rank)
    (before : List Build.Event) : logger.text before events = "" := by
  induction events generalizing before with
  | nil => rfl
  | cons event events ih =>
    rw [List.forall_mem_cons] at hevents
    rw [Logger.text, h before event hevents.1, ih hevents.2, String.empty_append]

/-- What is left after the error of a source was shown: nothing else has changed but the log. -/
structure ErrorShown (setup : Setup) (verbose : Bool) (name source : String) (e : SourceError)
    (w w' : World) : Prop where
  agrees : w.Agrees w'
  /-- Behind what the log shows, the standard error has the one diagnostic. -/
  taken : setup.Takes .err (Text.Utf8.encode ((Diagnostic.ofError e source).shown setup.coloured)) →
    w'.logged = w.logged ++ Build.firstEvents name source
      ∧ w'.stderr = w.stderr ++ Text.Utf8.encode
        ((setup.logger verbose).text w.logged (Build.firstEvents name source)
          ++ (Diagnostic.ofError e source).shown setup.coloured)
  /-- That is all there is if the log shows no more than warnings, as it does where neither the
  options nor the environment ask for more. -/
  alone : setup.Takes .err (Text.Utf8.encode ((Diagnostic.ofError e source).shown setup.coloured)) →
    (setup.logger verbose).ShowsUpTo .warn →
    w'.stderr = w.stderr ++ Text.Utf8.encode ((Diagnostic.ofError e source).shown setup.coloured)
  /-- Where the standard error refuses the diagnostic, a part of it is there, and the log is
  told. -/
  refused : ∀ size cause,
    setup.refuses .err (Text.Utf8.encode ((Diagnostic.ofError e source).shown setup.coloured)) =
      some (size, cause) →
    w'.logged = w.logged ++ Build.firstEvents name source ++ [Build.Event.unshown cause]
      ∧ w'.stderr = w.stderr ++ Text.Utf8.encode
        ((setup.logger verbose).text w.logged (Build.firstEvents name source))
          ++ (Text.Utf8.encode ((Diagnostic.ofError e source).shown setup.coloured)).extract 0 size
          ++ Text.Utf8.encode ((setup.logger verbose)
            (w.logged ++ Build.firstEvents name source) (.unshown cause))

theorem errorShown_diagnosed (setup : Setup) (verbose : Bool) (name source : String)
    (e : SourceError) (w : World) :
    ErrorShown setup verbose name source e w
      ((w.noteAll (setup.logger verbose) (Build.firstEvents name source)).diagnosed setup verbose
        (.ofError e source)) := by
  unfold diagnosed put
  -- Either all of the diagnostic is on the standard error, or the log is told of the refusal.
  cases hrefuses : setup.refuses .err
      (Text.Utf8.encode ((Diagnostic.ofError e source).shown setup.coloured)) with
  | none =>
    refine ⟨⟨rfl, rfl, rfl⟩, fun _ => ⟨rfl, ?_⟩, fun _ hquiet => ?_, fun size cause hsome => ?_⟩
    · rw [Text.Utf8.encode_append, ← ByteArray.append_assoc]
      rfl
    · -- A log that shows warnings at most shows none of the first events.
      have htext : (setup.logger verbose).text w.logged (Build.firstEvents name source) = "" :=
        text_eq_empty hquiet (fun _ => rank_lt_of_mem_firstEvents) w.logged
      simp only [receive, noteAll, htext]
      exact congrArg (· ++ _) ByteArray.append_empty
    · rw [hrefuses] at hsome
      cases hsome
  | some refusal =>
    refine ⟨⟨rfl, rfl, rfl⟩, fun htakes => ?_, fun htakes => ?_, fun size cause hsome => ?_⟩
    · exact nomatch hrefuses.symm.trans htakes
    · exact nomatch hrefuses.symm.trans htakes
    · rw [hrefuses] at hsome
      cases hsome
      exact ⟨rfl, rfl⟩

/-! ### Handing out the C text -/

/-- Hands out a content: writes it with `writeFile` to the file that is asked for, or else to the
standard output. -/
def handOut (setup : Setup) (output : Option String) (content : ByteArray) (w : World) :
    Except IoError Unit × World :=
  match output with
  | some path => writeFile setup path content w
  | none => w.put setup .out content

/-- Two worlds come to the same: one result, worlds that `Agrees` relates, and the same behind what
was on the standard error. -/
structure ComeToSame (w w' : World) (done done' : Except IoError Unit × World) : Prop where
  result : done'.1 = done.1
  agrees : done.2.Agrees done'.2
  stderr : ∃ taken, done.2.stderr = w.stderr ++ taken ∧ done'.2.stderr = w'.stderr ++ taken

namespace Agrees

variable {w w' : World}

theorem receive (h : w.Agrees w') (result : Except IoError Unit) (stream : StandardStream)
    (content : ByteArray) :
    ComeToSame w w' (result, w.receive stream content) (result, w'.receive stream content) where
  result := rfl
  agrees := by
    cases stream with
    | out => exact ⟨h.files, congrArg (· ++ content) h.stdout, h.called⟩
    | err => exact ⟨h.files, h.stdout, h.called⟩
  stderr := by
    cases stream with
    | out => exact ⟨.empty, ByteArray.append_empty.symm, ByteArray.append_empty.symm⟩
    | err => exact ⟨content, rfl, rfl⟩

theorem put (h : w.Agrees w') (setup : Setup) (stream : StandardStream) (content : ByteArray) :
    ComeToSame w w' (w.put setup stream content) (w'.put setup stream content) := by
  unfold World.put
  cases setup.refuses stream content with
  | none => exact h.receive _ stream content
  | some refusal => exact h.receive _ stream _

theorem writeFile (h : w.Agrees w') (setup : Setup) (path : String) (content : ByteArray) :
    ComeToSame w w' (World.writeFile setup path content w)
      (World.writeFile setup path content w') := by
  unfold World.writeFile
  rw [h.files]
  -- A path may lead to a stream of the program, which has taken the same in both worlds or refuses
  -- the same.
  split
  · exact h.put setup .out content
  · exact h.put setup .err content
  · -- Neither stream of the program takes the content, so only the files can change.
    cases w.files.write path content with
    | ok files =>
      exact ⟨rfl, ⟨rfl, h.stdout, h.called⟩, .empty, ByteArray.append_empty.symm,
        ByteArray.append_empty.symm⟩
    | error e =>
      exact ⟨rfl, h, .empty, ByteArray.append_empty.symm, ByteArray.append_empty.symm⟩

/-- What is handed out, and whether that goes well, does not depend on the log and on the standard
error: `handOut` is `ComeToSame`. -/
theorem handOut (h : w.Agrees w') (setup : Setup) (output : Option String) (content : ByteArray) :
    ComeToSame w w' (w.handOut setup output content) (w'.handOut setup output content) := by
  cases output with
  | none => exact h.put setup .out content
  | some path => exact h.writeFile setup path content

end Agrees

theorem perform_emit (w : World) (output : Option String) (text : String) :
    w.perform (Build.emit (host setup verbose) output text) =
      ((w.handOut setup output (Text.Utf8.encode text)).1.mapError .io,
        (w.handOut setup output (Text.Utf8.encode text)).2) := by
  cases output <;> exact perform_attempt _ w

/-! ### Making the program -/

theorem writeFile_of_vacant {w : World} {path : String} {content : ByteArray} {files : FileSystem}
    (hvacant : w.files.IsVacant path) (hwrite : w.files.write path content = .ok files) :
    writeFile setup path content w = (.ok (), { w with files }) := by
  rw [writeFile, hvacant.deviceAt?, hwrite]

theorem run_makeDirectory {w : World} {directory : String} {made : FileSystem}
    (h : setup.scratch.make w.files = .ok (directory, made)) :
    (host setup verbose).makeDirectory.run w = (.ok directory, { w with files := made }) := by
  simp only [host, StateT.run_bind, StateT.run_get, pure_bind, h]
  rfl

/-- The command that makes the program of a build from its C file, as `CCompiler.invocation` has
it. -/
def programCommand (options : CommandLine.Options) (name cFile : String) : Invocation :=
  { program := options.cc
    args := options.ccArgs
      ++ ["-o", options.output.getD (FileName.defaultOutput name options.source), cFile] }

/-- What the C compiler came to, as a part of a build, with its error as `BuildError.cc`. -/
def concluded (came : Except IoError Completion) : Except BuildError ByteArray :=
  (CCompiler.conclude came).mapError .cc

/-- The end of a build by the C compiler: what that wrote is printed, if it went well. -/
def finish (setup : Setup) (came : Except IoError Completion) (w : World) :
    Except BuildError Unit × World :=
  match concluded came with
  | .ok written => ((w.put setup .out written).1.mapError .io, (w.put setup .out written).2)
  | .error e => (.error e, w)

/-- The world after the command was called on a C file, with the files as they were and as the
command left them. -/
def afterCall (setup : Setup) (verbose : Bool) (cFile : String) (command : Invocation)
    (files : FileSystem) (w : World) : World :=
  { w.noteAll (setup.logger verbose) [.wroteC cFile, .running command] with
    files := (setup.behaviour command files).2
    called := w.called ++ [(command, files)] }

/-- The C file is written where nothing was (`IsVacant`), and then the command is called, once. -/
theorem perform_compileC {w : World} {cc : CCompiler} {cFile output text : String}
    {files : FileSystem} (hvacant : w.files.IsVacant cFile)
    (hwrite : w.files.write cFile (Text.Utf8.encode text) = .ok files) :
    w.perform (Build.compileC (host setup verbose) cc cFile output text) =
      (w.afterCall setup verbose cFile (cc.invocation cFile output) files).finish setup
        (setup.behaviour (cc.invocation cFile output) files).1 := by
  have hfile : ((host setup verbose).writeFile cFile (Text.Utf8.encode text)).run w =
      (.ok (), { w with files }) := writeFile_of_vacant hvacant hwrite
  rw [Build.compileC, perform_bind_of_ok (perform_attempt_of_ok hfile)]
  dsimp only
  rw [perform_bind_of_ok (perform_logAll _ _), perform_bind_of_ok (perform_lift _ _), finish,
    concluded]
  -- The command sees the files with the C file, and what it leaves is taken over.
  have hcame : ((host setup verbose).execute (cc.invocation cFile output)).run
      (({ w with files } : World).noteAll (setup.logger verbose)
        [.wroteC cFile, .running (cc.invocation cFile output)]) =
        ((setup.behaviour (cc.invocation cFile output) files).1,
          w.afterCall setup verbose cFile (cc.invocation cFile output) files) := rfl
  rw [hcame]
  dsimp only
  cases CCompiler.conclude (setup.behaviour (cc.invocation cFile output) files).1 with
  | ok written => exact perform_attempt _ _
  | error e => rfl

/-- Without a directory for the C file there is nothing to be made. -/
theorem perform_makeProgram_of_error {w : World} {name text : String} {e : IoError}
    (hmake : setup.scratch.make w.files = .error e) :
    w.perform (Build.makeProgram (host setup verbose) options name text) = (.error (.io e), w) := by
  have hrun : (host setup verbose).makeDirectory.run w = (.error e, w) := by
    simp only [host, StateT.run_bind, StateT.run_get, pure_bind, hmake]
    rfl
  rw [Build.makeProgram]
  dsimp only
  rw [perform_bind_of_error (perform_attempt_of_error hrun)]

/-- Whatever `Build.compileC` comes to in the directory that was made, the directory is gone in the
end, and that is what the build comes to. -/
theorem perform_makeProgram_of_make {w : World} {name text directory : String} {made : FileSystem}
    (hmake : setup.scratch.make w.files = .ok (directory, made)) :
    w.perform (Build.makeProgram (host setup verbose) options name text) =
      let done := ({ w with files := made } : World).perform
        (Build.compileC (host setup verbose)
          (CCompiler.withArgs { command := options.cc } options.ccArgs)
          (directory ++ "/" ++ FileName.cFile name options.source)
          (options.output.getD (FileName.defaultOutput name options.source)) text)
      (done.1, { done.2 with files := setup.scratch.remove directory done.2.files }) := by
  rw [Build.makeProgram]
  dsimp only
  rw [perform_bind_of_ok (perform_attempt_of_ok (run_makeDirectory hmake)),
    perform_bind_of_ok (perform_lift_run _ _), perform_bind_of_ok (perform_lift _ _)]
  -- A failure is passed on once the directory is gone, and success is no different.
  generalize World.perform _ (Build.compileC _ _ _ _ text) = done
  obtain ⟨result, w'⟩ := done
  cases result <;> rfl

/-- The C file of a build is written where nothing was, and `programCommand` is called on it.
Whatever comes of that, the directory of the C file is gone in the end. -/
theorem perform_makeProgram {w : World} {name text directory : String} {made files : FileSystem}
    (hmake : setup.scratch.make w.files = .ok (directory, made))
    (hvacant : made.IsVacant (directory ++ "/" ++ FileName.cFile name options.source))
    (hwrite : made.write (directory ++ "/" ++ FileName.cFile name options.source)
      (Text.Utf8.encode text) = .ok files) :
    w.perform (Build.makeProgram (host setup verbose) options name text) =
      let cFile := directory ++ "/" ++ FileName.cFile name options.source
      let command := programCommand options name cFile
      let done := (w.afterCall setup verbose cFile command files).finish setup
        (setup.behaviour command files).1
      (done.1, { done.2 with files := setup.scratch.remove directory done.2.files }) := by
  have hcompile := @perform_compileC setup verbose { w with files := made }
    (CCompiler.withArgs { command := options.cc } options.ccArgs) _
    (options.output.getD (FileName.defaultOutput name options.source)) _ _ hvacant hwrite
  rw [perform_makeProgram_of_make hmake, hcompile]
  rfl

/-! ### A whole build -/

theorem build_of_fails {w : World} {e : IoError} (h : InputFails w.files options e) :
    w.build setup options = (.error (.io e), w) := by
  rw [build, Build.start, Build.run, perform_bind_of_error (perform_readSource_of_fails h)]

theorem build_of_refused {w : World} (hgiven : options.source = false)
    (hname : FileName.isSource options.input = false) :
    w.build setup options = (.error (.badExtension options.input), w) := by
  rw [build, Build.start, Build.run,
    perform_bind_of_error (perform_readSource_of_refused hgiven hname)]

/-- What a build that `HasSource` comes to, from there on. -/
theorem build_of_hasSource {w : World} {name source : String}
    (h : HasSource w.files options name source) :
    w.build setup options =
      (w.noteAll (setup.logger options.verbose) [.building name]).perform (do
        let text ← Build.compileSource (host setup options.verbose) name source
        if options.emitC then Build.emit (host setup options.verbose) options.output text
        else Build.makeProgram (host setup options.verbose) options name text) := by
  -- The name is known now, so the log is told what is built.
  rw [build, Build.start, Build.run, perform_bind_of_ok (perform_readSource h)]
  dsimp only
  rw [perform_bind_of_ok (perform_logAll _ w)]

theorem build_of_error {w : World} {name source : String} {e : SourceError}
    (h : HasSource w.files options name source) (hparse : Module.parse name source = .error e) :
    w.build setup options = (.error .hadErrors,
      (w.noteAll (setup.logger options.verbose) (Build.firstEvents name source)).diagnosed setup
        options.verbose (.ofError e source)) := by
  rw [build_of_hasSource h, perform_bind_of_error (perform_compileSource_of_error hparse),
    ← noteAll_append]
  rfl

theorem build_of_parse {w : World} {name source : String} {program : Module}
    (h : HasSource w.files options name source) (hparse : Module.parse name source = .ok program) :
    w.build setup options =
      (w.noteAll (setup.logger options.verbose) (Build.firstEvents name source)).perform
        (if options.emitC then
          Build.emit (host setup options.verbose) options.output (CText.ofModule program)
        else
          Build.makeProgram (host setup options.verbose) options name
            (CText.ofModule program)) := by
  rw [build_of_hasSource h, perform_bind_of_ok (perform_compileSource hparse), ← noteAll_append]
  rfl

/-- A build that is asked for the C text of a source without errors hands that out, as `handOut`
does, once the log was told what is compiled. -/
theorem build_of_emit {w : World} {name source : String} {program : Module}
    (h : HasSource w.files options name source) (hparse : Module.parse name source = .ok program)
    (hemit : options.emitC = true) :
    w.build setup options =
      let done := (w.noteAll (setup.logger options.verbose) (Build.firstEvents name source)).handOut
        setup options.output (Text.Utf8.encode (CText.ofModule program))
      (done.1.mapError .io, done.2) := by
  rw [build_of_parse h hparse, if_pos hemit, perform_emit]

/-- A build that is not asked for the C text of a source without errors makes the program from it,
once the log was told what is compiled. -/
theorem build_of_make {w : World} {name source : String} {program : Module}
    (h : HasSource w.files options name source) (hparse : Module.parse name source = .ok program)
    (hemit : options.emitC = false) :
    w.build setup options =
      (w.noteAll (setup.logger options.verbose) (Build.firstEvents name source)).perform
        (Build.makeProgram (host setup options.verbose) options name (CText.ofModule program)) := by
  rw [build_of_parse h hparse, if_neg (by simp [hemit])]

end World

end Modlet
