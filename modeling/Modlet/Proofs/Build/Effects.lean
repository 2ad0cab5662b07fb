import Modlet.Proofs.Build.Steps

/-!
# What a build leaves behind

A build that fails on its source, because the source is refused, cannot be read or has errors,
leaves the `World` as it was, apart from the log and the diagnostic of the error. A build that hands
out the C text changes nothing but the file that the text is asked for in.

* `World.FailsOutside`: a part of a build fails only by what is outside of the program.
* `World.Emitted`: a text was handed out, and nothing else happened.
* `World.BuildEffects`: what is left of a build.
* `World.build_effects`: every build leaves that and no more.
-/

namespace Modlet

variable {α β : Type} {setup : Setup} {verbose : Bool} {options : CommandLine.Options}

/-- A failure of a file, a stream or a command, not of the source. -/
def BuildError.IsOutside : BuildError → Prop
  | .io _ | .cc _ => True
  | .badExtension _ | .hadErrors => False

namespace World

/-! ### Failures from outside -/

/-- Whatever the world, a part of a build fails only by what is outside of the program,
`IsOutside`. -/
def FailsOutside (part : ExceptT BuildError (StateM World) α) : Prop :=
  ∀ (w : World) (e : BuildError), (w.perform part).1 = .error e → e.IsOutside

theorem FailsOutside.bind {part : ExceptT BuildError (StateM World) α}
    {next : α → ExceptT BuildError (StateM World) β} (hpart : FailsOutside part)
    (hnext : ∀ a, FailsOutside (next a)) : FailsOutside (part >>= next) := by
  intro w e h
  generalize hdone : w.perform part = done at *
  obtain ⟨result, w'⟩ := done
  cases result with
  | ok a =>
    rw [perform_bind_of_ok hdone] at h
    exact hnext a w' e h
  | error e' =>
    rw [perform_bind_of_error hdone] at h
    cases h
    exact hpart w e (by rw [hdone])

theorem failsOutside_lift (effect : StateM World α) :
    FailsOutside (liftM effect : ExceptT BuildError (StateM World) α) := by
  intro w e h
  cases h

theorem failsOutside_attempt (effect : StateM World (Except IoError α)) :
    FailsOutside (Build.attempt effect) := by
  intro w e h
  generalize hdone : effect.run w = done at *
  obtain ⟨result, w'⟩ := done
  cases result with
  | ok a =>
    rw [perform_attempt_of_ok hdone] at h
    cases h
  | error e' =>
    rw [perform_attempt_of_error hdone] at h
    cases h
    trivial

theorem failsOutside_emit (output : Option String) (text : String) :
    FailsOutside (Build.emit (host setup verbose) output text) := by
  cases output with
  | none => exact failsOutside_attempt _
  | some path => exact failsOutside_attempt _

theorem failsOutside_throw {e : BuildError} (he : e.IsOutside) :
    FailsOutside (throw e : ExceptT BuildError (StateM World) α) := by
  intro w e' h
  cases h
  exact he

/-- What is looked at before it is passed on fails like what it is, so `FailsOutside` passes through
it. -/
theorem FailsOutside.lift_run {part : ExceptT BuildError (StateM World) α}
    {next : Except BuildError α → ExceptT BuildError (StateM World) β} (hpart : FailsOutside part)
    (hok : ∀ a, FailsOutside (next (.ok a)))
    (herror : ∀ e, e.IsOutside → FailsOutside (next (.error e))) :
    FailsOutside (ExceptT.lift part.run >>= next) := by
  intro w e h
  rw [perform_bind_of_ok (perform_lift_run part w)] at h
  cases hdone : (w.perform part).1 with
  | ok a =>
    rw [hdone] at h
    exact hok a _ e h
  | error e' =>
    rw [hdone] at h
    exact herror e' (hpart w e' hdone) _ e h

theorem failsOutside_logAll (events : List Build.Event) :
    FailsOutside (Build.logAll (host setup verbose) events) := by
  intro w e h
  rw [perform_logAll] at h
  cases h

theorem failsOutside_compileC (cc : CCompiler) (cFile output text : String) :
    FailsOutside (Build.compileC (host setup verbose) cc cFile output text) := by
  refine (failsOutside_attempt _).bind fun _ => (failsOutside_logAll _).bind fun _ => ?_
  refine (failsOutside_lift _).bind fun came => ?_
  cases CCompiler.conclude came with
  | ok written => exact failsOutside_attempt _
  | error e => exact failsOutside_throw trivial

theorem failsOutside_makeProgram (name text : String) :
    FailsOutside (Build.makeProgram (host setup verbose) options name text) := by
  unfold Build.makeProgram
  dsimp only
  -- The directory goes away before a failure is passed on, if there is one.
  refine (failsOutside_attempt _).bind fun directory => ?_
  refine (failsOutside_compileC _ _ _ _).lift_run (fun _ => ?_) fun e he => ?_
  · refine (failsOutside_lift _).bind fun _ w e h => ?_
    cases h
  · exact (failsOutside_lift _).bind fun _ => failsOutside_throw he

/-! ### Handing out a text -/

/-- The world after a device has taken a content. The devices that are streams of the program hand
it on with `receive`, and the others keep nothing. -/
def give (device : Device) (content : ByteArray) (w : World) : World :=
  match device with
  | .stream 1 => w.receive .out content
  | .stream 2 => w.receive .err content
  | _ => w

/-- A content was handed out, and the world is the same but for that. It is on the standard output
or in the file `output`. -/
inductive Emitted (w : World) (content : ByteArray) : Option String → World → Prop
  /-- Without the name of a file it is on the standard output. -/
  | printed : Emitted w content none (w.receive .out content)
  /-- Else it is in the file that the path leads to, and no other file is changed. -/
  | written {path : String} {location : Location} {files : FileSystem} :
      w.files.deviceAt? path = none → w.files.locate path = .ok location →
      w.files.DiffersAt location content files →
      (w.files.IsTree → files.read path = .ok content) →
      Emitted w content (some path) { w with files }
  /-- A device holds nothing; it has been given the content, and no file is changed. -/
  | given {path : String} {device : Device} :
      w.files.deviceAt? path = some device →
      Emitted w content (some path) (w.give device content)

/-- A stream that has taken a content with `put` has taken all of it. -/
theorem put_eq_ok {w w' : World} {stream : StandardStream} {content : ByteArray}
    (h : w.put setup stream content = (.ok (), w')) : w' = w.receive stream content := by
  unfold put at h
  cases hrefuses : setup.refuses stream content <;> rw [hrefuses] at h <;> cases h
  rfl

/-- A `writeFile` that succeeds goes to a device or to a file. -/
theorem writeFile_cases {w w' : World} {path : String} {content : ByteArray}
    (h : writeFile setup path content w = (.ok (), w')) :
    (∃ device, w.files.deviceAt? path = some device ∧ w' = w.give device content)
      ∨ (w.files.deviceAt? path = none
        ∧ ∃ files, w.files.write path content = .ok files ∧ w' = { w with files }) := by
  unfold writeFile at h
  cases hdevice : w.files.deviceAt? path with
  | none =>
    simp only [hdevice] at h
    cases hwrite : w.files.write path content with
    | error e => simp [hwrite] at h
    | ok files =>
      simp only [hwrite] at h
      cases h
      exact .inr ⟨rfl, files, rfl, rfl⟩
  | some device =>
    refine .inl ⟨device, rfl, ?_⟩
    simp only [hdevice] at h
    split at h
    · next heq =>
      cases heq
      exact put_eq_ok h
    · next heq =>
      cases heq
      exact put_eq_ok h
    · next hout herr =>
      -- Neither stream of the program: such a device leaves the files alone.
      cases hwrite : w.files.write path content with
      | error e => simp [hwrite] at h
      | ok files =>
        simp only [hwrite] at h
        cases h
        rw [FileSystem.eq_of_write_device hdevice hwrite]
        unfold give
        split
        · exact (hout rfl).elim
        · exact (herr rfl).elim
        · rfl

/-- A content that `handOut` handed out is where it was asked for. -/
theorem emitted_of_handOut {w : World} {output : Option String} {content : ByteArray}
    (h : (w.handOut setup output content).1 = .ok ()) :
    w.Emitted content output (w.handOut setup output content).2 := by
  generalize hdone : w.handOut setup output content = done at h ⊢
  obtain ⟨result, w'⟩ := done
  obtain rfl : result = .ok () := h
  cases output with
  | none =>
    rw [put_eq_ok hdone]
    exact .printed
  | some path =>
    -- The write has succeeded, so it went to a device or changed one file.
    rcases writeFile_cases hdone with ⟨device, hdevice, rfl⟩ | ⟨hdevice, files, hfiles, rfl⟩
    · exact .given hdevice
    · obtain ⟨location, hlocate, hdiffers⟩ := FileSystem.differsAt_of_write hfiles hdevice
      refine .written hdevice hlocate hdiffers fun htree => ?_
      refine FileSystem.read_of_write hfiles hdevice fun location' hlocate' => ?_
      exact htree.isPlain_of_write hfiles hlocate'

theorem mapError_eq_ok {α ε ε' : Type} {result : Except ε α} {f : ε → ε'} {a : α} :
    result.mapError f = .ok a ↔ result = .ok a := by
  cases result <;> simp [Except.mapError]

/-! ### What is left of a build -/

/-- What a build may leave of a world: nothing new if it fails on its source, but for what the log
shows and the diagnostic of an error, and nothing but the C text if that is asked for. -/
structure BuildEffects (setup : Setup) (options : CommandLine.Options) (w : World)
    (result : Except BuildError Unit) (w' : World) : Prop where
  /-- A build is refused exactly if the name of its file is none of a source, whatever the files
  are, and then leaves nothing. -/
  refused : ∀ input, result = .error (.badExtension input) ↔
    options.source = false ∧ FileName.isSource options.input = false ∧ input = options.input
  refused_eq : ∀ input, result = .error (.badExtension input) → w' = w
  /-- It leaves nothing if the source cannot be read. -/
  unread : ∀ e, InputFails w.files options e → result = .error (.io e) ∧ w' = w
  /-- It has errors exactly if the source has one, and then leaves the diagnostic of that behind
  what the log shows. -/
  hadErrors : result = .error .hadErrors ↔ ∃ name source e,
    HasSource w.files options name source ∧ Module.parse name source = .error e
  errorShown : ∀ name source e, HasSource w.files options name source →
    Module.parse name source = .error e → ErrorShown setup options.verbose name source e w w'
  /-- If the C text is asked for and the source has no errors, a build succeeds exactly if that text
  can be handed out. -/
  succeeds : ∀ name source program, options.emitC = true →
    HasSource w.files options name source → Module.parse name source = .ok program →
    (result = .ok () ↔
      (w.handOut setup options.output (Text.Utf8.encode (CText.ofModule program))).1 = .ok ())
  /-- It has then handed out the text and has told the log what it did, and has done nothing
  else. -/
  emitted : ∀ name source program, options.emitC = true → result = .ok () →
    HasSource w.files options name source → Module.parse name source = .ok program →
    (w.noteAll (setup.logger options.verbose) (Build.firstEvents name source)).Emitted
      (Text.Utf8.encode (CText.ofModule program)) options.output w'

/-- With a source that has no errors a build fails only by what is outside of the program, as
`IsOutside` says. -/
theorem isOutside_of_parse {w : World} {name source : String} {program : Module} {e : BuildError}
    (h : HasSource w.files options name source) (hparse : Module.parse name source = .ok program)
    (herror : (w.build setup options).1 = .error e) : e.IsOutside := by
  rw [build_of_parse h hparse] at herror
  split at herror
  · exact failsOutside_emit _ _ _ e herror
  · exact failsOutside_makeProgram _ _ _ e herror

/-- A build that fails with `badExtension` has a name that is none of a source. -/
theorem refused_of_badExtension {w : World} {input : String}
    (herror : (w.build setup options).1 = .error (.badExtension input)) :
    options.source = false ∧ FileName.isSource options.input = false ∧ input = options.input := by
  -- Behind a source without errors there are failures from outside only, which this is none of.
  rcases input_cases w.files options with ⟨name, source, h⟩ | ⟨e, h⟩ | ⟨hgiven, hname⟩
  · cases hparse : Module.parse name source with
    | ok program => exact (isOutside_of_parse h hparse herror).elim
    | error e =>
      rw [build_of_error h hparse] at herror
      cases herror
  · rw [build_of_fails h] at herror
    cases herror
  · rw [build_of_refused hgiven hname] at herror
    cases herror
    exact ⟨hgiven, hname, rfl⟩

/-- A build that fails with `hadErrors` has a source with an error. -/
theorem error_of_hadErrors {w : World}
    (herror : (w.build setup options).1 = .error .hadErrors) :
    ∃ name source e, HasSource w.files options name source
      ∧ Module.parse name source = .error e := by
  rcases input_cases w.files options with ⟨name, source, h⟩ | ⟨e, h⟩ | ⟨hgiven, hname⟩
  · cases hparse : Module.parse name source with
    | ok program => exact (isOutside_of_parse h hparse herror).elim
    | error e => exact ⟨name, source, e, h, hparse⟩
  · rw [build_of_fails h] at herror
    cases herror
  · rw [build_of_refused hgiven hname] at herror
    cases herror

/-- Whatever the options and the files are, and however the machine is set up, `World.build` leaves
what `BuildEffects` allows: nothing but what the log shows and its diagnostic if it fails on its
source, and nothing but the C text besides what the log shows if it hands that out. -/
theorem build_effects (setup : Setup) (options : CommandLine.Options) (w : World) :
    BuildEffects setup options w (w.build setup options).1 (w.build setup options).2 where
  refused input := by
    -- Each field has one lemma about what a build comes to in its case.
    refine ⟨refused_of_badExtension, ?_⟩
    rintro ⟨hgiven, hname, rfl⟩
    rw [build_of_refused hgiven hname]
  refused_eq input h := by
    obtain ⟨hgiven, hname, rfl⟩ := refused_of_badExtension h
    rw [build_of_refused hgiven hname]
  unread e h := by simp only [build_of_fails h, and_self]
  hadErrors := by
    refine ⟨error_of_hadErrors, ?_⟩
    rintro ⟨name, source, e, h, hparse⟩
    rw [build_of_error h hparse]
  errorShown name source e h hparse := by
    rw [build_of_error h hparse]
    exact errorShown_diagnosed setup options.verbose name source e w
  succeeds name source program hemit h hparse := by
    have hsame := (agrees_noteAll (setup.logger options.verbose) (Build.firstEvents name source)
      w).handOut setup options.output (Text.Utf8.encode (CText.ofModule program))
    rw [build_of_emit h hparse hemit, mapError_eq_ok, hsame.result]
  emitted name source program hemit hok h hparse := by
    rw [build_of_emit h hparse hemit] at hok ⊢
    exact emitted_of_handOut (mapError_eq_ok.mp hok)

/-- With a log that shows every event up to its level, which the environment leaves as it is: a
module that is written out as C into a new file, a file that is none of a source, and a source with
an error, of which a build that is not verbose shows the diagnostic alone. -/
theorem build_effects_written :
    let files : FileSystem :=
      { nodes := [(["a.b"], .file (Text.Utf8.encode "module a;")),
          (["x.b"], .file (Text.Utf8.encode "module 1;"))]
        here := [] }
    let setup : Setup := { logger := fun verbose => .upTo (Build.initialLevel none verbose) }
    let built := build setup { input := "a.b", emitC := true, output := some "a.c" } { files }
    let refused := build setup { input := "a.c" } { files }
    let failed := build setup { input := "x.b" } { files }
    let verbose := build setup { input := "x.b", verbose := true } { files }
    let error : SourceError := ⟨"expected identifier, found integer `1`", "x.b", ⟨1, 8⟩⟩
    built.1 = .ok ()
      ∧ Emitted (noteAll (setup.logger false) (Build.firstEvents "a.b" "module a;") { files })
        (Text.Utf8.encode (CText.ofModule ⟨"a", []⟩)) (some "a.c") built.2
      ∧ refused.1 = .error (.badExtension "a.c")
      ∧ refused.2 = { files }
      ∧ failed.1 = .error .hadErrors
      ∧ failed.2.files = files
      ∧ failed.2.stderr = .empty
        ++ Text.Utf8.encode (Diagnostic.ofError error "module 1;").plain
      ∧ verbose.2.stderr = .empty
        ++ Text.Utf8.encode
          ("[INFO] building x.b\n" ++ (Diagnostic.ofError error "module 1;").plain) := by
  intro files setup built refused failed verbose error
  have hread : files.read "a.b" = .ok (Text.Utf8.encode "module a;") := rfl
  have hsource : HasSource files { input := "a.b", emitC := true, output := some "a.c" } "a.b"
      "module a;" := .file rfl (by decide) hread
  have hparse : Module.parse "a.b" "module a;" = .ok ⟨"a", []⟩ := by cbv
  have hbuilt :=
    build_effects setup { input := "a.b", emitC := true, output := some "a.c" } { files }
  have hok : built.1 = .ok () := (hbuilt.succeeds _ _ _ rfl hsource hparse).mpr rfl
  have hrefused := build_effects setup { input := "a.c" } { files }
  have herror : refused.1 = .error (.badExtension "a.c") :=
    (hrefused.refused "a.c").mpr ⟨rfl, by decide, rfl⟩
  have hreadx : files.read "x.b" = .ok (Text.Utf8.encode "module 1;") := by cbv
  have hsourcex : HasSource files { input := "x.b" } "x.b" "module 1;" :=
    .file rfl (by decide) hreadx
  have hverbosex : HasSource files { input := "x.b", verbose := true } "x.b" "module 1;" :=
    .file rfl (by decide) hreadx
  have hparsex : Module.parse "x.b" "module 1;" = .error error := by cbv
  -- Without the flag the log shows warnings at most, and there are none.
  have hfailed := build_effects setup { input := "x.b" } { files }
  have hshown := hfailed.errorShown _ _ _ hsourcex hparsex
  have halone := hshown.alone rfl (Logger.showsUpTo_upTo .warn)
  -- With the flag it shows what is built.
  have hverbose := (build_effects setup { input := "x.b", verbose := true } { files }).errorShown
    _ _ _ hverbosex hparsex
  have hevents : Build.firstEvents "x.b" "module 1;" = [.building "x.b"] := by
    have hnone : (compile "x.b" "module 1;").events = [] := by cbv
    rw [Build.firstEvents, hnone]
    rfl
  have hlog : (setup.logger true).text [] (Build.firstEvents "x.b" "module 1;") =
      "[INFO] building x.b\n" := by
    rw [hevents]
    rfl
  have hstderr := (hverbose.taken rfl).2
  rw [show ({ files } : World).logged = [] from rfl, hlog] at hstderr
  exact ⟨hok, hbuilt.emitted _ _ _ rfl hok hsource hparse, herror, hrefused.refused_eq _ herror,
    hfailed.hadErrors.mpr ⟨_, _, _, hsourcex, hparsex⟩, hshown.agrees.files, halone, hstderr⟩

end World

end Modlet
