import Modlet.Proofs.Build.Steps

/-!
# The C compiler is called once, on the C text

A build of a program puts the C text into a file of its own and calls the C compiler on that file,
once. Whatever the C compiler does, the build reports it as it is: success is success, with what the
C compiler wrote on the standard output, and every failure is told with all that belongs to it.

* `CCompiler.Reports`: what a build makes of what the C compiler came to, on streams that may refuse
  what is printed.
* `World.reports_finish`: the end of a build reports that.
* `build_calls_compiler`: the call, the C file at that moment, and the outcome.
-/

namespace Modlet

variable {setup : Setup} {options : CommandLine.Options}

/-- What a build reports of what a command came to, and what it prints on a machine of the given
`setup`. -/
inductive CCompiler.Reports (setup : Setup) :
    Except IoError Completion → Except BuildError Unit → ByteArray → Prop
  /-- It could not be started. -/
  | notStarted {e : IoError} : Reports setup (.error e) (.error (.cc (.io e))) .empty
  /-- It succeeded, and what it wrote is printed. -/
  | succeeded {c : Completion} : c.ending = .exited 0 →
      setup.Takes .out (c.stdout ++ c.stderr) →
      Reports setup (.ok c) (.ok ()) (c.stdout ++ c.stderr)
  /-- It succeeded, and what it wrote is refused behind a part of it. -/
  | unprinted {c : Completion} {size : Nat} {cause : IoError} : c.ending = .exited 0 →
      setup.refuses .out (c.stdout ++ c.stderr) = some (size, cause) →
      Reports setup (.ok c) (.error (.io cause)) ((c.stdout ++ c.stderr).extract 0 size)
  /-- It ended with another code. -/
  | exited {c : Completion} {code : Int} : c.ending = .exited code → code ≠ 0 →
      Reports setup (.ok c) (.error (.cc (.exited code (c.stdout ++ c.stderr)))) .empty
  /-- A signal ended it. -/
  | killed {c : Completion} : c.ending = .killed →
      Reports setup (.ok c) (.error (.cc (.terminated (c.stdout ++ c.stderr)))) .empty

/-- A build succeeds by `Reports` exactly if the command ends with code zero and what it wrote can
be printed. -/
theorem CCompiler.Reports.ok_iff {came : Except IoError Completion}
    {result : Except BuildError Unit} {printed : ByteArray}
    (h : Reports setup came result printed) :
    result = .ok () ↔
      ∃ c, came = .ok c ∧ c.ending = .exited 0 ∧ setup.Takes .out (c.stdout ++ c.stderr) := by
  -- There is one way to succeed. In each of the others one of the three conditions fails.
  cases h with
  | notStarted => simp
  | @succeeded c hending htakes => exact iff_of_true rfl ⟨c, rfl, hending, htakes⟩
  | @unprinted c size cause hending hrefuses =>
    refine iff_of_false (by simp) ?_
    rintro ⟨_, ⟨⟩, -, htakes⟩
    exact nomatch hrefuses.symm.trans htakes
  | @exited c code hending hcode =>
    refine iff_of_false (by simp) ?_
    rintro ⟨_, ⟨⟩, hzero, -⟩
    rw [hending] at hzero
    exact hcode (Ending.exited.inj hzero)
  | killed hending =>
    refine iff_of_false (by simp) ?_
    rintro ⟨_, ⟨⟩, hzero, -⟩
    rw [hending] at hzero
    cases hzero

/-- The end of a build, `World.finish`, reports what a command came to, and leaves the world as it
is apart from what is printed. -/
theorem World.reports_finish (setup : Setup) (came : Except IoError Completion) (w : World) :
    ∃ printed, CCompiler.Reports setup came (w.finish setup came).1 printed
      ∧ (w.finish setup came).2 = w.receive .out printed := by
  have hkept : w = w.receive .out .empty :=
    congrArg (fun stdout => { w with stdout }) ByteArray.append_empty.symm
  cases came with
  | error e => exact ⟨.empty, .notStarted, hkept⟩
  | ok c =>
    cases hending : c.ending with
    | killed =>
      simp only [finish, concluded, CCompiler.conclude, Completion.result, hending]
      exact ⟨.empty, .killed hending, hkept⟩
    | exited code =>
      by_cases hcode : code = 0
      · subst hcode
        have hconcluded : concluded (.ok c) = .ok (c.stdout ++ c.stderr) := by
          rw [concluded, CCompiler.conclude, Completion.result, hending]
          rfl
        rw [finish, hconcluded]
        dsimp only [put]
        -- What the command wrote is taken or refused.
        cases hrefuses : setup.refuses .out (c.stdout ++ c.stderr) with
        | none => exact ⟨_, .succeeded hending hrefuses, rfl⟩
        | some refusal => exact ⟨_, .unprinted hending hrefuses, rfl⟩
      · simp only [finish, concluded, CCompiler.conclude, Completion.result, hending, if_neg hcode]
        exact ⟨.empty, .exited hending hcode, hkept⟩

/-- What the log is told of a build that calls a command on a C file, behind what `firstEvents`
are. -/
def Build.callEvents (name source cFile : String) (command : Invocation) : List Build.Event :=
  firstEvents name source ++ [Event.wroteC cFile, Event.running command]

/-- A build of a source without errors calls the C compiler once, with the arguments of the user in
front, on a C file that holds `CText.ofModule` of the program. What `World.build` comes to is what
the C compiler came to, in the sense of `CCompiler.Reports`, and nothing is left of the C file. Only
a place for that file is needed. -/
theorem build_calls_compiler {w : World} {name source directory : String} {program : Module}
    {made files : FileSystem} (hemit : options.emitC = false)
    (hsource : HasSource w.files options name source)
    (hparse : Module.parse name source = .ok program)
    (hmake : setup.scratch.make w.files = .ok (directory, made))
    (hvacant : made.IsVacant (directory ++ "/" ++ FileName.cFile name options.source))
    (hwrite : made.write (directory ++ "/" ++ FileName.cFile name options.source)
      (Text.Utf8.encode (CText.ofModule program)) = .ok files) :
    let cFile := directory ++ "/" ++ FileName.cFile name options.source
    let output := options.output.getD (FileName.defaultOutput name options.source)
    let command : Invocation :=
      { program := options.cc, args := options.ccArgs ++ ["-o", output, cFile] }
    let came := setup.behaviour command files
    let events := Build.callEvents name source cFile command
    let built := w.build setup options
    built.2.called = w.called ++ [(command, files)]
      ∧ files.read cFile = .ok (Text.Utf8.encode (CText.ofModule program))
      ∧ (built.1 = .ok () ↔ ∃ c, came.1 = .ok c ∧ c.ending = .exited 0
        ∧ setup.Takes .out (c.stdout ++ c.stderr))
      ∧ (∃ printed, CCompiler.Reports setup came.1 built.1 printed
        ∧ built.2.stdout = w.stdout ++ printed)
      ∧ built.2.files = setup.scratch.remove directory came.2
      ∧ built.2.logged = w.logged ++ events
      ∧ built.2.stderr = w.stderr
        ++ Text.Utf8.encode ((setup.logger options.verbose).text w.logged events) := by
  intro cFile output command came events built
  have hread : files.read cFile = .ok (Text.Utf8.encode (CText.ofModule program)) :=
    hvacant.read_of_write hwrite
  -- The world before the C file is written, and the one after the command was called on it.
  let before := w.noteAll (setup.logger options.verbose) (Build.firstEvents name source)
  let called := before.afterCall setup options.verbose cFile command files
  -- From there on a build only hands on what the command wrote, and removes the directory.
  have hbuilt : built = ((called.finish setup came.1).1,
      { (called.finish setup came.1).2 with
        files := setup.scratch.remove directory (called.finish setup came.1).2.files }) := by
    simp only [built]
    rw [World.build_of_make hsource hparse hemit,
      World.perform_makeProgram (w := before) hmake hvacant hwrite]
    rfl
  obtain ⟨printed, hreports, hleft⟩ := World.reports_finish setup came.1 called
  -- The log is told the events before the C file and those for it, one after the other.
  have hlog : called.stderr = (w.noteAll (setup.logger options.verbose) events).stderr :=
    (congrArg World.stderr (World.noteAll_append _ (Build.firstEvents name source) _ w)).symm
  have hlogged : called.logged = w.logged ++ events := List.append_assoc _ _ _
  rw [hbuilt, hleft]
  exact ⟨rfl, hread, hreports.ok_iff, ⟨printed, hreports, rfl⟩, rfl, hlogged, hlog⟩

/-- A C compiler that complains and ends with code 3. -/
theorem build_calls_compiler_exited :
    let bare : FileSystem :=
      { nodes := [(["tmp"], .directory), (["m.b"], .file (Text.Utf8.encode "module m;"))]
        here := [] }
    let made : FileSystem := bare.put ["tmp", "scratch"] .directory
    let text := Text.Utf8.encode (CText.ofModule ⟨"m", []⟩)
    let files : FileSystem := made.put ["tmp", "scratch", "m.c"] (.file text)
    let options : CommandLine.Options := { input := "m.b", cc := "tcc", ccArgs := ["-O2"] }
    let cFile := "/tmp/scratch" ++ "/" ++ FileName.cFile "m.b" false
    let command : Invocation := ⟨"tcc", ["-O2"] ++ ["-o", "m", cFile]⟩
    let came : Completion := ⟨.exited 3, "no".toUTF8, " luck".toUTF8⟩
    let setup : Setup := { behaviour := fun _ files => (.ok came, files) }
    let built := World.build setup options { files := bare }
    HasSource bare options "m.b" "module m;"
      ∧ Module.parse "m.b" "module m;" = .ok ⟨"m", []⟩
      ∧ Scratch.usual.make bare = .ok ("/tmp/scratch", made)
      ∧ made.IsVacant cFile
      ∧ made.write cFile text = .ok files
      ∧ built.2.called = [(command, files)]
      ∧ files.read cFile = .ok text
      ∧ ∃ printed, CCompiler.Reports setup (.ok came) built.1 printed
        ∧ built.2.stdout = .empty ++ printed := by
  intro bare made text files options cFile command came setup built
  have hpath : cFile = "/tmp/scratch/m.c" := by decide
  have hfile : bare.read "m.b" = .ok (Text.Utf8.encode "module m;") := by cbv
  have hsource : HasSource bare options "m.b" "module m;" := .file rfl (by decide) hfile
  have hparse : Module.parse "m.b" "module m;" = .ok ⟨"m", []⟩ := by cbv
  have hmake : Scratch.usual.make bare = .ok ("/tmp/scratch", made) := rfl
  have hvacant : made.IsVacant cFile := by
    rw [hpath]
    exact ⟨["tmp", "scratch", "m.c"], rfl, rfl, rfl⟩
  have hwrite : made.write cFile text = .ok files := by
    rw [hpath]
    rfl
  have houtput : options.output.getD (FileName.defaultOutput "m.b" options.source) = "m" := by
    decide
  obtain ⟨hcalled, hread, -, hprinted, -⟩ :=
    @build_calls_compiler setup options { files := bare } _ _ _ _ _ _ rfl hsource hparse hmake
      hvacant hwrite
  rw [houtput] at hcalled
  exact ⟨hsource, hparse, hmake, hvacant, hwrite, hcalled, hread, hprinted⟩

end Modlet
