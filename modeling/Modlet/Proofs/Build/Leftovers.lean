import Modlet.Proofs.Build.Steps
import Modlet.Proofs.Host.Program

/-!
# What a build leaves of its C file

The C file is in a directory that is made for it, and which goes at the end of the build. That end
may come in many ways: the C file cannot be written, the C compiler does not start, or fails, or has
changed the files, or what it wrote is refused. In none of them is anything left of the directory.

* `World.build_removes_directory`: a build that makes a directory removes it last.
* `World.node?_build_usual`: where the directory usually is, there is nothing in the end.
* `World.build_of_not_started`: a C compiler that cannot be started has done nothing.
-/

namespace Modlet.World

variable {setup : Setup} {options : CommandLine.Options} {w : World}

/-- A build that does not hand out the C text leaves the files as they are if it ends before there
is a directory for the C file. Else `Scratch.remove` takes that away last, whatever has become of
the files. -/
theorem build_removes_directory (hemit : options.emitC = false) (w : World) :
    (w.build setup options).2.files = w.files
      ∨ ∃ directory made left, setup.scratch.make w.files = .ok (directory, made)
        ∧ (w.build setup options).2.files = setup.scratch.remove directory left := by
  rcases input_cases w.files options with ⟨name, source, h⟩ | ⟨e, h⟩ | ⟨hgiven, hname⟩
  · cases hparse : Module.parse name source with
    | error e =>
      rw [build_of_error h hparse]
      exact .inl (errorShown_diagnosed setup options.verbose name source e w).agrees.files
    | ok program =>
      rw [build_of_make h hparse hemit]
      -- What the log was told before makes no difference to the files.
      generalize hbefore : w.noteAll (setup.logger options.verbose)
        (Build.firstEvents name source) = before
      have hfiles : before.files = w.files := hbefore ▸ rfl
      rw [← hfiles]
      cases hmake : setup.scratch.make before.files with
      | error e =>
        rw [perform_makeProgram_of_error hmake]
        exact .inl rfl
      | ok done =>
        obtain ⟨directory, made⟩ := done
        rw [perform_makeProgram_of_make hmake]
        exact .inr ⟨directory, made, _, rfl, rfl⟩
  · rw [build_of_fails h]
    exact .inl rfl
  · rw [build_of_refused hgiven hname]
    exact .inl rfl

/-- A build that does not hand out the C text leaves nothing at `Scratch.usualLocation` or below it,
where directories for a short while usually are. -/
theorem node?_build_usual (hemit : options.emitC = false) (hscratch : setup.scratch = .usual)
    {location : Location} (hbelow : Scratch.usualLocation <+: location)
    (hnone : w.files.node? location = none) :
    (w.build setup options).2.files.node? location = none := by
  obtain hfiles | ⟨directory, made, left, -, hfiles⟩ := build_removes_directory hemit w
  · rw [hfiles, hnone]
  · rw [hfiles, hscratch]
    have hne : Scratch.usualLocation ≠ [] := List.cons_ne_nil _ _
    exact (FileSystem.node?_remove hne location).trans
      (if_pos (List.isPrefixOf_iff_prefix.mpr hbelow))

/-- Where the commands are those of `Program.run`, a C compiler that cannot be started has done
nothing: the build fails with the reason, and but for the directory the files are those that the C
file was written to. -/
theorem build_of_not_started {name source directory : String} {program : Module}
    {made files : FileSystem} {e : IoError} (hbehaviour : setup.behaviour = Program.run)
    (hemit : options.emitC = false) (hsource : HasSource w.files options name source)
    (hparse : Module.parse name source = .ok program)
    (hmake : setup.scratch.make w.files = .ok (directory, made))
    (hvacant : made.IsVacant (directory ++ "/" ++ FileName.cFile name options.source))
    (hwrite : made.write (directory ++ "/" ++ FileName.cFile name options.source)
      (Text.Utf8.encode (CText.ofModule program)) = .ok files)
    (hrun : (Program.run (programCommand options name
      (directory ++ "/" ++ FileName.cFile name options.source)) files).1 = .error e) :
    (w.build setup options).1 = .error (.cc (.io e))
      ∧ (w.build setup options).2.files = setup.scratch.remove directory files
      ∧ (w.build setup options).2.stdout = w.stdout := by
  generalize hdone : Program.run (programCommand options name
    (directory ++ "/" ++ FileName.cFile name options.source)) files = done at hrun
  obtain ⟨result, left⟩ := done
  obtain rfl : result = .error e := hrun
  have hleft : left = files := Program.files_eq_of_run_error hdone
  rw [build_of_make hsource hparse hemit,
    perform_makeProgram (w := w.noteAll _ _) hmake hvacant hwrite]
  simp only [afterCall, hbehaviour, hdone, hleft]
  exact ⟨rfl, rfl, rfl⟩

end Modlet.World
