import Modlet.Host.Program

/-!
# Commands that cannot be started

The commands of the model machine are programs that may run one another. However deep that goes, a
command that cannot be started has changed nothing, so a build that only had the name of its C
compiler wrong has lost nothing by that.

* `Program.eq_of_launch_error`: what cannot be launched leaves the machine as it is.
* `Program.IsStarted`: what is true of a command that was started.
* `Program.run_cases`: a command cannot be started, or it `IsStarted`.
* `Program.files_eq_of_run_error`: a command that cannot be started leaves the files as they are.
-/

namespace Modlet.Program

variable {command : Invocation} {files files' : FileSystem} {machine machine' : Machine}
  {call : Call} {e : IoError}

/-- A name that `runNamed` does not find among programs leaves the machine as it is. -/
theorem eq_of_runNamed_error {start : Launch} {name : String}
    (h : runNamed start name call machine = (.error e, machine')) : machine' = machine := by
  unfold runNamed at h
  dsimp only at h
  split at h
  · cases h
  · split at h
    · cases h
    · exact (Prod.mk.inj h).2.symm

/-- What `launch` cannot start leaves the machine as it is. The induction is on the bound, of which
every program that a file names for itself takes one. -/
theorem eq_of_launch_error {bound : Nat} (h : launch bound call machine = (.error e, machine')) :
    machine' = machine := by
  induction bound generalizing call with
  | zero => exact (Prod.mk.inj h).2.symm
  | succ bound ih =>
    unfold launch at h
    split at h
    case h_1 => exact (Prod.mk.inj h).2.symm
    case h_2 => exact eq_of_runNamed_error h
    case h_3 =>
      split at h
      · exact (Prod.mk.inj h).2.symm
      · exact ih h
    case h_4 => exact (Prod.mk.inj h).2.symm

/-- A command that `run` starts: it can be handed on, its program is found, and if it ends by itself
its code is that of one byte. -/
structure IsStarted (command : Invocation) (files : FileSystem) (c : Completion) : Prop where
  /-- No text of it ends early. -/
  hasNul_eq : command.hasNul = false
  /-- There is a program of its name. -/
  found : ∃ path, Search.find files Search.usualPath (Octets.ofText command.program) = .ok path
  /-- The code fits into a byte. -/
  code_lt : ∀ code, c.ending = .exited code → 0 ≤ code ∧ code < 256

/-- The `ending` of a program that ends by itself has a code of one byte. -/
theorem code_lt_of_ending {outcome : Outcome} {code : Int} (h : ending outcome = .exited code) :
    0 ≤ code ∧ code < 256 := by
  cases outcome with
  | exited status =>
    obtain rfl := Ending.exited.inj h
    omega
  | killed signal => cases h

/-- A command cannot be started, and then `run` leaves the files as they are, or it `IsStarted`. -/
theorem run_cases (command : Invocation) (files : FileSystem) :
    (∃ e, run command files = (.error e, files))
      ∨ ∃ c files', run command files = (.ok c, files') ∧ IsStarted command files c := by
  unfold run
  by_cases hnul : command.hasNul = true
  · exact .inl ⟨_, if_pos hnul⟩
  rw [if_neg hnul]
  dsimp only
  cases hfind : Search.find files Search.usualPath (Octets.ofText command.program) with
  | error e => exact .inl ⟨e, rfl⟩
  | ok path =>
    dsimp only
    split
    case h_1 e machine hlaunch =>
      refine .inl ⟨e, ?_⟩
      rw [eq_of_launch_error hlaunch]
    case h_2 outcome machine hlaunch =>
      exact .inr ⟨_, _, rfl, Bool.eq_false_iff.mpr hnul, ⟨path, hfind⟩,
        fun code h => code_lt_of_ending h⟩

/-- A command that `run` cannot start leaves the files as they are. -/
theorem files_eq_of_run_error (h : run command files = (.error e, files')) : files' = files := by
  obtain ⟨e', hrun⟩ | ⟨c, left, hrun, -⟩ := run_cases command files
  · exact (Prod.mk.inj (h.symm.trans hrun)).2
  · cases h.symm.trans hrun

end Modlet.Program
