import Modlet.Build.Event

/-!
# What a build needs of the machine

A build reads and writes files, makes a directory for a short while, runs a command, writes to the
two streams of the program, and tells the log what happens. A `Host` says how each of these is done,
whatever carries the effects: the machine itself, or a model of one.
-/

namespace Modlet

/-- The effects that a build has, each in `m`. -/
structure Host (m : Type → Type) where
  /-- Reads the content of a file. -/
  readFile : String → m (Except IoError ByteArray)
  /-- Writes a file, in the place of what it held. -/
  writeFile : String → ByteArray → m (Except IoError Unit)
  /-- Makes a directory that is used by nobody else, and tells its path. -/
  makeDirectory : m (Except IoError String)
  /-- Removes such a directory with all that is in it. -/
  removeDirectory : String → m Unit
  /-- Runs a command to its end. -/
  execute : Invocation → m (Except IoError Completion)
  /-- Writes to the standard output. -/
  print : ByteArray → m (Except IoError Unit)
  /-- Writes to the standard error. -/
  alert : String → m (Except IoError Unit)
  /-- Whether what is written to the standard error may have colours. -/
  coloured : Bool
  /-- Tells the log what happens. -/
  log : Build.Event → m Unit

end Modlet
