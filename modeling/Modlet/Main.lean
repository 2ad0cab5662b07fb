import Modlet.Build.Run
import Modlet.CommandLine.Parser
import Modlet.Host.Program
import Modlet.Host.World

/-!
# The program

The command line on the machine itself. Files are read and written where they are; commands are
those of `Modlet.Program`, which see the C file and leave what they make in the working directory.
The log goes to the standard error, without the time and the part of the program that a line comes
from. The texts that tell how to use the program are the library's; here the exit code alone tells
that there was nothing to build.
-/

namespace Modlet

/-- The number that the operating system gave for an error. -/
def IoError.ofSystem (e : IO.Error) : IoError :=
  match e with
  | .noFileOrDirectory .. => .notFound
  | .permissionDenied _ code _ => .system code.toNat
  | .inappropriateType _ code _ => .system code.toNat
  | .invalidArgument _ code _ => .system code.toNat
  | .resourceExhausted _ code _ => .system code.toNat
  | .alreadyExists _ code _ => .system code.toNat
  | .otherError code _ => .system code.toNat
  | _ => .system 5

/-- An effect whose errors are values. -/
def attemptIO {α : Type} (effect : IO α) : IO (Except IoError α) := do
  match ← effect.toBaseIO with
  | .ok a => return .ok a
  | .error e => return .error (.ofSystem e)

/-- Runs a command on a model of the machine that holds the C file, the last argument, and takes
over the files that it leaves in the working directory. -/
def executeIO (command : Invocation) : IO (Except IoError Completion) := do
  let some cFile := command.args.getLast? | return .error .notFound
  let content ← IO.FS.readBinFile cFile
  let bare := FileSystem.ofFiles Program.names []
  let location := FileSystem.names cFile
  let files := (bare.putDirectories location.dropLast).put location (.file content)
  let (result, left) := Program.run command files
  for (path, content) in left.files do
    IO.FS.writeBinFile path content
  return result

/-- The variables of the environment that arguments have values from. -/
def environment : IO CommandLine.Environment := do
  let cc ← IO.getEnv "CC"
  return fun name => if name = "CC" then cc else none

/-- Whether the standard error may have colours, where the environment names a terminal and tells
whether colours are not wanted. -/
def allowsColours (terminal unwanted : Option String) : Bool :=
  terminal.any (· ≠ "dumb") && unwanted.isNone

/-- The host that is the machine itself, with the log set up for a verbose build or for one that is
not. -/
def machine (named : Option Level) (coloured verbose : Bool) : Host IO where
  readFile path := attemptIO (IO.FS.readBinFile path)
  writeFile path content := attemptIO (IO.FS.writeBinFile path content)
  makeDirectory := attemptIO do return (← IO.FS.createTempDir).toString
  removeDirectory path := do
    let _ ← attemptIO (IO.FS.removeDirAll path)
  execute := executeIO
  print bytes := attemptIO do
    let out ← IO.getStdout
    out.write bytes
    out.flush
  alert text := attemptIO do (← IO.getStderr).putStr text
  coloured
  -- A log that cannot be written is not worth failing for.
  log event := do
    let shown := Logger.upTo (Build.initialLevel named verbose) [] event
    let _ ← attemptIO do (← IO.getStderr).putStr shown

end Modlet

/-- Builds what the arguments ask for; the exit code tells whether that went well. -/
def main (args : List String) : IO UInt32 := do
  match Modlet.CommandLine.Reader.options Modlet.CommandLine.parse (← Modlet.environment) args with
  | .error e => return e.exitCode.toUInt32
  | .ok options =>
    let named := (← IO.getEnv "RUST_LOG").bind Modlet.Level.ofName?
    let coloured := Modlet.allowsColours (← IO.getEnv "TERM") (← IO.getEnv "NO_COLOR")
    match ← (Modlet.Build.start (Modlet.machine named coloured) options).run with
    | .ok () => return 0
    | .error e =>
      IO.eprintln e.message
      return 1
