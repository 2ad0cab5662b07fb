import Modlet.Build.Error
import Modlet.Build.FileName
import Modlet.CommandLine.Basic
import Modlet.Compile
import Modlet.Diagnostic.Render
import Modlet.Host.Basic

/-!
# Building a program

A build reads the source, compiles it to C, and writes the C text if that is asked for. Otherwise it
puts the C text into a file of its own and lets the C compiler make the program from that. It stops
at the first thing that fails.

* `readSource`, `compileSource`: the source of a build, and its C text.
* `emit`: hands out the C text.
* `makeProgram`: lets the C compiler make the program.
* `run`: the whole build.
* `start`: the whole build, with the log set up first.
-/

namespace Modlet.Build

variable {m : Type → Type} [Monad m]

/-- Goes on with what an effect gave, or fails as a `BuildError` with its `IoError`. -/
def attempt {α : Type} (effect : m (Except IoError α)) : ExceptT BuildError m α := do
  match ← effect with
  | .ok a => return a
  | .error e => throw (.io e)

/-- The name of a source that is given on the command line. -/
def unnamedSource : String := "<unnamed>"

/-- The name and the text of the source. A file has to be named like a source (`FileName.isSource`),
and to hold text. -/
def readSource (host : Host m) (options : CommandLine.Options) :
    ExceptT BuildError m (String × String) := do
  if options.source then return (unnamedSource, options.input)
  else if FileName.isSource options.input then
    let content ← attempt (host.readFile options.input)
    match Text.Utf8.decode? content with
    | some text => return (options.input, text)
    | none => throw (.io .notText)
  else throw (.badExtension options.input)

/-- Tells the log some events, in order, each with `Host.log`. -/
def logAll (host : Host m) : List Event → ExceptT BuildError m Unit
  | [] => return ()
  | event :: events => do
    (host.log event : m _)
    logAll host events

/-- Shows a diagnostic with `Host.alert`, with colours where the standard error may have them. If
that fails, the log is told so, and that is all. -/
def showDiagnostic (host : Host m) (diagnostic : Diagnostic) : ExceptT BuildError m Unit := do
  match ← (host.alert (diagnostic.shown host.coloured) : m _) with
  | .ok () => return ()
  | .error e => host.log (.unshown e)

/-- The C text of a source, as `compile` gives it. What is wrong with the source is shown, and the
build fails. -/
def compileSource (host : Host m) (name source : String) : ExceptT BuildError m String := do
  let compilation := compile name source
  logAll host (compilation.events.map .compiling)
  match compilation.result with
  | .ok text => return text
  | .error diagnostic =>
    showDiagnostic host diagnostic
    throw .hadErrors

/-- Writes the C text to a file, or to the standard output. -/
def emit (host : Host m) (output : Option String) (text : String) : ExceptT BuildError m Unit :=
  match output with
  | some path => attempt (host.writeFile path (Text.Utf8.encode text))
  | none => attempt (host.print (Text.Utf8.encode text))

/-- Puts the C text into a file, lets the C compiler make a program from it, and hands on what that
wrote, if it succeeded. -/
def compileC (host : Host m) (cc : CCompiler) (cFile output text : String) :
    ExceptT BuildError m Unit := do
  attempt (host.writeFile cFile (Text.Utf8.encode text))
  let command := cc.invocation cFile output
  logAll host [.wroteC cFile, .running command]
  let completion ← (host.execute command : m _)
  match CCompiler.conclude completion with
  | .ok written => attempt (host.print written)
  | .error e => throw (.cc e)

/-- Makes the program from the C text with `compileC`, in a directory for the C file that is removed
at the end. -/
def makeProgram (host : Host m) (options : CommandLine.Options) (name text : String) :
    ExceptT BuildError m Unit := do
  let output := options.output.getD (FileName.defaultOutput name options.source)
  let cc : CCompiler := CCompiler.withArgs { command := options.cc } options.ccArgs
  let directory ← attempt host.makeDirectory
  let cFile := directory ++ "/" ++ FileName.cFile name options.source
  let outcome ← ExceptT.lift (compileC host cc cFile output text).run
  -- The directory goes at the very end, whatever came of the C compiler.
  host.removeDirectory directory
  match outcome with
  | .ok () => return ()
  | .error e => throw e

/-- Builds what the options ask for: reads the source, compiles it, and makes the program or hands
the C text out. -/
def run (host : Host m) (options : CommandLine.Options) : ExceptT BuildError m Unit := do
  let (name, source) ← readSource host options
  logAll host [.building name]
  let text ← compileSource host name source
  if options.emitC then emit host options.output text
  else makeProgram host options name text

/-- Builds what the options ask for with `run`, on the host whose log is set up for a verbose build
or for one that is not. -/
def start (host : Bool → Host m) (options : CommandLine.Options) : ExceptT BuildError m Unit :=
  run (host options.verbose) options

end Modlet.Build
