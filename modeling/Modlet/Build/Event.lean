import Modlet.Build.CCompiler
import Modlet.Compile

/-!
# What the log is told of a build

A build tells the log what it does: which source it is about to compile, what happens while that is
compiled, where the C text was put, and which command is called. How much of that is shown is not up
to the build, apart from the level that `initialLevel` sets.
-/

namespace Modlet.Build

/-- What happens during a build. -/
inductive Event
  /-- The source with the given name is about to be compiled. -/
  | building (name : String)
  /-- Something happened while the source was compiled. -/
  | compiling (event : Modlet.Event)
  /-- The diagnostic of an error could not be shown. -/
  | unshown (error : IoError)
  /-- The C text was written to a file. -/
  | wroteC (path : String)
  /-- The C compiler is about to be called. -/
  | running (command : Invocation)
deriving Repr

namespace Event

/-- The `Level` of an event, which for an event of compiling is its own. -/
def level : Event → Level
  | .building _ => .info
  | .compiling event => event.level
  | .unshown _ => .error
  | .wroteC _ | .running _ => .debug

/-- An event as the log shows it. -/
def message : Event → String
  | .building name => "building " ++ name
  | .compiling event => event.message
  | .unshown error => "failed to emit diagnostic: " ++ error.message
  | .wroteC path => "wrote generated C to " ++ path
  | .running command => "running " ++ command.shown

end Event

/-- The level up to which the log shows events, where `named` is the one that the environment names.
A verbose build asks for more, whatever that is. -/
def initialLevel (named : Option Level) (verbose : Bool) : Level :=
  if verbose then .debug else named.getD .warn

end Modlet.Build
