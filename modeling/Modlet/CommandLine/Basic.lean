/-!
# What the command line says

The one command is `build`. Its options say what is built and how; what they leave out is filled in
from the environment, or else by what is usual.
-/

namespace Modlet.CommandLine

/-- What a call of `build` asks for. -/
structure Options where
  /-- Whether to log what happens. -/
  verbose : Bool := false
  /-- The source file, or the source itself. -/
  input : String
  /-- Whether `input` is the source itself. -/
  source : Bool := false
  /-- The file to be written, if it is not left open. -/
  output : Option String := none
  /-- Whether the C text is asked for instead of a program. -/
  emitC : Bool := false
  /-- The command of the C compiler. -/
  cc : String := "cc"
  /-- More arguments for the C compiler, in order. -/
  ccArgs : List String := []
deriving DecidableEq, Repr

/-- Why the arguments are no call of `build`. The first three are what the user may have asked
for. -/
inductive UsageError
  /-- Help was asked for. -/
  | displayHelp
  /-- The version was asked for. -/
  | displayVersion
  /-- Nothing was said at all, which is answered with help. -/
  | displayHelpOnMissing
  /-- The input is missing. -/
  | missingRequiredArgument
  /-- There is no place for an argument, or no option of that name. -/
  | unknownArgument
  /-- There is no command of that name. -/
  | invalidSubcommand
  /-- The command is missing. -/
  | missingSubcommand
  /-- The value of an option is missing, or one that it cannot take. -/
  | invalidValue
  /-- A value is given to a flag. -/
  | tooManyValues
  /-- An option is given twice. -/
  | argumentConflict
deriving DecidableEq, Repr

/-- The exit code after a usage error: what was asked for is no failure. -/
def UsageError.exitCode : UsageError → Nat
  | .displayHelp | .displayVersion => 0
  | _ => 2

end Modlet.CommandLine
