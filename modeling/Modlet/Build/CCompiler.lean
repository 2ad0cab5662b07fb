import Modlet.Host.IoError
import Modlet.Text.Quoted
import Modlet.Text.Utf8

/-!
# The C compiler

The C compiler is an external command. It is called with the user's arguments, then the name of the
program to be made, then the C file. What it writes is handed on as it is, first its standard
output and then its standard error, whether it succeeds or not.
-/

namespace Modlet

/-- A command with its arguments. -/
structure Invocation where
  /-- The program to be run. -/
  program : String
  /-- Its arguments, in order. -/
  args : List String
deriving DecidableEq, Repr

namespace Invocation

/-- Whether a text holds the character that ends texts for the operating system. -/
def endsEarly (text : String) : Bool := text.toList.contains '\x00'

/-- Whether the program or an argument cannot be handed to the operating system, as `endsEarly`
tells. -/
def hasNul (command : Invocation) : Bool := (command.program :: command.args).any endsEarly

/-- What stands in a list of a command for a text that cannot be handed to the operating system. -/
def placeholder : String := "<string-with-nul>"

/-- The command as it is kept: with the `placeholder` for each text that cannot be handed on. -/
def listed (command : Invocation) : Invocation :=
  let listedText (text : String) : String := if endsEarly text then placeholder else text
  { program := listedText command.program, args := command.args.map listedText }

/-- The command as the log shows it: each text of `listed` between quotation marks. -/
def shown (command : Invocation) : String :=
  " ".intercalate ((command.listed.program :: command.listed.args).map Text.quotedArgument)

end Invocation

/-- How a command ended. -/
inductive Ending
  /-- It ended by itself with a code. -/
  | exited (code : Int)
  /-- A signal ended it. -/
  | killed
deriving DecidableEq, Repr

/-- What a command that could be started came to. -/
structure Completion where
  /-- How it ended. -/
  ending : Ending
  /-- What it wrote to its standard output. -/
  stdout : ByteArray
  /-- What it wrote to its standard error. -/
  stderr : ByteArray

/-- A C compiler, as a command with arguments of the user's. -/
structure CCompiler where
  /-- The program. -/
  command : String := "cc"
  /-- The arguments that come before all others. -/
  args : List String := []
deriving DecidableEq, Repr

/-- Why compiling C failed. -/
inductive CCompilerError
  /-- The command could not be started. -/
  | io (error : IoError)
  /-- The command ended with a code other than zero. -/
  | exited (code : Int) (output : ByteArray)
  /-- A signal ended the command. -/
  | terminated (output : ByteArray)

namespace CCompilerError

/-- The wording of a failure, with what the command wrote, which `decodeLossy` makes a text of. -/
def message : CCompilerError → String
  | .io error => "couldn't run C compiler: " ++ error.message
  | .exited code output =>
    "C compiler exited with code " ++ code.repr ++ " and output:\n" ++ Text.Utf8.decodeLossy output
  | .terminated output => "C compiler terminated with output:\n" ++ Text.Utf8.decodeLossy output

end CCompilerError

/-- Everything that a command wrote: its standard output, and behind it its standard error. -/
def Completion.output (c : Completion) : ByteArray := c.stdout ++ c.stderr

/-- What a command wrote if it succeeded, or why compiling failed. -/
def Completion.result (c : Completion) : Except CCompilerError ByteArray :=
  match c.ending with
  | .exited code => if code = 0 then .ok c.output else .error (.exited code c.output)
  | .killed => .error (.terminated c.output)

namespace CCompiler

/-- The compiler with more arguments behind those that it has. -/
def withArgs (cc : CCompiler) (more : List String) : CCompiler :=
  { cc with args := cc.args ++ more }

/-- The command that compiles the given C file into the program `output`: the arguments of the user
stand in front. -/
def invocation (cc : CCompiler) (cFile output : String) : Invocation :=
  { program := cc.command, args := cc.args ++ ["-o", output, cFile] }

/-- What compiling came to, given what came of starting the command, by `Completion.result`. -/
def conclude : Except IoError Completion → Except CCompilerError ByteArray
  | .error error => .error (.io error)
  | .ok completion => completion.result

end CCompiler

end Modlet
