import Modlet.Build.CCompiler
import Modlet.Host.Shell.Run
import Modlet.Host.Tool.Calling
import Modlet.Host.Tool.Checking
import Modlet.Host.Tool.Columns
import Modlet.Host.Tool.Comparing
import Modlet.Host.Tool.Copies
import Modlet.Host.Tool.Digest
import Modlet.Host.Tool.Dump
import Modlet.Host.Tool.Expr
import Modlet.Host.Tool.Files
import Modlet.Host.Tool.Formatted
import Modlet.Host.Tool.Grep
import Modlet.Host.Tool.Lines
import Modlet.Host.Tool.Listing
import Modlet.Host.Tool.Sed.Run
import Modlet.Host.Tool.Sort
import Modlet.Host.Tool.Transfer
import Modlet.Host.Tool.Walking
import Modlet.Host.Tool.Words

/-!
# Programs of a machine

A command is looked for by its name in the directories with programs, or where its path leads. Most
programs do one task, and some run others; the shell is one of these. A file that may be run names
the program that reads it in its first line.
-/

namespace Modlet.Program

/-- The programs that do one task. -/
def tasks : List (String × Tool.Job Unit) :=
  [("[", Tool.check true), ("arch", Tool.machineName), ("base64", Tool.base64),
    ("basename", Tool.basename), ("cat", Tool.cat), ("chmod", Tool.chmod),
    ("cksum", Tool.cksum), ("cmp", Tool.cmp), ("comm", Tool.comm), ("cp", Tool.cp),
    ("cut", Tool.cut), ("dd", Tool.dd), ("diff", Tool.diff), ("dirname", Tool.dirname),
    ("echo", Tool.echo),
    ("egrep", Tool.grepAs 'E'), ("expand", Tool.expand), ("expr", Tool.expr),
    ("false", Tool.Job.mark 1), ("fgrep", Tool.grepAs 'F'), ("fold", Tool.fold),
    ("grep", Tool.grepWith none), ("head", Tool.head), ("id", Tool.id),
    ("install", Tool.install), ("link", Tool.link),
    ("ln", Tool.ln), ("ls", Tool.ls), ("md5sum", Tool.md5sum), ("mkdir", Tool.mkdir),
    ("mktemp", Tool.mktemp), ("mv", Tool.mv), ("nl", Tool.nl), ("od", Tool.od),
    ("paste", Tool.paste), ("printenv", Tool.printenv), ("printf", Tool.printf),
    ("pwd", Tool.pwd), ("readlink", Tool.readlink), ("realpath", Tool.realpath),
    ("rev", Tool.rev), ("rm", Tool.rm), ("rmdir", Tool.rmdir), ("sed", Tool.Sed.sed),
    ("seq", Tool.seq), ("sha1sum", Tool.sha1sum), ("sha256sum", Tool.sha256sum),
    ("sleep", Tool.sleep), ("sort", Tool.sort), ("stat", Tool.tellProperties),
    ("tac", Tool.tac), ("tail", Tool.tail), ("tee", Tool.tee), ("test", Tool.check false),
    ("touch", Tool.touch), ("tr", Tool.tr), ("true", return), ("truncate", Tool.truncate),
    ("uname", Tool.uname), ("uniq", Tool.uniq), ("unlink", Tool.unlink), ("wc", Tool.wc),
    ("which", Tool.which), ("whoami", Tool.whoami), ("yes", Tool.yes)]

/-- The programs that run others. -/
def callers : List (String × (Launch → Tool.Job Unit)) :=
  [("env", Tool.env), ("find", Tool.find), ("nice", Tool.nice), ("nohup", Tool.nohup),
    ("timeout", Tool.timeout), ("xargs", Tool.xargs)]

/-- The names of shells. -/
def shells : List String := ["dash", "sh"]

/-- The names of the programs that there are. -/
def names : List String := shells ++ callers.map Prod.fst ++ tasks.map Prod.fst

/-- Runs the program with a name, given how it runs others. -/
def runNamed (launch : Launch) (name : String) (call : Call) (machine : Machine) :
    Except IoError Outcome × Machine :=
  let task? := ((callers.lookup name).map (· launch)).or (tasks.lookup name)
  match task? with
  | some task =>
    let (outcome, machine) := task.perform call machine
    (.ok outcome, machine)
  | none =>
    if shells.contains name then
      let (outcome, machine) := Shell.exec launch call machine
      (.ok outcome, machine)
    else (.error .noProgram, machine)

/-- The program that a file is for, by the rest of its first line behind the mark, and an argument
for it if there is one. -/
def reader? (content : ByteArray) : Option (Octets × List Octets) :=
  let isBlank (c : Char) : Bool := c = ' ' || c = '\t'
  match (Octets.ofBytes content).toList with
  | '#' :: '!' :: text =>
    let line := (text.takeWhile (· ≠ '\n')).dropWhile isBlank
    let line := (line.reverse.dropWhile isBlank).reverse
    let path := line.takeWhile fun c => !isBlank c
    let arg := (line.drop path.length).dropWhile isBlank
    if path.isEmpty then none
    else some (String.ofList path, if arg.isEmpty then [] else [String.ofList arg])
  | _ => none

/-- Runs what is at the path of a call. The bound is on how deep programs run one another. -/
def launch : Nat → Launch
  | 0, _, machine => (.error .noProcess, machine)
  | bound + 1, call, machine =>
    match Search.at? (machine.filesFor call.here call.mask) call.path with
    | .error e => (.error e, machine)
    | .ok (_, .program name) => runNamed (launch bound) name call machine
    | .ok (_, .file content) =>
      match reader? content with
      | none => (.error .noProgram, machine)
      | some (path, args) =>
        let args := args ++ call.path :: call.args
        launch bound { call with path, name := path, args } machine
    | .ok _ => (.error .denied, machine)

/-- How deep programs can run one another. -/
def deepest : Nat := 1000

/-- The environment that commands have. -/
def settings : List (Octets × Octets) :=
  [("HOME", "/root"), ("PATH", Search.usualPath), ("TERM", "dumb")]

/-- How a command ended, as others see it. -/
def ending : Outcome → Ending
  | .exited status => .exited (status % 256)
  | .killed _ => .killed

/-- Runs a command on the files of a machine. It fails if it cannot be started, and leaves the files
as it changed them. -/
def run (command : Invocation) (files : FileSystem) :
    Except IoError Completion × FileSystem :=
  if command.hasNul then (.error .nulInCommand, files)
  else
    let name := Octets.ofText command.program
    match Search.find files Search.usualPath name with
    | .error e => (.error e, files)
    | .ok path =>
      let call : Call :=
        { path, name, args := command.args.map Octets.ofText, here := files.here, settings }
      match launch deepest call { files } with
      | (.error e, machine) => (.error e, machine.files)
      | (.ok outcome, machine) =>
        (.ok { ending := ending outcome, stdout := machine.stdout, stderr := machine.stderr },
          machine.files)

end Modlet.Program
