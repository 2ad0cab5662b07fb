import Modlet.Host.Machine
import Modlet.Host.Shell.Reader
import Modlet.Text.Integer

/-!
# The state of a shell

A shell has variables, functions, options and open files of its own, and works on a machine that it
shares with other commands. What it does can stop early: because a script says so, because of a
mistake, or because of a signal.
-/

namespace Modlet.Shell

/-- A variable. -/
structure Setting where
  /-- The value, if it has one. -/
  value : Option Octets := none
  /-- Whether commands see it. -/
  exported : Bool := false
  /-- Whether it cannot be changed. -/
  fixed : Bool := false
deriving DecidableEq, Repr

/-- What a command changes only for itself, as it was before. -/
structure Frame where
  /-- The variables. -/
  settings : List (Octets × Setting) := []
  /-- The options, if the command keeps them. -/
  options? : Option (List Char) := none

/-- Where a program was found. -/
structure Found where
  path : Octets
  /-- Whether the shell has worked in another directory since then, so that the program is to be
  looked for again. -/
  stale : Bool := false
deriving DecidableEq, Repr

/-- A shell at work. -/
structure Interpreter where
  /-- The name that it goes by. -/
  name : Octets
  /-- Its arguments. -/
  args : List Octets
  /-- Its process. -/
  process : Nat
  /-- The process of the shell that was called, of which it may be a part. -/
  root : Nat
  /-- The process that called it. -/
  parent : Nat
  /-- The variables. -/
  settings : List (Octets × Setting) := []
  /-- The functions, each with its definition. -/
  functions : List (Octets × Node) := []
  /-- The aliases, the oldest first. -/
  aliases : List (Octets × Octets) := []
  /-- The letters of the options that are on. -/
  options : List Char := []
  /-- What is done when a signal comes, or with zero at the end. -/
  traps : List (Nat × Octets) := []
  /-- The signals that make no difference to the shell, whatever is said. -/
  ignored : List Nat := []
  /-- The open files that the streams are. -/
  streams : List (Nat × Nat)
  /-- The directory in which it works. -/
  here : Location
  /-- The path of that directory, as the shell got there. -/
  place : Octets
  /-- The programs that were found. -/
  found : List (Octets × Found) := []
  /-- How the last command went. -/
  status : Nat := 0
  /-- How the last command that was filled in went. -/
  filledStatus : Nat := 0
  /-- The line of the command at work. -/
  line : Nat := 1
  /-- The lines up to which the scripts at work have been read, the innermost first. The last is
  that of what the shell reads when it is not told otherwise. -/
  reached : List Nat := [1]
  /-- The command of the shell itself that is at work. -/
  command : Option Octets := none
  /-- Whether something could not be written. -/
  blocked : Bool := false
  /-- The number of loops around the command at work. -/
  loops : Nat := 0
  /-- What is local to the commands at work, innermost first. -/
  frames : List Frame := []
  /-- The number of functions at work. -/
  calls : Nat := 0
  /-- Whether the last token of the script was its end, which is to be read once more. -/
  atEnd : Bool := false
  /-- Whether the front of a line that tells a command is being filled in. -/
  tracing : Bool := false
  /-- The status before what is done for a signal or at the end, while that is done. -/
  earlier? : Option Nat := none
  /-- The documents of the script. -/
  documents : List (Nat × Word) := []
  /-- The number for the next document. -/
  nextDocument : Nat := 0
  /-- The last command in the background. -/
  background : Option Nat := none
  /-- How commands in the background went that nobody has asked for. -/
  jobs : List (Nat × Outcome) := []
  /-- The number of the argument that is looked at next for options, from one on. -/
  optionIndex? : Option Nat := some 1
  /-- How much has been looked at of the argument before it. -/
  optionPlace : Nat := 0
  /-- What others may not do with new files. -/
  mask : Nat := 0o022
  /-- The limits on what it may use, where they are others than usual. -/
  limits : List (Char × Limit) := []

/-- A command in the background that has not begun: it begins when somebody waits for it. -/
structure Waiting where
  /-- The shell of its own that it has, with a process of its own. -/
  shell : Interpreter
  /-- The command. -/
  body : Node

/-- A shell on a machine. -/
structure State where
  /-- The machine. -/
  machine : Machine
  /-- The shell. -/
  shell : Interpreter
  /-- Commands in the background that have not begun, in order. -/
  waiting : List Waiting := []

/-- Why a shell stops what it does. -/
inductive Stop
  /-- It is to end. -/
  | exit (status : Nat)
  /-- There was a mistake, which has been told. -/
  | failed
  /-- A signal ends it. -/
  | killed (signal : Nat)
  /-- Some loops are to end. -/
  | leave (loops : Nat)
  /-- Some loops but one are to end, and that is to go on. -/
  | goOn (loops : Nat)
  /-- The function is to end, with a status that was given or that of the last command. -/
  | giveBack (status : Nat) (given : Bool)

/-- Something that a shell does. -/
abbrev Sh := EStateM Stop State

namespace Sh

/-- Something about the shell. -/
def ask {α : Type} (f : Interpreter → α) : Sh α := do
  return f (← get).shell

/-- Changes the shell. -/
def change (f : Interpreter → Interpreter) : Sh Unit :=
  modify fun s => { s with shell := f s.shell }

/-- Changes the machine. -/
def act {α : Type} (f : Machine → α × Machine) : Sh α := do
  let s ← get
  let (a, machine) := f s.machine
  set { s with machine }
  return a

/-- Whether an option is on. -/
def option (letter : Char) : Sh Bool := ask (·.options.contains letter)

/-- The files, as seen from the directory in which the shell works. -/
def files : Sh FileSystem := do
  let s ← get
  return s.machine.filesFor s.shell.here s.shell.mask

/-- Changes the files if that can be done. -/
def changeFiles (f : FileSystem → Except IoError FileSystem) : Sh (Except IoError Unit) := do
  match f (← files) with
  | .ok files =>
    act fun m => ((), m.withFiles files)
    return .ok ()
  | .error e => return .error e

/-- Writes to a stream. Where nobody reads any more the signal for that comes. -/
def write (stream : Nat) (text : Octets) : Sh (Except IoError Unit) := do
  match (← ask (·.streams)).lookup stream with
  | some number =>
    let result ← act (·.write number text)
    let s ← ask id
    let isMinded := s.ignored.contains 13 || (s.traps.lookup 13).isSome
    if let .error e := result then
      if e = .noReader && !isMinded then throw (.killed 13)
    return result
  | none => return if text.isEmpty then .ok () else .error .notOpen

/-- Writes to the standard output. -/
def tell (text : Octets) : Sh Unit := do
  match ← write 1 text with
  | .ok () => return
  | .error _ => change fun s => { s with blocked := true }

/-- Tells something that is wrong. -/
def complain (message : Octets) : Sh Unit := do
  let s ← ask id
  let command := match s.command with
    | some command => command ++ ": "
    | none => ""
  let _ ← write 2 (Octets.line (s.name ++ ": " ++ s.line.repr ++ ": " ++ command ++ message))

/-- Tells something that is wrong, and stops. -/
def fail {α : Type} (message : Octets) : Sh α := do
  complain message
  change fun s => { s with status := 2 }
  throw .failed

/-! ### Numbers -/

/-- The number that a text is, which has to be one. -/
def integer (base : Nat) (text : Octets) : Sh Int := do
  match Integer.readWhole? base text with
  | some n => return n
  | none => fail ("Illegal number: " ++ text)

/-- The number without a sign that a text is, which has to be one. -/
def count (text : Octets) : Sh Nat := do
  let n ← integer 10 text
  if n < 0 || n > 0x7FFFFFFF then fail ("Illegal number: " ++ text) else return n.toNat

/-! ### Variables -/

/-- The value of a variable, if it has one. -/
def value? (name : Octets) : Sh (Option Octets) := do
  return ((← ask (·.settings)).lookup name).bind (·.value)

/-- The value of a variable; an empty one if there is none. -/
def value (name : Octets) : Sh Octets := do
  return (← value? name).getD ""

/-- Puts a variable in the place of what it was. -/
def putSetting (name : Octets) (setting : Setting) : Sh Unit :=
  change fun s =>
    { s with settings := (name, setting) :: s.settings.filter (·.1 ≠ name) }

/-- Changes a variable, which has to be one that can be changed. -/
def changeSetting (name : Octets) (f : Setting → Setting) : Sh Unit := do
  let setting := ((← ask (·.settings)).lookup name).getD {}
  if setting.fixed then fail (name ++ ": is read only")
  else putSetting name (f setting)

/-- Sets a variable, whatever its name, and does nothing else. -/
def storeValue (name : Octets) (value : Octets) : Sh Unit := do
  let always ← option 'a'
  changeSetting name fun setting =>
    { setting with value := some value, exported := setting.exported || always }

/-- Minds what the values of some variables are for, before one is changed. -/
def noteValue (name : Octets) (value : Octets) : Sh Unit := do
  if name = "OPTIND" then
    let index ← count value
    change fun s => { s with optionIndex? := some (max 1 index), optionPlace := 0 }
  if name = "PATH" then change fun s => { s with found := [] }

/-- Sets a variable, whatever its name. -/
def putValue (name : Octets) (value : Octets) : Sh Unit := do
  if ((← ask (·.settings)).lookup name).any (·.fixed) then fail (name ++ ": is read only")
  noteValue name value
  storeValue name value

/-- Sets the arguments. -/
def setArgs (args : List Octets) : Sh Unit :=
  change fun s => { s with args, optionIndex? := some 1, optionPlace := 0 }

/-- The name of a variable that a text begins with. Behind it there may only be an equals sign, and
what follows that says nothing. -/
def nameIn (text : Octets) : Sh Octets := do
  let name := String.ofList (text.toList.takeWhile (· ≠ '='))
  if !isName name then fail (name ++ ": bad variable name")
  return name

/-- Sets a variable. -/
def setValue (name : Octets) (value : Octets) : Sh Unit := do
  putValue (← nameIn name) value

/-- The place of a name in a table of variables or aliases. -/
def tablePlace (name : Octets) : Nat :=
  match name.toList with
  | [] => 0
  | c :: others => ((c :: others).foldl (fun n c => n + c.toNat) (16 * c.toNat)) % 39

/-- What commands see of the variables. -/
def environment : Sh (List (Octets × Octets)) := do
  let settings ← ask (·.settings)
  let seen := settings.filterMap fun (name, setting) =>
    match setting.value with
    | some value => if setting.exported then some (name, value) else none
    | none => none
  return seen.mergeSort fun a b => tablePlace a.1 ≤ tablePlace b.1

/-- Keeps what a variable was until the command at work ends. -/
def keepSetting (name : Octets) : Sh Unit := do
  let setting := ((← ask (·.settings)).lookup name).getD {}
  change fun s =>
    match s.frames with
    | frame :: frames =>
      if (frame.settings.lookup name).isSome then s
      else
        let settings := (name, setting) :: frame.settings
        { s with frames := { frame with settings } :: frames }
    | [] => s

/-- Keeps the options that are on until the command at work ends. -/
def keepOptions : Sh Unit :=
  change fun s =>
    match s.frames with
    | frame :: frames =>
      { s with frames := { frame with options? := frame.options?.or (some s.options) } :: frames }
    | [] => s

/-- Puts back what is local to the innermost command. -/
def restoreFrame : Sh Unit := do
  match ← ask (·.frames) with
  | [] => return
  | frame :: frames =>
    change fun s => { s with frames, options := frame.options?.getD s.options }
    for (name, setting) in frame.settings do
      if setting = {} then
        if !isName name then fail (name ++ ": bad variable name")
        change fun s => { s with settings := s.settings.filter (·.1 ≠ name) }
      else putSetting name setting
      noteValue name (setting.value.getD "")

/-- Does something of which variables and options can be local. -/
def inFrame {α : Type} (action : Sh α) : Sh α := do
  change fun s => { s with frames := {} :: s.frames }
  tryFinally action restoreFrame

/-- Does something with streams of its own. -/
def keepingStreams {α : Type} (action : Sh α) : Sh α := do
  let kept ← ask (·.streams)
  tryFinally action (change fun s => { s with streams := kept })

/-! ### Files -/

/-- Why a file cannot be used, as the shell says it. -/
def reason (wanting : Octets) (e : IoError) : Octets :=
  match e with
  | .system code => if code = 2 || code = 20 then wanting else errorText code
  | other => Octets.ofText other.message

/-- Opens a file to be read or written. -/
def openFile (manner : Manner) (name : Octets) : Sh (Except IoError Nat) := do
  let files ← files
  let path := Octets.toText name
  match files.deviceAt? path with
  | some (.stream n) =>
    match (← ask (·.streams)).lookup n with
    | some number => return .ok number
    | none => return .error .notFound
  | some .terminal => return .error .noDevice
  | some device => return .ok (← act (·.add { channel := .device device }))
  | none =>
    match files.locate path with
    | .error e => return .error e
    | .ok location =>
      let read ← match manner, files.node? location with
        | .read, some .directory => pure (.ok ())
        | .read, _ => pure ((files.read path).map fun _ => ())
        | .append, some (.file _) | .readWrite, some (.file _) =>
          pure (if FileSystem.wantsDirectory path then .error .notDirectory else .ok ())
        | _, _ => changeFiles (·.write path .empty)
      match read with
      | .error e => return .error e
      | .ok () =>
        let atEnd := manner = .append
        return .ok (← act (·.add { channel := .file location, atEnd }))

/-- Reads the standard input to its end. -/
def readInput : Sh Octets := do
  match (← ask (·.streams)).lookup 0 with
  | some number => act (·.readAll number)
  | none => return ""

end Sh

end Modlet.Shell
