import Modlet.Host.Machine
import Modlet.Host.Tool.Quoting

/-!
# Programs at work

A program has the call that it was started by and works on the machine. What it writes to its output
is kept until it ends or says otherwise, whereas messages appear at once. It ends with a status,
maybe early, or because of a signal.
-/

namespace Modlet.Tool

/-- A program at work. -/
structure Work where
  /-- The machine. -/
  machine : Machine
  /-- How the program was called. -/
  call : Call
  /-- What is still to be written to the output. -/
  kept : Octets := ""
  /-- The status with which it will end. -/
  status : Nat := 0
  /-- What tells how the program is called; it is shown before telling where there is help. -/
  usage : Octets := ""

/-- Something that a program does. It can end early. -/
abbrev Job := EStateM Outcome Work

namespace Job

/-- Changes the machine. -/
def act {α : Type} (f : Machine → α × Machine) : Job α := do
  let w ← get
  let (a, machine) := f w.machine
  set { w with machine }
  return a

/-- The files, as seen from the directory in which the program works. -/
def files : Job FileSystem := do
  let w ← get
  return w.machine.filesFor w.call.here w.call.mask

/-- Changes the files if that can be done. -/
def changeFiles (f : FileSystem → Except IoError FileSystem) : Job (Except IoError Unit) := do
  match f (← files) with
  | .ok files =>
    act fun m => ((), m.withFiles files)
    return .ok ()
  | .error e => return .error e

/-- Writes to a stream. Where nobody reads any more the signal for that comes. -/
def write (stream : Nat) (text : Octets) : Job (Except IoError Unit) := do
  match (← get).call.streams.lookup stream with
  | some number =>
    let result ← act (·.write number text)
    if let .error e := result then
      if e = .noReader && !(← get).call.ignored.contains 13 then throw (.killed 13)
    return result
  | none => return if text.isEmpty then .ok () else .error .notOpen

/-- The program will not end well. -/
def mark (status : Nat) : Job Unit := modify fun w => { w with status := max w.status status }

/-- Tells something that is wrong. -/
def complain (message : Octets) : Job Unit := do
  let name := (← get).call.name
  let _ ← write 2 (Octets.line (name ++ ": " ++ message))

/-- Tells something that is wrong, with which the program ends well no more. -/
def warn (message : Octets) : Job Unit := do
  complain message
  mark 1

/-- Tells something that is wrong, and ends. -/
def fail {α : Type} (status : Nat) (message : Octets) : Job α := do
  complain message
  throw (.exited status)

/-- Tells where there is help, and ends. -/
def seeHelp {α : Type} (status : Nat) : Job α := do
  let w ← get
  let _ ← write 2 (w.usage ++ "Try '" ++ w.call.name ++ " --help' for more information.\n")
  throw (.exited status)

/-- Tells that the call is wrong, and ends. -/
def misuse {α : Type} (status : Nat) (message : Octets) : Job α := do
  complain message
  seeHelp status

/-- Keeps something to be written to the output. -/
def say (text : Octets) : Job Unit := modify fun w => { w with kept := w.kept ++ text }

/-- Keeps characters to be written to the output. -/
def sayChars (text : List Char) : Job Unit := say (String.ofList text)

/-- The text of an error. -/
def reason : IoError → Octets
  | .system code => errorText code
  | other => Octets.ofText other.message

/-- Writes to the output what was kept. -/
def flush : Job Unit := do
  let kept := (← get).kept
  modify fun w => { w with kept := "" }
  match ← write 1 kept with
  | .ok () => return
  | .error e => warn ("write error: " ++ reason e)

/-- How many thousandths of a second a text says, which is a number with a unit. -/
def duration? (text : Octets) : Option Nat :=
  let whole := text.toList.takeWhile Char.isDigit
  let (part, rest) := match text.toList.drop whole.length with
    | '.' :: rest => (rest.takeWhile Char.isDigit, rest.dropWhile Char.isDigit)
    | rest => ([], rest)
  let unit? : Option Nat := match rest with
    | [] | ['s'] => some 1000
    | ['m'] => some 60000
    | ['h'] => some 3600000
    | ['d'] => some 86400000
    | _ => none
  match unit? with
  | some unit =>
    if whole.isEmpty && part.isEmpty then none
    else some (Integer.digitsValue 10 (whole ++ part) * unit / Nat.pow 10 part.length)
  | none => none

/-- Why an operand is refused that should not be there. -/
def extra {α : Type} (status : Nat) (operand : Octets) : Job α :=
  misuse status ("extra operand " ++ quoteAlways operand)

/-! ### Options -/

/-- What kind of value an option has. -/
inductive Value
  | none
  | needed
  | possible
deriving DecidableEq, Repr

/-- An option, by its names. -/
structure Choice where
  /-- The letter that it is known by here, and that it can be given as if there is one. -/
  letter : Char
  /-- The long name; an empty one if there is none. -/
  name : String := ""
  /-- The value. -/
  value : Value := .none
  /-- Whether the letter cannot be given. -/
  long : Bool := false

/-- The arguments of a program: options, each with its value, and operands. -/
structure Arguments where
  options : List (Char × Octets) := []
  operands : List Octets := []

namespace Arguments

/-- Whether an option is given. -/
def has (a : Arguments) (letter : Char) : Bool := a.options.any (·.1 = letter)

/-- The last value of an option. -/
def last? (a : Arguments) (letter : Char) : Option Octets :=
  (a.options.reverse.find? (·.1 = letter)).map Prod.snd

/-- All values of an option. -/
def all (a : Arguments) (letter : Char) : List Octets :=
  a.options.filterMap fun entry => if entry.1 = letter then some entry.2 else none

/-- The letter of the last option among some. -/
def lastOf? (a : Arguments) (letters : List Char) : Option Char :=
  (a.options.reverse.find? (letters.contains ·.1)).map Prod.fst

/-- What ends the records that a program works on, which are lines unless an option is given. -/
def ender (a : Arguments) : Char := if a.has 'z' then '\x00' else '\n'

/-- The arguments with an option more. -/
def add (a : Arguments) (letter : Char) (value : Octets) : Arguments :=
  { a with options := a.options ++ [(letter, value)] }

end Arguments

/-- Reads the letters of an argument. -/
def readLetters (choices : List Choice) (status : Nat) (rest : List Octets) :
    List Char → Job (List (Char × Octets) × List Octets)
  | [] => return ([], rest)
  | c :: more => do
    match choices.find? fun choice => choice.letter = c && !choice.long with
    | Option.none => misuse status ("invalid option -- '" ++ String.ofList [c] ++ "'")
    | some choice =>
      match choice.value, more, rest with
      | .none, more, rest =>
        let (others, rest) ← readLetters choices status rest more
        return ((c, "") :: others, rest)
      | .needed, [], [] =>
        misuse status ("option requires an argument -- '" ++ String.ofList [c] ++ "'")
      | .needed, [], value :: rest => return ([(c, value)], rest)
      | _, more, rest => return ([(c, String.ofList more)], rest)

/-- Reads an argument that is a long name. A name may be cut off as long as it is clear. -/
def readName (choices : List Choice) (status : Nat) (text : List Char) (rest : List Octets) :
    Job (List (Char × Octets) × List Octets) := do
  let name := text.takeWhile (· ≠ '=')
  let value? : Option Octets := match text.drop name.length with
    | [] => Option.none
    | _ :: value => some (String.ofList value)
  let named := choices.filter fun choice =>
    choice.name ≠ "" && name.isPrefixOf choice.name.toList
  let exact := named.filter fun choice => choice.name.toList = name
  let clear := match exact, named with
    | choice :: _, _ => some choice
    | [], choice :: others =>
      if others.all (·.letter = choice.letter) then some choice else Option.none
    | [], [] => Option.none
  match clear, named with
  | Option.none, [] =>
    misuse status ("unrecognized option '--" ++ String.ofList text ++ "'")
  | Option.none, named =>
    let all := named.map fun choice => " '--" ++ choice.name ++ "'"
    misuse status ("option '--" ++ String.ofList text ++ "' is ambiguous; possibilities:"
      ++ String.join all)
  | some choice, _ =>
    match choice.value, value?, rest with
    | .none, some _, _ =>
      misuse status ("option '--" ++ choice.name ++ "' doesn't allow an argument")
    | .needed, Option.none, [] =>
      misuse status ("option '--" ++ choice.name ++ "' requires an argument")
    | .needed, Option.none, value :: rest => return ([(choice.letter, value)], rest)
    | _, value?, rest => return ([(choice.letter, value?.getD "")], rest)

/-- Reads arguments. Options may stand behind operands unless `ordered`. -/
def readArguments (choices : List Choice) (status : Nat) (ordered : Bool) :
    Nat → List Octets → Job Arguments
  | 0, args => return { operands := args }
  | bound + 1, args => do
    match args with
    | [] => return {}
    | arg :: rest =>
      match arg.toList with
      | ['-', '-'] => return { operands := rest }
      | '-' :: '-' :: text =>
        let (options, rest) ← readName choices status text rest
        let others ← readArguments choices status ordered bound rest
        return { others with options := options ++ others.options }
      | '-' :: c :: letters =>
        let (options, rest) ← readLetters choices status rest (c :: letters)
        let others ← readArguments choices status ordered bound rest
        return { others with options := options ++ others.options }
      | _ =>
        if ordered then return { operands := args }
        else
          let others ← readArguments choices status ordered bound rest
          return { others with operands := arg :: others.operands }

/-- The arguments of the call; with a mistake the program ends with the given status. -/
def arguments (choices : List Choice) (status : Nat) : Job Arguments := do
  let args := (← get).call.args
  readArguments choices status false (args.length + 1) args

/-- The arguments of the call, of which the options come first. -/
def orderedArguments (choices : List Choice) (status : Nat) : Job Arguments := do
  let args := (← get).call.args
  readArguments choices status true (args.length + 1) args

/-- The word that the value of an option says, of which words for the same stand together. A word
may be cut off as long as it is clear. -/
def pick (option : Octets) (words : List (List String)) (value : Octets) : Job String := do
  let named := words.filter fun same => same.any fun word => value.toList.isPrefixOf word.toList
  match words.find? (·.contains value), named with
  | some same, _ | none, [same] => return same.headD ""
  | none, found =>
    let problem := if found.isEmpty then "invalid" else "ambiguous"
    complain (problem ++ " argument " ++ quote value ++ " for '" ++ option ++ "'")
    let line (same : List String) : String :=
      "  - " ++ ", ".intercalate (same.map fun word => "'" ++ word ++ "'") ++ "\n"
    let _ ← write 2 ("Valid arguments are:\n" ++ String.join (words.map line))
    seeHelp 1

/-! ### Input -/

/-- Reads a stream to its end. -/
def readStream (stream : Nat) : Job (Except IoError Octets) := do
  let w ← get
  match w.call.streams.lookup stream with
  | none => return .error .notOpen
  | some number =>
    let channel? : Option Channel := w.machine.opened[number]?.map (·.channel)
    match channel? with
    | some (.file location) =>
      if w.machine.files.isDirectory location then return .error .isDirectory
      else return .ok (← act (·.readAll number))
    | some (.device .terminal) => return .error .noDevice
    | _ => return .ok (← act (·.readAll number))

/-- Reads the standard input to its end; nothing if that cannot be done. -/
def readInput : Job Octets := do
  match ← readStream 0 with
  | .ok text => return text
  | .error _ => return ""

/-- Reads a file to its end. -/
def readPath (name : Octets) : Job (Except IoError Octets) := do
  let files ← files
  let path := Octets.toText name
  match files.deviceAt? path with
  | some (.stream n) => readStream n
  | _ => return (files.read path).map Octets.ofBytes

/-- Reads a file to its end, or the standard input if the name is a dash. -/
def readOperand (name : Octets) : Job (Except IoError Octets) :=
  if name = "-" then readStream 0 else readPath name

/-- Writes a file, in the place of what it held. -/
def writePath (name : Octets) (text : Octets) : Job (Except IoError Unit) := do
  let path := Octets.toText name
  match (← files).deviceAt? path with
  | some (.stream n) => write n text
  | _ => changeFiles (·.write path (Octets.toBytes text))

/-- Reads files that are given by their names, or the standard input if there are none, and does
something with each. What cannot be read is told. -/
def eachOperand (names : List Octets) (use : Octets → Octets → Job Unit) : Job Unit := do
  for name in if names.isEmpty then ["-"] else names do
    match ← readOperand name with
    | .ok text => use name text
    | .error e => warn (quoteIfNeeded name ++ ": " ++ reason e)

/-- Runs a program that is a task. -/
def perform (task : Job Unit) (call : Call) (machine : Machine) : Outcome × Machine :=
  let whole : Job Outcome := do
    try
      task
      flush
      return .exited (← get).status
    catch
      | .exited status =>
        modify fun w => { w with status }
        flush
        return .exited (← get).status
      | .killed signal => return .killed signal
  match EStateM.run whole { machine, call } with
  | .ok outcome w | .error outcome w => (outcome, w.machine)

end Job

end Modlet.Tool
