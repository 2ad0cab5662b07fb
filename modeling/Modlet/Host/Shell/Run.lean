import Modlet.Host.Shell.Builtin
import Modlet.Host.Shell.Expand

/-!
# Running commands

A command of a script is run on the shell, which it may change, and has a status. Parts of a
pipeline, commands in parentheses and commands whose output is filled in run in a copy of the shell,
which shares the machine with it. A command in the background is run when somebody waits for it, or
at the end.

A command can contain others, so running is told for a command given how those inside are run; the
definition is closed by a bound on how deep commands stand in one another.
-/

namespace Modlet.Shell

/-- How a command is run. -/
structure Mode where
  /-- Somebody looks at the status, so that it does not end the shell. -/
  tested : Bool := false
  /-- Nothing comes behind the command, so that a program can take the place of the shell. -/
  final : Bool := false

/-- What running a command needs. -/
structure Runner where
  /-- How programs are run. -/
  launch : Launch
  /-- How the commands in a command are run. -/
  evaluate : Mode → Node → Sh Nat

namespace Runner

open Sh

variable (self : Runner)

/-! ### Texts -/

/-- How much of a text is left to be read, apart from what aliases stand for. -/
def unread (reader : ReaderState) : Nat :=
  reader.active.foldl (fun n a => if a.passed then n else min n a.left) reader.rest.length

/-- Reads something of a script. How much was left of the text before and behind it is minded before
anything else is done, with whether the text ended within something. -/
def readWith {α : Type} (minding : Nat → Nat → Bool → Sh Unit)
    (read : ReaderState → EStateM.Result ScriptFault ReaderState α)
    (reader : ReaderState) : Sh (α × ReaderState) := do
  let s ← ask id
  let before := unread reader
  let reader :=
    { reader with aliases := s.aliases, nextDocument := s.nextDocument, documents := [] }
  match read reader with
  | .ok result reader =>
    minding before (unread reader) false
    change fun s =>
      { s with
        documents := reader.documents ++ s.documents, nextDocument := reader.nextDocument
        atEnd := reader.finished, reached := reader.line :: s.reached.drop 1 }
    return (result, reader)
  | .error fault reader =>
    let isBroken : Bool := match reader.last with
      | .newline => false
      | _ => reader.rest.isEmpty
    minding before (unread reader) isBroken
    change fun s => { s with line := fault.line, atEnd := reader.finished }
    fail fault.message

/-- How much of a text has been taken in whole lines once there is only some of it left. -/
def taken (text : List Char) (left : Nat) : Nat :=
  let place := text.length - left
  match (text.take place).getLast? with
  | none | some '\n' => place
  | some _ => min text.length (place + ((text.drop place).takeWhile (· ≠ '\n')).length + 1)

/-- The lines that are taken of a text between two places, told by how much is left. -/
def linesBetween (text : List Char) (before after : Nat) : List Char :=
  (text.take (taken text after)).drop (taken text before)

/-- Reads the next line of a script. The lines of a text are told if that is wanted. -/
def readNext (told : List Char) (reader : ReaderState) : Sh (Option Node × ReaderState) :=
  readWith (fun before after _ => do
    if (← option 'v') && !told.isEmpty then
      let _ ← write 2 (String.ofList (linesBetween told before after))) readLine reader

/-- Runs the lines of a script. -/
def runLines (mode : Mode) (told : List Char) : Nat → ReaderState → Nat → Sh Nat
  | 0, _, status => return status
  | bound + 1, reader, status => do
    let (node, reader) ← readNext told reader
    let final := mode.final && reader.finished
    let status ← match node with
      | some node => self.evaluate { mode with final } node
      | none => pure status
    if reader.finished then return status else runLines mode told bound reader status

/-- Runs a script, whose lines are told if it `isFile` and that is wanted. -/
def runText (mode : Mode) (text : Octets) (isFile : Bool := false) : Sh Nat := do
  let told := if isFile then text.toList else []
  change fun s => { s with reached := 1 :: s.reached }
  tryFinally (self.runLines mode told (text.length + 2) { rest := text.toList } 0)
    (change fun s => { s with reached := s.reached.drop 1 })

/-! ### Signals -/

/-- What something comes to that may stop. -/
def attempt {α : Type} (action : Sh α) : Sh (Except Stop α) :=
  try
    return .ok (← action)
  catch stop => return .error stop

/-- What a shell does when a signal comes; nothing if the signal does what it does by itself. -/
def actionFor? (shell : Interpreter) (signal : Nat) : Option Octets :=
  let isInteractive := shell.options.contains 'i' && shell.process = shell.root
  if Signal.isCertain signal then none
  else if shell.ignored.contains signal then some ""
  else
    match shell.traps.lookup signal with
    | some action => some action
    | none =>
      if Signal.isHarmless signal || (isInteractive && [3, 15].contains signal) then some ""
      else none

/-- Does what is to be done for a signal, after which the status is what it was. -/
def handle (action : Octets) : Sh Unit := do
  let s ← ask id
  let status := s.earlier?.getD s.status
  change fun t => { t with earlier? := some status }
  let result ← attempt (self.runText {} action)
  change fun t => { t with earlier? := s.earlier? }
  match result with
  | .ok _ => change fun t => { t with status }
  | .error (.giveBack _ false) => throw (.giveBack status false)
  | .error (.leave n) =>
    change fun t => { t with status }
    throw (.leave n)
  | .error (.goOn n) =>
    change fun t => { t with status }
    throw (.goOn n)
  | .error stop => throw stop

/-- Takes the signals that came for the shell. What ends it comes before what it does something for,
and of that the lowest number comes first. The bound is on their number. -/
def takeSignals : Nat → Sh Unit
  | 0 => return
  | bound + 1 => do
    let s ← get
    let mine := (s.machine.signals.filter (·.1 = s.shell.process)).map Prod.snd
    match mine.find? fun signal => (actionFor? s.shell signal).isNone with
    | some signal =>
      if signal = 2 && s.shell.options.contains 'i' && s.shell.process = s.shell.root then
        -- Whoever sits before an interactive shell only wants it to stop what it does.
        let signals := s.machine.signals.filter (· ≠ (s.shell.process, signal))
        set { s with machine := { s.machine with signals } }
        let _ ← write 2 "\n"
        change fun s => { s with status := 128 + signal }
        throw .failed
      else throw (.killed signal)
    | none =>
      match mine.min? with
      | none => return
      | some signal =>
        let signals := s.machine.signals.filter (· ≠ (s.shell.process, signal))
        set { s with machine := { s.machine with signals } }
        match actionFor? s.shell signal with
        | none | some "" => takeSignals bound
        | some action =>
          self.handle action
          takeSignals bound

/-- Takes the signals that came for the shell. -/
def poll : Sh Unit := self.takeSignals 100

/-! ### Shells of their own -/

/-- Runs what is to be done at the end of the shell, and tells how it ends. -/
def atEnd (status : Nat) : Sh Outcome := do
  match (← ask (·.traps)).lookup 0 with
  | none | some "" => return .exited status
  | some action =>
    change fun s => { s with traps := s.traps.filter (·.1 ≠ 0), status, earlier? := some status }
    match ← attempt (self.runText {} action) with
    | .error (.exit status) => return .exited status
    | .error (.killed signal) => return .killed signal
    | .error .failed => return .exited (← ask (·.status))
    | _ => return .exited status

/-- Does something as all that a shell does, and tells how the shell ends. -/
def conclude (action : Sh Nat) : Sh Outcome := do
  match ← attempt action with
  | .error (.killed signal) => return .killed signal
  | .ok status | .error (.exit status) | .error (.giveBack status _) => self.atEnd status
  | .error _ => do self.atEnd (← ask (·.status))

/-- Does something in another shell on the same machine, and tells how that ends. -/
def within (shell : Interpreter) (action : Sh Nat) : Sh Outcome := do
  let s ← get
  set { s with shell, waiting := [] }
  let outcome ← self.conclude action
  modify fun t => { t with shell := s.shell, waiting := t.waiting }
  let behind := (← get).waiting
  modify fun t => { t with waiting := [] }
  for one in behind do
    modify fun t => { t with shell := one.shell }
    let _ ← self.conclude (self.evaluate { final := true } one.body)
  modify fun t => { t with shell := s.shell, waiting := s.waiting }
  return outcome

/-- A copy of the shell with a process of its own. Signals that are not ignored do in it what they
do by themselves. -/
def copy : Sh Interpreter := do
  let process ← act Machine.fork
  let s ← ask id
  let reached := s.reached.drop (s.reached.length - 1)
  return { s with process, reached, traps := s.traps.filter (·.2 = ""), jobs := [] }

/-- The status that tells how a command ended. -/
def statusOf : Outcome → Nat
  | .exited status => status % 256
  | .killed signal => 128 + signal

/-- Notes that a command with a process of its own has ended, and tells it if a signal has ended
it. -/
def report (outcome : Outcome) : Sh Unit := do
  let s ← ask id
  if (s.traps.lookup Signal.childEnded).isSome then
    act fun m => ((), m.send s.process Signal.childEnded)
  match outcome with
  | .killed signal =>
    if signal ≠ 2 && signal ≠ 13 then
      let _ ← write 2 (Octets.line (Signal.description signal))
  | .exited _ => return

/-- Runs the commands in the background that have not begun. -/
def runWaiting : Sh Unit := do
  let s ← get
  set { s with waiting := [] }
  for one in s.waiting do
    let outcome ← self.within one.shell (self.evaluate { final := true } one.body)
    change fun t => { t with jobs := (one.shell.process, outcome) :: t.jobs }

/-- Waits for commands in the background. -/
def wait (args : List Octets) : Sh Nat := do
  let args ← withoutOptions args
  self.runWaiting
  if args.isEmpty then return 0
  else
    args.foldlM (fun _ arg => do
      let number ← match arg.toList with
        | '%' :: _ => do pure (← jobNamed arg).process
        | _ => count arg
      match (← ask (·.jobs)).lookup number with
      | some outcome =>
        report outcome
        return statusOf outcome
      | none => return 127) 127

/-- The output of a command that is filled in. -/
def capture (body : Option Node) : Sh Octets := do
  match body with
  | none => return ""
  | some body =>
    let (writer, reader) ← act (·.addPipe .empty)
    let shell ← copy
    let streams := (1, writer) :: shell.streams.filter (·.1 ≠ 1)
    let outcome ← self.within { shell with streams } (self.evaluate { final := true } body)
    report outcome
    change fun s => { s with filledStatus := statusOf outcome }
    let text ← act (·.readAll reader)
    let kept := (text.toList.filter (· ≠ '\x00')).reverse.dropWhile (· = '\n')
    return String.ofList kept.reverse

/-! ### Redirections -/

/-- A redirection whose words are filled in. -/
inductive Target
  | file (stream : Nat) (manner : Manner) (name : Octets)
  | copy (stream : Nat) (source : Option Nat)
  | document (stream : Nat) (word : Word)

/-- Fills in the words of a redirection. -/
def fillTarget (redirect : Redirect) : Sh Target := do
  match redirect with
  | .file stream manner name => return .file stream manner (← fillText self.capture false name)
  | .copy stream source =>
    let text ← fillText self.capture false source
    match text.toList with
    | ['-'] => return .copy stream none
    | [c] => if c.isDigit then return .copy stream (some (c.toNat - 48)) else bad
    | _ => bad
  | .document stream number =>
    return .document stream (((← ask (·.documents)).lookup number).getD [])
where
  /-- Refuses a text that is the number of no stream. -/
  bad : Sh Target := do
    change fun s => { s with line := s.reached.headD 1 }
    fail "Syntax error: Bad fd number"

/-- Sets a stream to an open file. -/
def setStream (stream number : Nat) : Sh Unit :=
  change fun s => { s with streams := (stream, number) :: s.streams.filter (·.1 ≠ stream) }

/-- Does a redirection, or tells why that cannot be done. A stream is closed before another takes
its place, so nobody learns that there is nothing to take the place of the one for complaints; but
what redirections before have put into its place is not closed. -/
def redirectOne (done : List Nat) (target : Target) : Sh Bool := do
  match target with
  | .file stream manner name =>
    let isThere := (Condition.nodeAt? (← files) name).any fun (_, node) =>
      match node with
      | .file _ => true
      | _ => false
    if manner = .write && isThere && (← option 'C') then
      complain ("cannot create " ++ name ++ ": File exists")
      return false
    match ← openFile manner name with
    | .ok number =>
      setStream stream number
      return true
    | .error e =>
      if manner = .read then complain ("cannot open " ++ name ++ ": " ++ reason "No such file" e)
      else complain ("cannot create " ++ name ++ ": " ++ reason "Directory nonexistent" e)
      return false
  | .copy stream none =>
    change fun s => { s with streams := s.streams.filter (·.1 ≠ stream) }
    return true
  | .copy stream (some source) =>
    match (← ask (·.streams)).lookup source with
    | some number =>
      setStream stream number
      return true
    | none =>
      if stream = source then return true
      if stream ≠ 2 || done.contains 2 then complain (source.repr ++ ": Bad file descriptor")
      return false
  | .document stream word =>
    match ← attempt (fillText self.capture false word) with
    | .ok text =>
      let (_, reader) ← act (·.addPipe (Octets.toBytes text))
      setStream stream reader
      return true
    | .error .failed => return false
    | .error stop => throw stop

/-- The stream that a redirection changes, if it changes one. -/
def Target.stream? : Target → Option Nat
  | .file stream .. | .copy stream none | .document stream _ => some stream
  | .copy stream (some source) => if stream = source then none else some stream

/-- Does redirections in order, up to one that cannot be done, behind some of streams. -/
def redirectAll (done : List Nat) : List Target → Sh Bool
  | [] => return true
  | target :: targets => do
    if ← self.redirectOne done target then redirectAll (target.stream?.toList ++ done) targets
    else return false

/-! ### Commands with a name -/

/-- Runs a program, and tells how it ended or why it cannot be run. A file that is no program is
given to a shell. -/
def runFile (process : Nat) (path name : Octets) (args : List Octets) :
    Sh (Except IoError Outcome) := do
  let s ← ask id
  let call : Call :=
    { path, name, args, streams := s.streams, here := s.here, mask := s.mask
      limits := s.limits, settings := ← environment, process
      parent := s.process
      ignored := s.ignored ++ (s.traps.filter (·.2 = "")).map Prod.fst }
  match ← act (self.launch call) with
  | .error .noProgram =>
    act (self.launch { call with path := "/bin/sh", name := "/bin/sh", args := path :: args })
  | answer => return answer

/-- The text and the status for a program that cannot be run. -/
def refusal (e : IoError) : Octets × Nat :=
  let isMissing : Bool := [IoError.notFound, .notDirectory, .nameTooLong, .system 40].contains e
  (reason "not found" e, if isMissing then 127 else 126)

/-- Runs a command that is a program. -/
def runProgram (mode : Mode) (name : Octets) (args : List Octets) : Sh Nat := do
  match ← noteProgram name with
  | .error e =>
    let (text, status) := refusal e
    complain (name ++ ": " ++ text)
    return if name.toList.contains '/' then status else 127
  | .ok path =>
    let s ← get
    let replaces := mode.final && s.shell.traps.isEmpty
    let process ← if replaces then pure s.shell.process else act Machine.fork
    match ← self.runFile process path name args with
    | .error e =>
      let (text, status) := refusal e
      complain (name ++ ": " ++ text)
      return status
    | .ok outcome =>
      match replaces, outcome with
      | true, .killed signal => throw (.killed signal)
      | _, _ =>
        if !replaces then report outcome
        return statusOf outcome

/-- Puts a program in the place of the shell. -/
def replace (args : List Octets) : Sh Nat := do
  match args with
  | [] => return 0
  | name :: args =>
    let refuse (e : IoError) : Sh Nat := do
      let (text, status) := refusal e
      complain (name ++ ": " ++ text)
      change fun s => { s with status }
      throw (.exit status)
    match ← findProgram name with
    | .error e => refuse e
    | .ok path =>
      match ← self.runFile (← ask (·.process)) path name args with
      | .error e => refuse e
      | .ok outcome =>
        change fun s => { s with traps := [] }
        match outcome with
        | .exited status => throw (.exit status)
        | .killed signal => throw (.killed signal)

/-- The script in a file. There is nothing in a directory. -/
def readScript (files : FileSystem) (path : Octets) : Except IoError ByteArray :=
  if Condition.holdsOf files "-d" path then .ok .empty else files.read (Octets.toText path)

/-- Runs the script in a file on the shell itself. -/
def source (args : List Octets) : Sh Nat := do
  match ← withoutOptions args with
  | [] => return 0
  | name :: _ =>
    let files ← files
    let path ← if name.toList.contains '/' then pure name
      else do
        let candidates := (← searchPath).map (Search.inside · name)
        let isFile (path : Octets) : Bool := Condition.holdsOf files "-f" path
        match candidates.find? isFile with
        | some path => pure path
        | none => fail (name ++ ": not found")
    match readScript files path with
    | .error e => fail ("cannot open " ++ path ++ ": " ++ reason "No such file" e)
    | .ok content =>
      let kept ← ask (·.command)
      change fun s => { s with command := some path }
      let result ← attempt (self.runText {} (Octets.ofBytes content) true)
      change fun s => { s with command := kept }
      match result with
      | .ok status | .error (.giveBack status _) => return status
      | .error stop => throw stop

/-- Runs a command that may run others, or one that the shell has itself. -/
def dispatch (mode : Mode) (name : Octets) (args : List Octets) : Sh Nat := do
  match name with
  | "eval" =>
    if args.isEmpty then return 0
    else self.runText { tested := mode.tested } (" ".intercalate args)
  | "." => self.source args
  | "exec" => self.replace args
  | "wait" => self.wait args
  | "command" =>
    let (options, names) ← takeOptions [('p', false), ('v', false), ('V', false)] args
    match options.reverse.find? (·.1 ≠ 'p'), names with
    | some (letter, _), name :: _ => describe (letter = 'V') name
    | _, _ => return 0
  | name =>
    match runOwn? name with
    | some run => run args
    | none => return 127

/-- Runs a command that the shell has itself. A mistake in it ends the shell only if it is a special
one. -/
def runOwn (special : Bool) (mode : Mode) (name : Octets) (args : List Octets) : Sh Nat := do
  let kept ← ask (·.command)
  change fun s => { s with command := some name, blocked := false }
  let result ← attempt do
    let status ← self.dispatch mode name args
    if ← ask (·.blocked) then
      complain (name ++ ": I/O error")
      return if status % 2 = 0 then status + 1 else status
    else return status
  change fun s => { s with command := kept, blocked := false }
  match result with
  | .ok status => return status
  | .error .failed => if special then throw .failed else ask (·.status)
  | .error stop => throw stop

/-- The depth to which functions can call one another. -/
def deepestCall : Nat := 1000

/-- Runs a function. -/
def runFunction (mode : Mode) (definition : Node) (args : List Octets) : Sh Nat := do
  match definition with
  | .define _ body =>
    let before ← ask id
    if before.calls ≥ deepestCall then
      fail ("Maximum function recursion depth (" ++ deepestCall.repr ++ ") reached")
    setArgs args
    change fun s => { s with loops := 0, calls := s.calls + 1 }
    let result ← attempt (self.evaluate { tested := mode.tested } body)
    change fun s =>
      { s with
        args := before.args, optionIndex? := before.optionIndex?
        optionPlace := before.optionPlace, loops := before.loops, calls := before.calls }
    match result with
    | .ok status | .error (.giveBack status _) => return status
    | .error stop => throw stop
  | _ => return 0

/-! ### Simple commands -/

/-- The arguments behind the command that says that no function is meant, and its options. -/
def behindCommand : List Octets → Option (List Octets)
  | [] => none
  | arg :: args =>
    match arg.toList with
    | ['-', '-'] => if args.isEmpty then none else some args
    | '-' :: c :: letters => if (c :: letters).all (· = 'p') then behindCommand args else none
    | _ => some (arg :: args)

/-- Drops words that say that no function is meant, and tells whether there were any. -/
def dropCommand : Nat → List Octets → Bool × List Octets
  | 0, args => (false, args)
  | bound + 1, args =>
    match args with
    | "command" :: rest =>
      match behindCommand rest with
      | some rest => (true, (dropCommand bound rest).2)
      | none => (false, args)
    | args => (false, args)

/-- Fills in the words of a command. The arguments of some commands can be settings, which stay one
word. -/
def fillArgs (isCalled : Octets → Bool) (words : List Word) : Sh (List Octets) :=
  words.foldlM (fun args word => do
    let (bare, behind) := if isCalled "command" then (false, args)
      else dropCommand (args.length + 1) args
    let takesSettings := behind.head?.any fun name =>
      settingCommands.contains name && (bare || specialCommands.contains name || !isCalled name)
    match takesSettings, splitSetting? word with
    | true, some (name, value) =>
      return args ++ [name ++ "=" ++ (← fillText self.capture true value)]
    | _, _ => return args ++ (← fillWords self.capture word)) []

/-- What a variable says that is to stand before something that is told. If it cannot be filled in
it is told as it is. -/
def front (name : Octets) : Sh Octets := do
  let text := (← value? name).getD ""
  change fun s => { s with tracing := true, reached := 1 :: s.reached }
  let result ← attempt do
    let again ← ask (·.atEnd)
    let (word, _) ← readWith (fun _ _ _ => pure ()) readPrompt
      { rest := text.toList, origin := .prompt, again, last := .endOfFile }
    return unmarked (← fillOne self.capture false word)
  change fun s => { s with tracing := false, reached := s.reached.drop 1 }
  match result with
  | .ok front => return front
  | .error .failed => return text
  | .error stop => throw stop

/-- Tells a command before it is run. -/
def trace (number? : Option Nat) (settings : List (Octets × Octets)) (args : List Octets) :
    Sh Unit := do
  if (← option 'x') && !(← ask (·.tracing)) then
    let front ← self.front "PS4"
    let parts := settings.map (fun (name, value) => name ++ "=" ++ value) ++ args
    match number? with
    | some number =>
      let _ ← act (·.write number (Octets.line (front ++ " ".intercalate parts)))
    | none => return

/-- Sets the variables of a command. -/
def assign (exported : Bool) (settings : List (Octets × Word)) : Sh (List (Octets × Octets)) :=
  settings.mapM fun (name, word) => do
    let value ← fillText self.capture true word
    setValue name value
    if exported then changeSetting name fun setting => { setting with exported := true }
    return (name, value)

/-- Runs a simple command. -/
def runSimple (mode : Mode) (line : Nat) (settings : List (Octets × Word)) (words : List Word)
    (redirects : List Redirect) : Sh Nat := do
  change fun s => { s with line, filledStatus := 0 }
  let functions ← ask (·.functions)
  let isCalled (name : Octets) : Bool := functions.any (·.1 = name)
  let all ← self.fillArgs isCalled words
  let (bare, args) := if isCalled "command" then (false, all)
    else dropCommand (all.length + 1) all
  let own := args.head?.filter ownCommands.contains
  let function? : Option Node := match args.head? with
    | some name =>
      if bare || specialCommands.contains name then none else functions.lookup name
    | none => none
  let special := !bare && own.any specialCommands.contains && function?.isNone
  let errors? := (← ask (·.streams)).lookup 2
  let targets ← redirects.mapM self.fillTarget
  let run : Sh Nat := do
    if !(← self.redirectAll [] targets) then
      change fun s => { s with status := 2 }
      if special then throw .failed else return 2
    else
      match args with
      | [] =>
        let values ← self.assign false settings
        self.trace errors? values []
        ask (·.filledStatus)
      | name :: rest =>
        let isExec : Bool := name = "exec" && !rest.isEmpty
        let act (keep : Bool) : Sh Nat := do
          if keep then
            for (name, _) in settings do keepSetting name
          let values ← self.assign (keep || isExec) settings
          self.trace errors? values all
          match function?, own with
          | some definition, _ => self.runFunction mode definition rest
          | none, some name => self.runOwn special mode name rest
          | none, none => self.runProgram mode name rest
        if special then act false else inFrame (act true)
  if redirects.isEmpty || (special && args = ["exec"]) then run else keepingStreams run

/-! ### Other commands -/

/-- What a loop does after a stop inside it: whether it goes on, if the stop is its own. -/
def roundAfter (stop : Stop) : Sh Bool := do
  match stop with
  | .leave n => if n ≤ 1 then return false else throw (.leave (n - 1))
  | .goOn n => if n ≤ 1 then return true else throw (.goOn (n - 1))
  | stop => throw stop

/-- Does something inside one loop more. -/
def inLoop {α : Type} (action : Sh α) : Sh α := do
  change fun s => { s with loops := s.loops + 1 }
  tryFinally action (change fun s => { s with loops := s.loops - 1 })

/-- Runs the rounds of a loop. -/
def runRounds (mode : Mode) (fails : Bool) (test body : Node) : Nat → Nat → Sh Nat
  | 0, status => return status
  | bound + 1, status => do
    match ← attempt (self.evaluate { tested := true } test) with
    | .error stop =>
      if ← roundAfter stop then runRounds mode fails test body bound status else return status
    | .ok tested =>
      if (tested = 0) = fails then return status
      else
        match ← attempt (self.evaluate { tested := mode.tested } body) with
        | .ok status => runRounds mode fails test body bound status
        | .error stop =>
          if ← roundAfter stop then runRounds mode fails test body bound 0 else return 0

/-- Runs a loop over words. -/
def runEach (mode : Mode) (name : Octets) (body : Node) : List Octets → Nat → Sh Nat
  | [], status => return status
  | word :: words, _ => do
    setValue name word
    match ← attempt (self.evaluate { tested := mode.tested } body) with
    | .ok status => runEach mode name body words status
    | .error stop => if ← roundAfter stop then runEach mode name body words 0 else return 0

/-- Whether a pattern stands for a text. -/
def fitsPattern (text : Octets) (pattern : Word) : Sh Bool := do
  let filled ← fillOne self.capture false (← fillHome false pattern)
  return Glob.fits (Glob.ofText filled) text.toList

/-- Runs the case with a pattern that stands for a text. -/
def runCases (mode : Mode) (text : Octets) : List (List Word × Option Node) → Sh Nat
  | [] => return 0
  | (patterns, body) :: others => do
    if ← patterns.anyM (self.fitsPattern text) then
      match body with
      | some body => self.evaluate mode body
      | none => return 0
    else runCases mode text others

/-- The name that a word is, if it is nothing else. -/
def plainName? (word : Word) : Option Octets := do
  let chars ← word.mapM fun
    | .char c false => some c
    | _ => none
  if isName (String.ofList chars) then some (String.ofList chars) else none

/-- Notes where the programs are that the commands of a pipeline plainly name. -/
def noteProgramsOf (commands : List Node) : Sh Unit := do
  for command in commands do
    match command with
    | .simple _ _ (word :: _) _ =>
      match plainName? word with
      | some name =>
        if let .program _ := ← meaning name then
          let _ ← noteProgram name
      | none => pure ()
    | _ => pure ()

/-- Runs the commands of a pipeline one after the other, each on what the one before it wrote. -/
def runPiped (mode : Mode) (source : Option Nat) : List Node → Sh Nat
  | [] => return 0
  | command :: others => do
    let shell ← copy
    let streams := match source with
      | some number => (0, number) :: shell.streams.filter (·.1 ≠ 0)
      | none => shell.streams
    let run (streams : List (Nat × Nat)) : Sh Outcome :=
      self.within { shell with streams } (self.evaluate { mode with final := true } command)
    if others.isEmpty then
      let outcome ← run streams
      report outcome
      return statusOf outcome
    else
      let (writer, reader) ← act (·.addPipe .empty true)
      let outcome ← run ((1, writer) :: streams.filter (·.1 ≠ 1))
      report outcome
      runPiped mode (some reader) others

/-- Runs a command in a shell of its own. -/
def runApart (mode : Mode) (line : Nat) (body : Node) (redirects : List Redirect) : Sh Nat := do
  change fun s => { s with line }
  let targets ← redirects.mapM self.fillTarget
  let s ← ask id
  let replaces := mode.final && s.traps.isEmpty
  let shell ← copy
  let shell := if replaces then { shell with process := s.process } else shell
  let outcome ← self.within shell do
    if ← self.redirectAll [2] targets then self.evaluate { mode with final := true } body
    else
      change fun s => { s with status := 2 }
      throw .failed
  match replaces, outcome with
  | true, .killed signal => throw (.killed signal)
  | _, _ =>
    report outcome
    return statusOf outcome

/-- Keeps a command for when somebody waits for it. -/
def runBehind (body : Node) : Sh Nat := do
  let shell ← copy
  let number ← act (·.add { channel := .device .null })
  let streams := (0, number) :: shell.streams.filter (·.1 ≠ 0)
  modify fun s => { s with waiting := s.waiting ++ [{ shell := { shell with streams }, body }] }
  change fun s => { s with background := some shell.process }
  return 0

/-- Runs a command, and tells its status and whether a failure ends the shell. -/
def runNode (mode : Mode) : Node → Sh (Nat × Bool)
  | .simple line settings words redirects => do
    return (← self.runSimple mode line settings words redirects, true)
  | .pipeline commands => do
    noteProgramsOf commands
    return (← self.runPiped mode none commands, true)
  | .both first second => do
    let status ← self.evaluate { tested := true } first
    if status ≠ 0 then return (status, false)
    else return (← self.evaluate mode second, false)
  | .either first second => do
    let status ← self.evaluate { tested := true } first
    if status = 0 then return (status, false)
    else return (← self.evaluate mode second, false)
  | .sequence first second => do
    let _ ← self.evaluate { tested := mode.tested } first
    return (← self.evaluate mode second, false)
  | .negation body => do
    let status ← self.evaluate { tested := true } body
    return (if status = 0 then 1 else 0, false)
  | .background body => do return (← runBehind body, true)
  | .subshell line body redirects => do
    return (← self.runApart mode line body redirects, true)
  | .redirected line body redirects => do
    change fun s => { s with line }
    let targets ← redirects.mapM self.fillTarget
    keepingStreams do
      if ← self.redirectAll [] targets then
        return (← self.evaluate { tested := mode.tested } body, false)
      else return (2, true)
  | .choice test yes no => do
    if (← self.evaluate { tested := true } test) = 0 then
      return (← self.evaluate mode yes, false)
    else
      match no with
      | some no => return (← self.evaluate mode no, false)
      | none => return (0, false)
  | .loop fails test body => do
    return (← inLoop (self.runRounds mode fails test body 1000000000 0), false)
  | .forEach line name words body => do
    change fun s => { s with line }
    let filled ← words.mapM (fillWords self.capture)
    return (← inLoop (self.runEach mode name body filled.flatten 0), false)
  | .select line subject cases => do
    change fun s => { s with line }
    let text ← fillText self.capture false subject
    return (← self.runCases mode text cases, false)
  | .define name body => do
    change fun s =>
      { s with
        functions := (name, .define name body) :: s.functions.filter (·.1 ≠ name) }
    return (0, false)

/-- Runs a command, with signals and failures minded. -/
def run (mode : Mode) (node : Node) : Sh Nat := do
  if ← option 'n' then return 0
  else
    self.poll
    let (status, ends) ← self.runNode mode node
    change fun s => { s with status }
    self.poll
    if ends && status ≠ 0 && !mode.tested && (← option 'e') then throw (.exit status)
    return status

end Runner

/-- The depth to which commands can stand in one another. -/
def deepest : Nat := 20000

/-- Runs commands, given how programs are run. -/
def evaluate (launch : Launch) : Nat → Mode → Node → Sh Nat
  | 0, _, _ => throw (.killed 11)
  | bound + 1, mode, node =>
    ({ launch, evaluate := evaluate launch bound } : Runner).run mode node

/-! ### Whole shells -/

/-- Reads the next line of a script that somebody types, who is asked for each line. -/
def readTyped (runner : Runner) (text : List Char) (reader : ReaderState) :
    Sh (Option Node × ReaderState) := do
  let ask_ (name : Octets) : Sh Unit := do
    let _ ← Sh.write 2 (← runner.front name)
  ask_ "PS1"
  Runner.readWith
    (fun before after isBroken => do
      let lines := Octets.linesOf (Runner.linesBetween text before after)
      let isEnded := (lines.getLast?.bind List.getLast?) = some '\n'
      let more := if isBroken && isEnded then lines.length else lines.length - 1
      for _ in List.range more do ask_ "PS2") readLine reader

/-- Runs lines that somebody types. -/
def runTyped (runner : Runner) (text : List Char) : Nat → ReaderState → Nat → Sh Nat
  | 0, _, status => return status
  | bound + 1, reader, status => do
    let (node, reader) ← readTyped runner text reader
    match node with
    | some node => runTyped runner text bound reader (← runner.evaluate {} node)
    | none => if reader.finished then return status else runTyped runner text bound reader status

/-- What is told at the end of the input. -/
def tellEnd (runner : Runner) : Sh Unit := do
  let isInteractive ← Sh.option 'i'
  if ← Sh.option 'I' then
    for _ in List.range 50 do
      let front ← if isInteractive then runner.front "PS1" else pure ""
      let _ ← Sh.write 2 ("\nUse \"exit\" to leave shell.\n" ++ front)
  else if isInteractive then
    let _ ← Sh.write 2 "\n"

/-- Runs what is typed. After a mistake what is left of it is not read. -/
def interact (runner : Runner) : Nat → Octets → Sh Nat
  | 0, _ => Sh.ask (·.status)
  | bound + 1, text => do
    let status ← Sh.ask (·.status)
    match ← Runner.attempt
        (runTyped runner text.toList (text.length + 2) { rest := text.toList } status) with
    | .ok status =>
      tellEnd runner
      return status
    | .error .failed => if ← Sh.option 'i' then interact runner bound "" else throw .failed
    | .error stop => throw stop

/-- Runs the script that a variable names for interactive shells, in which a mistake ends nothing
else. -/
def runProfile (runner : Runner) : Sh Unit := do
  if ← Sh.option 'i' then
    let path ← runner.front "ENV"
    if path ≠ "" then
      match Runner.readScript (← Sh.files) path with
      | .error _ => return
      | .ok content =>
        match ← Runner.attempt (runner.runText {} (Octets.ofBytes content) true) with
        | .ok _ | .error .failed => return
        | .error stop => throw stop

/-- Runs the script that arguments of a shell tell. -/
def runScript (runner : Runner) (c : Sh.Called) : Sh Nat := do
  let begin_ (name? : Option Octets) (args : List Octets) : Sh Unit := do
    Sh.change fun s => { s with name := name?.getD s.name, args }
    if c.control?.getD (← Sh.option 'i') then Sh.refuseControl
    runProfile runner
  let run (text : Octets) : Sh Nat := do
    if ← Sh.option 'i' then interact runner 1000 text
    else
      let told := text.toList
      let before ← Sh.ask (·.status)
      let status ← runner.runLines {} told (text.length + 2) { rest := told } before
      tellEnd runner
      return status
  let refuse (message : Octets) : Sh Nat := do
    Sh.complain message
    throw (.exit 2)
  match c.scripted, c.args with
  | true, [] => refuse "-c requires an argument"
  | true, script :: rest =>
    begin_ rest.head? (rest.drop 1)
    let status ← runner.runText { final := !(← Sh.option 's') } script
    if ← Sh.option 's' then run (← Sh.readInput) else return status
  | false, args =>
    if args.isEmpty || (← Sh.option 's') then
      Sh.putOption 's' true
      begin_ none args
      run (← Sh.readInput)
    else
      let name := args.headD ""
      match Runner.readScript (← Sh.files) name with
      | .error e => refuse ("cannot open " ++ name ++ ": " ++ Sh.reason "No such file" e)
      | .ok content =>
        begin_ (some name) (args.drop 1)
        run (Octets.ofBytes content)

/-- The shell of a call. -/
def Interpreter.ofCall (files : FileSystem) (call : Call) : Interpreter :=
  let given := (call.settings.filter fun entry => isName entry.1).map fun (name, value) =>
    (name, ({ value := some value, exported := true } : Setting))
  let usual (name value : Octets) : List (Octets × Setting) :=
    if (given.lookup name).isSome then [] else [(name, { value := some value })]
  let fixed (name value : Octets) : Octets × Setting := (name, { value := some value })
  let here := Octets.ofText (FileSystem.absolutePath call.here)
  let named := ((given.lookup "PWD").bind (·.value)).getD ""
  let hasPlace : Bool := match files.stat (Octets.toText named) with
    | .ok (location, _) => location = call.here && named.toList.head? = some '/'
    | .error _ => false
  let kept := given.filter fun entry =>
    !(["IFS", "OPTIND", "PPID"].contains entry.1) && (hasPlace || entry.1 ≠ "PWD")
  { name := call.name, args := [], process := call.process, root := call.process
    ignored := call.ignored, mask := call.mask, limits := call.limits
    parent := call.parent, streams := call.streams, here := call.here
    place := if hasPlace then named else here, line := 0
    settings :=
      [fixed "IFS" " \t\n", fixed "OPTIND" "1", fixed "PPID" call.parent.repr]
        ++ (if hasPlace then []
          else [("PWD", { value := some here, exported := true })])
        ++ usual "PATH" Search.usualPath ++ usual "PS1" "# " ++ usual "PS2" "> "
        ++ usual "PS4" "+ " ++ kept }

/-- What a shell does that is called with arguments. -/
def runCall (runner : Runner) (args : List Octets) : Sh Nat := do
  let c ← Sh.readShellOptions true (args.length + 1) { args }
  match ← Runner.attempt (runScript runner c) with
  | .ok status => return status
  | .error .failed =>
    if ← Sh.option 'i' then interact runner 1000 (← Sh.readInput) else throw .failed
  | .error stop => throw stop

/-- Runs a shell that is called as a program. -/
def exec (launch : Launch) (call : Call) (machine : Machine) : Outcome × Machine :=
  let shell := Interpreter.ofCall (machine.filesFor call.here call.mask) call
  let runner : Runner := { launch, evaluate := evaluate launch deepest }
  match (runner.within shell (runCall runner call.args)).run { machine, shell } with
  | .ok outcome s => (outcome, s.machine)
  | .error _ s => (.exited 2, s.machine)

end Modlet.Shell
