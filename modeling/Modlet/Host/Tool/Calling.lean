import Modlet.Host.Search
import Modlet.Host.Tool.Basic

/-!
# Programs that call others

A program can call others, for which it is told how programs are run. The environment of a program
can be changed so, and what is read can become the arguments of a program.
-/

namespace Modlet.Tool

open Job

/-- The directories in which programs are looked for if the environment names none. -/
def barePath : Octets := "/bin:/usr/bin"

/-- Runs a program by its name, as a process with the given number, and tells how it ended or why it
cannot be run. A file that is no program is given to a shell. -/
def runNamed (launch : Launch) (process : Nat) (settings : List (Octets × Octets))
    (streams : List (Nat × Nat)) (name : Octets) (args : List Octets) :
    Job (Except IoError Outcome) := do
  let call := (← get).call
  match Search.find (← files) ((settings.lookup "PATH").getD barePath) name with
  | .error e => return .error e
  | .ok path =>
    let parent := if process = call.process then call.parent else call.process
    let call : Call :=
      { path, name, args, streams, here := call.here, settings, process, parent
        mask := call.mask, limits := call.limits }
    match ← act (launch call) with
    | .error .noProgram =>
      act (launch { call with path := "/bin/sh", name := "/bin/sh", args := path :: args })
    | answer => return answer

/-- The status for a program that cannot be run. -/
def refusalStatus (e : IoError) : Nat := if e = .notFound then 127 else 126

/-! ### Changing the environment -/

/-- The setting that an argument is, if it is one. -/
def settingOf? (arg : Octets) : Option (Octets × Octets) :=
  let name := arg.toList.takeWhile (· ≠ '=')
  if name.length < arg.length then
    some (String.ofList name, String.ofList (arg.toList.drop (name.length + 1)))
  else none

/-- Runs a program in a changed environment, or writes the environment. -/
def env (launch : Launch) : Job Unit := do
  let a ← orderedArguments
    [⟨'i', "ignore-environment", .none, false⟩, ⟨'0', "null", .none, false⟩,
      ⟨'u', "unset", .needed, false⟩, ⟨'C', "chdir", .needed, false⟩] 125
  let call := (← get).call
  let (isBare, operands) := match a.operands with
    | "-" :: rest => (true, rest)
    | operands => (a.has 'i', operands)
  let kept := if isBare then [] else
    call.settings.filter fun entry => !(a.all 'u').contains entry.1
  let set := operands.takeWhile fun arg => (settingOf? arg).isSome
  let settings := (set.filterMap settingOf?).foldl
    (fun settings (name, value) =>
      if (settings.lookup name).isSome then
        settings.map fun entry => if entry.1 = name then (name, value) else entry
      else settings ++ [(name, value)]) kept
  match a.last? 'C' with
  | none => pure ()
  | some name =>
    match (← files).stat (Octets.toText name) with
    | .ok (location, .directory) =>
      modify fun w => { w with call := { w.call with here := location } }
    | .ok _ =>
      fail 125 ("cannot change directory to " ++ quote name ++ ": " ++ reason .notDirectory)
    | .error e => fail 125 ("cannot change directory to " ++ quote name ++ ": " ++ reason e)
  match operands.drop set.length with
  | [] =>
    for (name, value) in settings do
      say (name ++ "=" ++ value ++ if a.has '0' then "\x00" else "\n")
  | name :: args =>
    match ← runNamed launch call.process settings call.streams name args with
    | .ok outcome => throw outcome
    | .error e => fail (refusalStatus e) (quote name ++ ": " ++ reason e)

/-! ### Programs under conditions -/

/-- Runs a program with arguments as it is, or tells why it cannot be run. -/
def runAlone (launch : Launch) (lead name : Octets) (args : List Octets) : Job Outcome := do
  let call := (← get).call
  match ← runNamed launch call.process call.settings call.streams name args with
  | .ok outcome => return outcome
  | .error e => fail (refusalStatus e) (lead ++ quote name ++ ": " ++ reason e)

/-- Runs a program for some time at most. A program that takes longer has done all its work here. -/
def timeout (launch : Launch) : Job Unit := do
  let a ← orderedArguments
    [⟨'f', "foreground", .none, false⟩, ⟨'k', "kill-after", .needed, false⟩,
      ⟨'p', "preserve-status", .none, false⟩, ⟨'s', "signal", .needed, false⟩,
      ⟨'v', "verbose", .none, false⟩] 125
  match a.operands with
  | text :: name :: args =>
    match duration? text with
    | none => misuse 125 ("invalid time interval " ++ quote text)
    | some limit =>
      let before := (← get).machine.clock
      let process ← act Machine.fork
      let call := (← get).call
      match ← runNamed launch process call.settings call.streams name args with
      | .error e =>
        fail (refusalStatus e) ("failed to run command " ++ quote name ++ ": " ++ reason e)
      | .ok outcome =>
        let late := limit ≠ 0 && (← get).machine.clock > before + limit
        match outcome with
        | .exited status => throw (.exited (if late then 124 else status))
        | .killed signal => throw (if signal = 9 then outcome else .exited (128 + signal))
  | _ => seeHelp 125

/-- Runs a program that gives way to others, or tells how much one does. -/
def nice (launch : Launch) : Job Unit := do
  let args := (← get).call.args.map fun arg =>
    match arg.toList with
    | '-' :: d :: more => if (d :: more).all Char.isDigit then "-n" ++ String.ofList (d :: more)
      else arg
    | _ => arg
  modify fun w => { w with call := { w.call with args } }
  let a ← orderedArguments [⟨'n', "adjustment", .needed, false⟩] 125
  if let some value := a.last? 'n' then
    if (Integer.readWhole? 10 value).isNone then fail 125 ("invalid adjustment " ++ quote value)
  match a.operands with
  | [] =>
    if a.has 'n' then misuse 125 "a command must be given with an adjustment"
    say "0\n"
  | name :: args => throw (← runAlone launch "" name args)

/-- Runs a program that goes on without whoever started it. -/
def nohup (launch : Launch) : Job Unit := do
  let a ← orderedArguments [] 125
  match a.operands with
  | [] => misuse 125 "missing operand"
  | name :: args => throw (← runAlone launch "failed to run command " name args)

/-- Tells where programs are. -/
def which : Job Unit := do
  let args := (← get).call.args
  let options := args.takeWhile fun arg => arg ≠ "-" && arg.toList.head? = some '-'
  let letters := options.flatMap fun option => option.toList.drop 1
  if let some letter := letters.find? fun c => !(['a', 's', '-'].contains c) then
    let _ ← write 2 ("Illegal option -" ++ String.ofList [letter] ++ "\n")
    if !(letters.takeWhile (· ≠ letter)).contains 's' then
      say ("Usage: " ++ (← get).call.path ++ " [-as] args\n")
    throw (.exited 2)
  let names := args.drop options.length
  if names.isEmpty then mark 1
  let files ← files
  let path := ((← get).call.settings.lookup "PATH").getD barePath
  for name in names do
    let isPath := name.toList.contains '/'
    let places := if isPath then [name]
      else (Text.pieces ':' path.toList).map fun place =>
        Search.inside (String.ofList place) name
    let found := places.filter fun place =>
      match Search.at? files place with
      | .ok (_, .program _) | .ok (_, .file _) => true
      | _ => false
    if found.isEmpty then mark 1
    if !letters.contains 's' then
      for place in if letters.contains 'a' then found else found.take 1 do say (Octets.line place)

/-! ### Arguments from a text -/

/-- The words of a text with quotation marks and backslashes, line by line; nothing if a quotation
is not ended, but the mark that begins it. -/
def wordsOf : Nat → List Char → Option (List Char) → List (List Octets) →
    Except Char (List (List Octets))
  | 0, _, _, lines => .ok lines
  | bound + 1, text, word?, lines =>
    let close : List (List Octets) := match word?, lines with
      | some word, line :: others => (String.ofList word.reverse :: line) :: others
      | some word, [] => [[String.ofList word.reverse]]
      | none, lines => lines
    let word := word?.getD []
    match text with
    | [] => .ok close
    | '\n' :: rest => wordsOf bound rest none ([] :: close)
    | '\\' :: c :: rest => wordsOf bound rest (some (c :: word)) lines
    | c :: rest =>
      if c = ' ' || c = '\t' then wordsOf bound rest none close
      else if c = '\'' || c = '"' then
        let inner := rest.takeWhile fun d => d ≠ c && d ≠ '\n'
        match rest.drop inner.length with
        | '\n' :: _ | [] => .error c
        | _ :: rest => wordsOf bound rest (some (inner.reverse ++ word)) lines
      else wordsOf bound rest (some (c :: word)) lines

/-- What a list of lists holds, in pieces of at most a number of members. -/
def inPieces {α : Type} (size : Nat) : Nat → List α → List (List α)
  | 0, _ => []
  | bound + 1, all =>
    if all.isEmpty then [] else all.take size :: inPieces size bound (all.drop size)

/-- A text with another one filled in wherever a mark stands. -/
def fillMark (mark value : List Char) : Nat → List Char → List Char
  | 0, text => text
  | bound + 1, text =>
    match text with
    | [] => []
    | c :: rest =>
      if mark ≠ [] && mark.isPrefixOf text then
        value ++ fillMark mark value bound (text.drop mark.length)
      else c :: fillMark mark value bound rest

/-- The number that the value of an option is, which has to be positive. -/
def positive (letter : Char) (text : Octets) : Job Nat := do
  match Integer.readWhole? 10 text with
  | some n =>
    if n ≥ 1 then return n.toNat
    else
      misuse 1 ("value " ++ text ++ " for -" ++ String.ofList [letter]
        ++ " option should be >= 1")
  | none =>
    misuse 1 ("invalid number \"" ++ text ++ "\" for -" ++ String.ofList [letter] ++ " option")

/-- Runs a program with what is read as its arguments. -/
def xargs (launch : Launch) : Job Unit := do
  let a ← orderedArguments
    [⟨'0', "null", .none, false⟩, ⟨'r', "no-run-if-empty", .none, false⟩,
      ⟨'t', "verbose", .none, false⟩, ⟨'x', "exit", .none, false⟩,
      ⟨'n', "max-args", .needed, false⟩, ⟨'I', "", .needed, false⟩,
      ⟨'L', "", .needed, false⟩, ⟨'d', "delimiter", .needed, false⟩,
      ⟨'a', "arg-file", .needed, false⟩, ⟨'P', "max-procs", .needed, false⟩,
      ⟨'s', "max-chars", .needed, false⟩, ⟨'E', "", .needed, false⟩] 1
  let call := (← get).call
  let text ← match a.last? 'a' with
    | none => readInput
    | some name =>
      match ← readPath name with
      | .ok text => pure text
      | .error e =>
        fail 1 ("Cannot open input file " ++ quote name ++ ": " ++ reason e)
  let separator? : Option Char := match a.lastOf? ['0', 'd'] with
    | some '0' => some '\x00'
    | some _ => match (a.last? 'd').getD "" |>.toList with
      | ['\\', 'n'] => some '\n'
      | ['\\', 't'] => some '\t'
      | ['\\', '0'] => some '\x00'
      | c :: _ => some c
      | [] => none
    | none => none
  let parts (c : Char) : List Octets :=
    let pieces := Text.pieces c text.toList
    let pieces := if pieces.getLast? = some [] then pieces.dropLast else pieces
    pieces.map String.ofList
  let lines : List (List Octets) ← match separator?, a.last? 'I' with
    | some c, _ => pure ((parts c).map fun part => [part])
    | none, some _ =>
      let isBlank (c : Char) : Bool := c = ' ' || c = '\t'
      let bare := (parts '\n').map fun line => line.toList.dropWhile isBlank
      pure ((bare.filter (· ≠ [])).map fun line => [String.ofList line])
    | none, none =>
      match wordsOf (text.length + 1) text.toList none [[]] with
      | .ok lines => pure ((lines.reverse.map List.reverse).filter (· ≠ []))
      | .error c =>
        let kind := if c = '"' then "double" else "single"
        fail 1 ("unmatched " ++ kind ++ " quote; by default quotes are special to xargs unless you "
          ++ "use the -0 option")
  let items := lines.flatten
  let (name, fixed) := match a.operands with
    | [] => (("echo" : Octets), [])
    | name :: args => (name, args)
  let commands : List (List Octets) ← match a.lastOf? ['I', 'L', 'n'] with
    | some 'I' =>
      let mark := ((a.last? 'I').getD "").toList
      pure (items.map fun item =>
        (name :: fixed).map fun arg =>
          String.ofList (fillMark mark item.toList (arg.length + 1) arg.toList))
    | some 'n' => do
      let size ← positive 'n' ((a.last? 'n').getD "")
      pure ((inPieces size (items.length + 1) items).map (name :: fixed ++ ·))
    | some _ => do
      let size ← positive 'L' ((a.last? 'L').getD "")
      pure ((inPieces size (lines.length + 1) lines).map (name :: fixed ++ ·.flatten))
    | none => pure (if items.isEmpty then [] else [name :: fixed ++ items])
  let commands := if commands.isEmpty && !a.has 'r' && !a.has 'I' then [name :: fixed]
    else commands
  let number ← act (·.add { channel := .device .null })
  let streams := (0, number) :: call.streams.filter (·.1 ≠ 0)
  for command in commands do
    match command with
    | [] => pure ()
    | name :: args =>
      if a.has 't' then
        let _ ← write 2 (Octets.line (" ".intercalate command))
      let process ← act Machine.fork
      match ← runNamed launch process call.settings streams name args with
      | .error e => fail (refusalStatus e) (name ++ ": " ++ reason e)
      | .ok (.exited 255) => fail 124 (name ++ ": exited with status 255; aborting")
      | .ok (.exited status) => if status ≠ 0 then mark 123
      | .ok (.killed signal) =>
        fail 125 (name ++ ": terminated by signal " ++ signal.repr)

end Modlet.Tool
