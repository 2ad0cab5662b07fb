import Modlet.Host.Search
import Modlet.Host.Rights
import Modlet.Host.Shell.Condition
import Modlet.Host.Shell.Format
import Modlet.Host.Shell.Input
import Modlet.Host.Signal

/-!
# Commands of the shell itself

These commands work on the shell itself, or are in it because they are needed often. Each is given
its arguments and tells its status. A mistake stops it; whether the shell then ends too is decided
where the command was called.
-/

namespace Modlet.Shell

/-- The commands whose mistakes end the shell. -/
def specialCommands : List Octets :=
  [".", ":", "break", "continue", "eval", "exec", "exit", "export", "local", "readonly", "return",
    "set", "shift", "times", "trap", "unset"]

/-- The commands that the shell has itself. -/
def ownCommands : List Octets :=
  specialCommands
    ++ ["[", "alias", "bg", "cd", "chdir", "command", "echo", "false", "fg", "getopts", "hash",
      "jobs", "kill", "printf", "pwd", "read", "test", "true", "type", "ulimit", "umask",
      "unalias", "wait"]

/-- The commands whose arguments can be settings, which then stay one word. -/
def settingCommands : List Octets := ["alias", "export", "local", "readonly"]

/-- The letters of options, each with its name. Those that have no letter go by a digit. -/
def optionNames : List (Char × Octets) :=
  [('e', "errexit"), ('f', "noglob"), ('I', "ignoreeof"), ('i', "interactive"), ('m', "monitor"),
    ('n', "noexec"), ('s', "stdin"), ('x', "xtrace"), ('v', "verbose"), ('V', "vi"),
    ('E', "emacs"), ('C', "noclobber"), ('a', "allexport"), ('b', "notify"), ('u', "nounset"),
    ('p', "privileged"), ('0', "nolog"), ('1', "debug")]

/-- A text in quotes, so that it is read as it is. -/
def quoted (text : Octets) : Octets :=
  let rec go : Nat → List Char → List Char
    | 0, _ => []
    | bound + 1, text =>
      let plain := text.takeWhile (· ≠ '\'')
      let rest := text.drop plain.length
      let quotes := rest.takeWhile (· = '\'')
      let rest := rest.drop quotes.length
      ['\''] ++ plain ++ ['\'']
        ++ (if quotes.isEmpty then [] else ['"'] ++ quotes ++ ['"'])
        ++ (if rest.isEmpty then [] else go bound rest)
  String.ofList (go (text.length + 1) text.toList)

namespace Sh

/-! ### Arguments -/

/-- Takes options off arguments. Each is a letter, with whether it has a value. -/
def readOptions (letters : List (Char × Bool)) :
    Nat → List Octets → Sh (List (Char × Octets) × List Octets)
  | 0, args => return ([], args)
  | bound + 1, args => do
    match args with
    | [] => return ([], [])
    | arg :: rest =>
      match arg.toList with
      | ['-', '-'] => return ([], rest)
      | '-' :: c :: more =>
        let (front, rest) ← cluster rest (c :: more)
        let (others, rest) ← readOptions letters bound rest
        return (front ++ others, rest)
      | _ => return ([], arg :: rest)
where
  /-- The options in one argument. -/
  cluster (rest : List Octets) : List Char → Sh (List (Char × Octets) × List Octets)
    | [] => return ([], rest)
    | c :: more => do
      match letters.lookup c with
      | none => fail ("Illegal option -" ++ String.ofList [c])
      | some false =>
        let (others, rest) ← cluster rest more
        return ((c, "") :: others, rest)
      | some true =>
        match more, rest with
        | [], [] => fail ("No arg for -" ++ String.ofList [c] ++ " option")
        | [], value :: rest => return ([(c, value)], rest)
        | more, rest => return ([(c, String.ofList more)], rest)

/-- The options and the other arguments. -/
def takeOptions (letters : List (Char × Bool)) (args : List Octets) :
    Sh (List (Char × Octets) × List Octets) :=
  readOptions letters (args.length + 1) args

/-- The arguments behind options, of which there are none. -/
def withoutOptions (args : List Octets) : Sh (List Octets) := do
  return (← takeOptions [] args).2

/-! ### Variables -/

/-- Writes variables so that they can be read again. -/
def listSettings (word : Octets) (which : Setting → Bool) : Sh Unit := do
  let settings := (← ask (·.settings)).filter fun entry => which entry.2
  for (name, setting) in settings.mergeSort (fun a b => a.1 ≤ b.1) do
    let front := if word = "" then "" else word ++ " "
    let value := match setting.value with
      | some value => "=" ++ quoted value
      | none => ""
    tell (Octets.line (front ++ name ++ value))

/-- A name, and the value behind an equals sign if there is one. -/
def splitArgument (arg : Octets) : Octets × Option Octets :=
  let name := arg.toList.takeWhile (· ≠ '=')
  match arg.toList.drop name.length with
  | [] => (arg, none)
  | _ :: value => (String.ofList name, some (String.ofList value))

/-- Marks variables, or tells which are marked. -/
def markSettings (word : Octets) (mark : Setting → Setting) (isMarked : Setting → Bool)
    (args : List Octets) : Sh Nat := do
  -- Nothing behind the first option counts.
  let lists := args.head?.any fun arg => ['-', 'p'].isPrefixOf arg.toList
  let (_, names) ← if lists then pure ([], []) else takeOptions [] args
  if !names.isEmpty then
    for arg in names do
      match splitArgument arg with
      | (name, some value) =>
        setValue name value
        putSetting name (mark (((← ask (·.settings)).lookup name).getD {}))
      | (name, none) =>
        if !isName name then fail (name ++ ": bad variable name")
        putSetting name (mark (((← ask (·.settings)).lookup name).getD {}))
  else listSettings word isMarked
  return 0

/-- Takes variables or functions away. -/
def unsetNames (args : List Octets) : Sh Nat := do
  let (options, names) ← takeOptions [('v', false), ('f', false)] args
  let functions := (options.getLast?.map Prod.fst) = some 'f'
  for name in names do
    if functions then
      change fun s => { s with functions := s.functions.filter (·.1 ≠ name) }
    else
      let name ← nameIn name
      match (← ask (·.settings)).lookup name with
      | some setting =>
        if setting.fixed then fail (name ++ ": is read only")
        noteValue name ""
        change fun s => { s with settings := s.settings.filter (·.1 ≠ name) }
      | none => pure ()
  return 0

/-- Makes variables local to the command at work, or with a dash the options. -/
def makeLocal (args : List Octets) : Sh Nat := do
  if (← ask (·.frames)).isEmpty then fail "not in a function"
  for arg in args do
    let (name, value) := splitArgument arg
    if arg = "-" then keepOptions
    else
      match value with
      | some value =>
        keepSetting name
        putValue name value
      | none =>
        if !isName name then fail (name ++ ": bad variable name")
        keepSetting name
  return 0

/-! ### Options of the shell -/

/-- Tells that commands cannot be moved between the background and the terminal, for which there
has to be a terminal. -/
def refuseControl : Sh Unit := complain "can't access tty; job control turned off"

/-- Puts an option on or off. -/
def putOption (letter : Char) (on : Bool) : Sh Unit := do
  if letter = 'm' && on then refuseControl
  else change fun s =>
    let letters := optionNames.reverse.map Prod.fst
    { s with
      options := if on then letters.filter fun c => c = letter || s.options.contains c
        else s.options.filter (· ≠ letter) }

/-- Turns an option on or off by its letter. -/
def setOption (letter : Char) (on : Bool) : Sh Unit := do
  if !letter.isAlpha || !optionNames.any (·.1 = letter) then
    fail ("Illegal option -" ++ String.ofList [letter])
  putOption letter on
  if on && letter = 'V' then putOption 'E' false
  if on && letter = 'E' then putOption 'V' false

/-- Turns an option on or off by its name. Without a name, tells how all are. As long as a shell is
being called, that is not known, and all are told to be on. -/
def setNamedOption (calling on : Bool) (name : Option Octets) : Sh Unit := do
  match name with
  | some name =>
    match optionNames.find? (·.2 = name) with
    | some (letter, _) => putOption letter on
    | none => fail ("Illegal option -o " ++ name)
  | none =>
    if on then tell "Current option settings\n"
    for (letter, name) in optionNames do
      let isOn := calling || (← option letter)
      if on then
        let gap := String.ofList (List.replicate (16 - name.length) ' ')
        tell (Octets.line (name ++ gap ++ if isOn then "on" else "off"))
      else tell (Octets.line ("set " ++ (if isOn then "-o " else "+o ") ++ name))

/-- What options have told when a shell is called. -/
structure Called where
  /-- Whether the script is an argument. -/
  scripted : Bool := false
  /-- Whether commands are to be moved between the background and the terminal, if that is said. -/
  control? : Option Bool := none
  /-- The arguments that are left. -/
  args : List Octets

/-- Reads the options of a shell: those with which it is called, or else those that are set later.
A lone dash or two end them. -/
def readShellOptions (calling : Bool) : Nat → Called → Sh Called
  | 0, c => return c
  | bound + 1, c => do
    match c.args with
    | [] => return c
    | arg :: rest =>
      match arg.toList with
      | ['-'] =>
        if !calling then
          setOption 'x' false
          setOption 'v' false
        return { c with args := rest }
      | ['-', '-'] =>
        if !calling && rest.isEmpty then setArgs []
        return { c with args := rest }
      | sign :: letters =>
        if sign = '-' || sign = '+' then
          let c ← letters.foldlM (readLetter (sign = '-')) { c with args := rest }
          readShellOptions calling bound c
        else return c
      | [] => return c
where
  /-- Reads one letter. -/
  readLetter (on : Bool) (c : Called) (letter : Char) : Sh Called := do
    if letter = 'c' && calling then return { c with scripted := true }
    else if letter = 'l' && calling then return c
    else if letter = 'm' && calling then return { c with control? := some on }
    else if letter = 'o' && calling && c.args.head? = some "monitor" then
      return { c with control? := some on, args := c.args.drop 1 }
    else if letter = 'o' then
      setNamedOption calling on c.args.head?
      return { c with args := c.args.drop 1 }
    else
      setOption letter on
      return c

/-- Sets options and arguments. -/
def setAll (args : List Octets) : Sh Nat := do
  if args.isEmpty then
    listSettings "" fun setting => setting.value.isSome
    return 0
  else
    let c ← readShellOptions false (args.length + 1) { args }
    if !c.args.isEmpty then setArgs c.args
    return 0

/-- Drops arguments. -/
def shift (args : List Octets) : Sh Nat := do
  let n ← match args with
    | [] => pure 1
    | arg :: _ => count arg
  let have_ ← ask (·.args.length)
  if n > have_ then fail "can't shift that many"
  setArgs ((← ask (·.args)).drop n)
  return 0

/-- Whether a letter stands among those of options, and whether its option has a value. -/
def optionWith? (letter : Char) : List Char → Option Bool
  | [] => none
  | c :: rest =>
    if c = letter then some (rest.head? = some ':')
    else
      match rest with
      | ':' :: rest => optionWith? letter rest
      | rest => optionWith? letter rest

/-- Reads the next option of arguments into a variable. -/
def getOption (args : List Octets) : Sh Nat := do
  let s ← ask id
  let (letters, name, words) ← match args with
    | letters :: name :: [] => pure (letters.toList, name, s.args)
    | letters :: name :: words => pure (letters.toList, name, words)
    | _ => fail "Usage: getopts optstring var [arg...]"
  let (index, place) := match s.optionIndex? with
    | some index => if index > words.length + 1 then (1, 0) else (index, s.optionPlace)
    | none => (1, 0)
  change fun s => { s with optionIndex? := none }
  let silent := letters.head? = some ':'
  let finish (status : Nat) (found : Char) (index place : Nat) : Sh Nat := do
    storeValue "OPTIND" index.repr
    setValue name (String.ofList [found])
    change fun s => { s with optionIndex? := some index, optionPlace := place }
    return status
  let refuse (found : Char) (message : Octets) (c : Char) (index place : Nat) : Sh Nat := do
    if silent then
      setValue "OPTARG" (String.ofList [c])
      finish 0 found index place
    else
      let _ ← write 2 (Octets.line message)
      let _ ← unsetNames ["OPTARG"]
      finish 0 '?' index place
  let current := if index ≤ 1 || place = 0 then []
    else (words[index - 2]?.getD "").toList.drop place
  let word := (words[index - 1]?.getD "").toList
  let (text, index, place) := if current.isEmpty then
      match word with
      | '-' :: c :: rest => (c :: rest, index + 1, 1)
      | _ => ([], index, 0)
    else (current, index, place)
  match text, current with
  | [], _ | ['-'], [] => finish 1 '?' index 0
  | c :: rest, _ =>
    let place := place + 1
    let shown := String.ofList [c]
    match optionWith? c letters with
    | none => refuse '?' ("Illegal option -" ++ shown) c index place
    | some false =>
      setValue "OPTARG" ""
      finish 0 c index place
    | some true =>
      match rest, words[index - 1]? with
      | [], none => refuse ':' ("No arg for -" ++ shown ++ " option") c index 0
      | [], some value =>
        setValue "OPTARG" value
        finish 0 c (index + 1) 0
      | rest, _ =>
        setValue "OPTARG" (String.ofList rest)
        finish 0 c index 0

/-! ### Directories -/

/-- The path of the directory that a path leads to from a place, without the names that only go back
or stay. -/
def straightPath (place path : Octets) : Octets :=
  let isAbsolute := path.toList.head? = some '/'
  let isDouble (text : Octets) : Bool := match text.toList with
    | '/' :: '/' :: c :: _ => c ≠ '/'
    | ['/', '/'] => true
    | _ => false
  let parts (text : Octets) : List (List Char) := (Text.pieces '/' text.toList).filter (· ≠ [])
  let from_ := if isAbsolute then [] else parts place
  let names := (parts path).foldl
    (fun names name =>
      if name = ['.'] then names else if name = ['.', '.'] then names.dropLast else names ++ [name])
    from_
  let front := if isDouble (if isAbsolute then path else place) then "//" else "/"
  front ++ "/".intercalate (names.map String.ofList)

/-- Tells the directory in which the shell works. -/
def tellDirectory (physical : Bool) : Sh Nat := do
  let s ← ask id
  tell (Octets.line
    (if physical then Octets.ofText (FileSystem.absolutePath s.here) else s.place))
  return 0

/-- Works in another directory from now on. -/
def changeDirectory (args : List Octets) : Sh Nat := do
  let (options, args) ← takeOptions [('L', false), ('P', false)] args
  let physical := options.getLast?.any (·.1 = 'P')
  let (target, tells) ← match args.head? with
    | none => do pure (← value "HOME", false)
    | some "-" => do pure (← value "OLDPWD", true)
    | some target => pure (target, false)
  let files ← files
  let isDirectory (path : Octets) : Bool := Condition.holdsOf files "-d" path
  let direct := ["/", "./", "../"].any (fun front => front.toList.isPrefixOf target.toList)
    || target = "." || target = ".."
  let wanted := if target = "" then "." else target
  let searched ← match direct, ← value? "CDPATH" with
    | false, some path => pure (Search.directories path)
    | _, _ => pure []
  let front := (searched.find? fun front => isDirectory (Search.inside front wanted)).getD ""
  let path := Search.inside front wanted
  let before ← ask (·.place)
  let path := if physical then path else straightPath before path
  match files.locate (Octets.toText path) with
  | .error _ => fail ("can't cd to " ++ wanted)
  | .ok location =>
    if !files.isDirectory location then fail ("can't cd to " ++ wanted)
    let place := if physical then Octets.ofText (FileSystem.absolutePath location) else path
    change fun s =>
      { s with
        here := location, place
        found := s.found.map fun (name, found) => (name, { found with stale := true }) }
    let set (place : Octets) (setting : Setting) : Setting :=
      { setting with value := some place, exported := true }
    changeSetting "OLDPWD" (set before)
    changeSetting "PWD" (set place)
    if tells || front ≠ "" then tellDirectory false else return 0

/-! ### Reading a line -/

/-- A line of input, maybe with lines that go on with it, and whether it was ended. -/
def readInputLine (raw : Bool) (number : Nat) : Nat → Sh (List Input.Part × Bool)
  | 0 => return ([], false)
  | bound + 1 => do
    let line ← act (·.readLine number)
    let chars := line.toList.filter (· ≠ '\x00')
    let ended := chars.getLast? = some '\n'
    let (parts, goesOn) := if raw then ((chars.filter (· ≠ '\n')).map .plain, false)
      else Input.parts chars
    if goesOn then
      let (others, ended) ← readInputLine raw number bound
      return (parts ++ others, ended)
    else return (parts, ended)

/-- Gives words to variables. Variables for which there is no word become empty. -/
def assignWords : List Octets → List Octets → Sh Unit
  | [], _ => return
  | name :: names, words => do
    setValue name (words.head?.getD "")
    assignWords names (words.drop 1)

/-- Reads a line into variables. -/
def readVariables (args : List Octets) : Sh Nat := do
  let (options, names) ← takeOptions [('p', true), ('r', false)] args
  let raw := options.any (·.1 = 'r')
  if names.isEmpty then fail "arg count"
  let separators := ((← value? "IFS").getD " \t\n").toList
  let (line, ended) ← match (← ask (·.streams)).lookup 0 with
    | some number => readInputLine raw number 100000
    | none => pure ([], false)
  assignWords names (Input.words separators names.length line)
  return if ended then 0 else 1

/-! ### Aliases, signals and others -/

/-- Sets aliases, or tells what they are. -/
def setAliases (args : List Octets) : Sh Nat := do
  let show_ (entry : Octets × Octets) : Sh Unit :=
    tell (Octets.line (entry.1 ++ "=" ++ quoted entry.2))
  if args.isEmpty then
    let aliases ← ask (·.aliases)
    for entry in aliases.mergeSort (fun a b => tablePlace a.1 ≤ tablePlace b.1) do show_ entry
    return 0
  else
    args.foldlM (fun status arg => do
      -- An equals sign at the front is part of the name.
      let front := String.ofList (arg.toList.take 1)
      let (rest, value?) := splitArgument (String.ofList (arg.toList.drop 1))
      match (front ++ rest, value?) with
      | (name, some value) =>
        change fun s =>
          let entries := s.aliases.map fun entry => if entry.1 = name then (name, value) else entry
          let isNew := !s.aliases.any (·.1 = name)
          { s with aliases := if isNew then s.aliases ++ [(name, value)] else entries }
        return status
      | (name, none) =>
        match (← ask (·.aliases)).lookup name with
        | some value =>
          show_ (name, value)
          return status
        | none =>
          let _ ← write 2 ("alias: " ++ name ++ " not found\n")
          return 1) 0

/-- Takes aliases away. -/
def unsetAliases (args : List Octets) : Sh Nat := do
  -- Nothing behind the first option counts.
  let clears := args.head?.any fun arg => ['-', 'a'].isPrefixOf arg.toList
  let (_, names) ← if clears then pure ([], []) else takeOptions [] args
  if clears then
    change fun s => { s with aliases := [] }
    return 0
  else
    names.foldlM (fun status name => do
      if ((← ask (·.aliases)).lookup name).isSome then
        change fun s => { s with aliases := s.aliases.filter (·.1 ≠ name) }
        return status
      else
        let _ ← write 2 ("unalias: " ++ name ++ " not found\n")
        return 1) 0

/-- Says what is done when signals come, or tells it. -/
def setTraps (args : List Octets) : Sh Nat := do
  let args ← withoutOptions args
  match args with
  | [] =>
    for (number, action) in (← ask (·.traps)).mergeSort (fun a b => a.1 ≤ b.1) do
      tell (Octets.line ("trap -- " ++ quoted action ++ " " ++ Signal.name number))
    return 0
  | first :: rest =>
    let isNumber := first ≠ "" && first.toList.all Char.isDigit
      && (Signal.ofText? 0 first).isSome
    let (action, names) := if rest.isEmpty || isNumber then (none, args)
      else (if first = "-" then none else some first, rest)
    setAction action names
where
  /-- Sets what is done when some signals come, up to a name that is none of a signal. -/
  setAction (action : Option Octets) : List Octets → Sh Nat
    | [] => return 0
    | name :: names => do
      match Signal.ofText? 0 name with
      | none =>
        let _ ← write 2 ("trap: " ++ name ++ ": bad trap\n")
        return 1
      | some number =>
        change fun s =>
          let others := s.traps.filter (·.1 ≠ number)
          { s with
            traps := match action with
              | some action => (number, action) :: others
              | none => others }
        setAction action names

/-- Whether there is a process with a number that the shell may know of. -/
def isProcess (number : Nat) : Sh Bool := do
  let s ← get
  return number = s.shell.process || number = s.shell.parent || number = 0 || number = 1
    || number = s.shell.root || number = 1000 || s.waiting.any (·.shell.process = number)
    || s.shell.jobs.any (·.1 = number)

/-- A command in the background, with how it went if it is over. -/
structure Job where
  number : Nat
  process : Nat
  outcome? : Option Outcome

/-- The commands in the background. -/
def backgroundJobs : Sh (List Job) := do
  let s ← get
  let all := s.shell.jobs.reverse.map (fun (process, outcome) => (process, some outcome))
    ++ s.waiting.map fun one => (one.shell.process, none)
  return all.zipIdx.map fun (entry, n) => ⟨n + 1, entry.1, entry.2⟩

/-- The command in the background that a text names. -/
def jobNamed (text : Octets) : Sh Job := do
  let jobs ← backgroundJobs
  let (wanted, message) : Option Job × Octets := match text.toList with
    | ['%'] | ['%', '%'] | ['%', '+'] => (jobs.getLast?, "No current job")
    | ['%', '-'] => (jobs.dropLast.getLast?, "No previous job")
    | ['%', '?'] =>
      match jobs with
      | [job] => (some job, "")
      | _ => (none, if jobs.isEmpty then "No such job: " ++ text else text ++ ": ambiguous")
    | '%' :: digits =>
      (jobs.find? fun job => !digits.isEmpty && digits.all Char.isDigit
        && job.number = Integer.digitsValue 10 digits, "No such job: " ++ text)
    | _ => (none, "No such job: " ++ text)
  match wanted with
  | some job => return job
  | none => fail message

/-- Tells how commands in the background are. What is over is told once. -/
def listJobs (args : List Octets) : Sh Nat := do
  let (options, names) ← takeOptions [('l', false), ('p', false)] args
  let all ← backgroundJobs
  let jobs ← if names.isEmpty then pure all.reverse else names.mapM jobNamed
  for job in jobs do
    let sign := if job.number = all.length then "+"
      else if job.number + 1 = all.length then "-" else " "
    let state : Octets := match job.outcome? with
      | none => "Running"
      | some (.exited 0) => "Done"
      | some (.exited status) => "Done(" ++ status.repr ++ ")"
      | some (.killed signal) => Signal.description signal
    if (options.getLast?.map Prod.fst) = some 'p' then tell (Octets.line job.process.repr)
    else
      let process := if options.any (·.1 = 'l') then job.process.repr ++ " " else ""
      let front := "[" ++ job.number.repr ++ "] " ++ sign ++ " " ++ process ++ state
      let blanks := String.ofList (List.replicate (33 - front.length) ' ')
      tell (Octets.line (front ++ blanks))
  let ended := jobs.filterMap fun job => if job.outcome?.isSome then some job.process else none
  change fun s => { s with jobs := s.jobs.filter fun entry => !ended.contains entry.1 }
  return 0

/-- Takes commands out of the background or back, which none of them can that a script runs. -/
def moveJobs (args : List Octets) : Sh Nat := do
  let names ← withoutOptions args
  if names.isEmpty && (← backgroundJobs).isEmpty then fail "No current job"
  let name := names.head?.getD "%%"
  let _ ← jobNamed name
  fail ("job " ++ names.head?.getD "(null)" ++ " not created under job control")

/-- Sends signals to processes, or tells the names of signals. -/
def sendSignals (args : List Octets) : Sh Nat := do
  let usage : Octets :=
    "Usage: kill [-s sigspec | -signum | -sigspec] [pid | job]... or\nkill -l [exitstatus]"
  if args.isEmpty then fail usage
  let (signal, lists, targets) ← match args with
    | [] => pure (none, false, [])
    | first :: rest =>
      match first.toList with
      | '-' :: name =>
        match Signal.ofText? 1 (String.ofList name) with
        | some n => pure (some n, false, rest)
        | none => do
          let (options, rest) ← takeOptions [('l', false), ('s', true)] args
          let named := options.find? (·.1 = 's')
          match named with
          | some (_, name) =>
            match Signal.ofText? 1 name with
            | some n => pure (some n, options.any (·.1 = 'l'), rest)
            | none => fail ("invalid signal number or name: " ++ name)
          | none => pure (none, options.any (·.1 = 'l'), rest)
      | _ => pure (none, false, args)
  if lists then
    match targets with
    | [] =>
      tell "0\n"
      for n in List.range 64 do tell (Octets.line (Signal.name (n + 1)))
      return 0
    | target :: _ =>
      let n ← count target
      let signal := if n > 128 then n - 128 else n
      if 0 < signal && signal < Signal.bound then
        tell (Octets.line (Signal.name signal))
        return 0
      else fail ("invalid signal number or exit status: " ++ target)
  else if targets.isEmpty then fail usage
  else
    let signal := signal.getD 15
    targets.foldlM (fun status target => do
      let number ← match target.toList with
        | '-' :: digits => count (String.ofList digits)
        | '%' :: _ => do pure (← jobNamed target).process
        | _ => count target
      if ← isProcess number then
        let s ← get
        if s.waiting.any (·.shell.process = number) then
          if signal ≠ 0 && !Signal.isHarmless signal then
            set { s with
              waiting := s.waiting.filter (·.shell.process ≠ number)
              shell := { s.shell with jobs := (number, .killed signal) :: s.shell.jobs } }
        else if signal ≠ 0 then
          let number := if number = 0 then s.shell.process else number
          act fun m => ((), m.send number signal)
        return status
      else
        complain "No such process\n"
        return 1) 0

/-- Tells or sets what others may not do with new files. -/
def setMask (args : List Octets) : Sh Nat := do
  let (options, args) ← takeOptions [('S', false)] args
  match args with
  | [] =>
    let mask ← ask (·.mask)
    if options.isEmpty then
      let digits := Nat.toDigits 8 mask
      tell (Octets.line (String.ofList (Fractional.padFront 4 '0' digits)))
    else
      let rights (n : Nat) : Octets :=
        (if n / 4 % 2 = 0 then "r" else "") ++ (if n / 2 % 2 = 0 then "w" else "")
          ++ (if n % 2 = 0 then "x" else "")
      tell ("u=" ++ rights (mask / 64) ++ ",g=" ++ rights (mask / 8 % 8) ++ ",o="
        ++ rights (mask % 8) ++ "\n")
    return 0
  | arg :: _ =>
    if arg.toList.head?.any Char.isDigit then
      if !arg.toList.all isOctal then fail ("Illegal number: " ++ arg)
      change fun s => { s with mask := Integer.digitsValue 8 arg.toList % 512 }
      return 0
    else
      match Rights.change? (511 - (← ask (·.mask))) arg.toList with
      | some rights =>
        change fun s => { s with mask := 511 - rights }
        return 0
      | none => fail ("Illegal mode: " ++ arg)

/-- The number that a limit is set to. -/
def limitOf (text : Octets) : Sh Nat := do
  if !text.toList.all Char.isDigit then fail "bad number"
  return Integer.digitsValue 10 text.toList

/-- Tells or sets the limits on what the shell may use. -/
def setLimits (args : List Octets) : Sh Nat := do
  let letters := Limit.resources.map (·.letter)
  let (options, args) ← takeOptions ((['H', 'S', 'a'] ++ letters).map (·, false)) args
  let given := options.map Prod.fst
  let how? := (given.filter fun c => c = 'H' || c = 'S').getLast?
  let wanted := (given.filter letters.contains).getLast?.getD 'f'
  let limits ← ask (·.limits)
  let limit (resource : Resource) : Limit :=
    (limits.lookup resource.letter).getD (Limit.usual resource.letter)
  let shown (resource : Resource) : Octets :=
    let limit := limit resource
    let n := if how? = some 'H' then limit.hard else limit.soft
    Octets.line (if n = Limit.unlimited then "unlimited" else (n / resource.unit).repr)
  match args, given.contains 'a', Limit.resources.find? (·.letter = wanted) with
  | _ :: _, true, _ | _ :: _ :: _, _, _ => fail "too many arguments"
  | [], true, _ =>
    for resource in Limit.resources do
      let gap := String.ofList (List.replicate (20 - resource.name.length) ' ')
      tell (resource.name ++ gap ++ " " ++ shown resource)
    return 0
  | [], false, some resource =>
    tell (shown resource)
    return 0
  | [value], false, some resource =>
    let number? ← if value = "unlimited" then pure none else do pure (some (← limitOf value))
    let n := match number? with
      | some number => number * resource.unit % Nat.pow 2 64
      | none => Limit.unlimited
    match (limit resource).set (how? ≠ some 'H') (how? ≠ some 'S') n with
    | .ok limit =>
      change fun s =>
        { s with limits := (wanted, limit) :: s.limits.filter (·.1 ≠ wanted) }
      return 0
    | .error e => fail ("error setting limit (" ++ reason "" e ++ ")")
  | [_], false, none => return 0
  | [], false, none => return 0

/-- Writes what a format makes of arguments. -/
def writeFormatted (args : List Octets) : Sh Nat := do
  match ← withoutOptions args with
  | [] => fail "usage: printf format [arg ...]"
  | format :: args =>
    let f := Formatting.run format args
    for warning in f.warnings do complain warning
    match f.mistake with
    | some mistake =>
      complain mistake
      tell (String.ofList f.output)
      change fun s => { s with status := 2 }
      throw .failed
    | none =>
      tell (String.ofList f.output)
      return if f.warnings.isEmpty then 0 else 1

/-! ### What a name stands for -/

/-- What a name stands for as a command. -/
inductive Meaning
  | reserved
  | alias (value : Octets)
  | function (body : Node)
  | own
  | program (path : Octets)
  /-- A program that was found before. -/
  | known (path : Octets)
  | nothing (reason : IoError)

/-- The directories in which programs are looked for. -/
def searchPath : Sh (List Octets) := do
  return match ← value? "PATH" with
    | some path => Search.directories path
    | none => []

/-- The path of a program. -/
def findProgram (name : Octets) : Sh (Except IoError Octets) := do
  let files ← files
  if name.toList.contains '/' then return (Search.at? files name).map fun _ => name
  else if name = "" then return .error .denied
  else return Search.among files name (← searchPath)

/-- The path of a program, which is noted if it was looked for. What was found before is not looked
for again, unless the shell works in another directory now and the path depends on that. -/
def noteProgram (name : Octets) : Sh (Except IoError Octets) := do
  let note (path : Octets) : Sh Unit :=
    change fun s =>
      { s with
        found := if (s.found.lookup name).isNone then (name, { path }) :: s.found
          else s.found.map fun entry => if entry.1 = name then (name, { path }) else entry }
  let among (directories : List Octets) : Sh (Except IoError Octets) := do
    return Search.among (← files) name directories
  if name.toList.contains '/' || name = "" then findProgram name
  else
    let directories ← searchPath
    match (← ask (·.found)).lookup name with
    | none =>
      let answer ← among directories
      if let .ok path := answer then note path
      return answer
    | some found =>
      let isBefore (directory : Octets) : Bool := Search.inside directory name ≠ found.path
      let rest := directories.dropWhile isBefore
      if !found.stale then among rest
      else
        let isBound (path : Octets) : Bool := path.toList.head? = some '/'
        let front := (directories.takeWhile isBefore).filter fun directory => !isBound directory
        match ← among front with
        | .ok path =>
          note path
          return .ok path
        | .error _ =>
          let answer ← among rest
          match isBound found.path, answer with
          | true, _ => note found.path
          | false, .ok path => note path
          | false, .error _ =>
            change fun s => { s with found := s.found.filter (·.1 ≠ name) }
          return answer

/-- The place of a name among the programs that were found, when they are told. -/
def tellingPlace (name : Octets) : Nat :=
  match name.toList with
  | [] => 0
  | c :: others => ((c :: others).foldl (fun n c => n + c.toNat) (16 * c.toNat)) % 31

/-- What a name stands for. -/
def meaning (name : Octets) : Sh Meaning := do
  let s ← ask id
  if reservedWords.contains name then return .reserved
  else
    match s.aliases.lookup name with
    | some value => return .alias value
    | none =>
      if specialCommands.contains name then return .own
      else
        match s.functions.lookup name with
        | some body => return .function body
        | none =>
          if ownCommands.contains name then return .own
          else if name.toList.contains '/' then
            match (Condition.nodeAt? (← files) name) with
            | some _ => return .program name
            | none => return .nothing .notFound
          else
            match s.found.lookup name with
            | some found => return .known found.path
            | none =>
              match ← findProgram name with
              | .ok path => return .program path
              | .error reason => return .nothing reason

/-- Tells what a name stands for. -/
def describe (long : Bool) (name : Octets) : Sh Nat := do
  let found (brief long_ : Octets) : Sh Nat := do
    tell (Octets.line (if long then name ++ long_ else brief))
    return 0
  match ← meaning name with
  | .reserved => found name " is a shell keyword"
  | .alias value => found ("alias " ++ name ++ "=" ++ quoted value) (" is an alias for " ++ value)
  | .function _ => found name " is a shell function"
  | .own =>
    if specialCommands.contains name then found name " is a special shell builtin"
    else found name " is a shell builtin"
  | .program path =>
    let _ ← noteProgram name
    found path (" is " ++ path)
  | .known path => found path (" is a tracked alias for " ++ path)
  | .nothing _ =>
    if long then tell (name ++ ": not found\n")
    return 127

/-- Tells what names stand for. -/
def describeAll (args : List Octets) : Sh Nat :=
  args.foldlM (fun status name => do
    let found ← describe true name
    return if found = 0 then status else found) 0

/-- Looks up where programs are, or tells what was found. -/
def lookUpPrograms (args : List Octets) : Sh Nat := do
  let (options, names) ← takeOptions [('r', false)] args
  if !options.isEmpty then
    change fun s => { s with found := [] }
    return 0
  else if names.isEmpty then
    let found ← ask (·.found)
    let sorted := found.reverse.mergeSort fun a b => tellingPlace a.1 ≤ tellingPlace b.1
    for (_, found) in sorted do
      tell (Octets.line (found.path ++ if found.stale then "*" else ""))
    return 0
  else
    names.foldlM (fun status name => do
      change fun s => { s with found := s.found.filter (·.1 ≠ name) }
      let meaning ← meaning name
      let isLost : Bool := match meaning with
        | .nothing _ | .reserved | .alias _ => true
        | _ => false
      if isLost then
        complain (name ++ ": not found")
        return 1
      else
        if let .program _ := meaning then
          let _ ← noteProgram name
        return status) 0

/-! ### Ends -/

/-- Ends the shell with the number among the arguments, or else with the status of the last command.
What is done for a signal or at the end does not count for that. -/
def exit (args : List Octets) : Sh Nat := do
  let s ← ask id
  let status ← match args with
    | [] => pure (s.earlier?.getD s.status)
    | arg :: _ => count arg
  throw (.exit status)

/-- Ends the function with the number among the arguments, or else with the status of the last
command. -/
def giveBack (args : List Octets) : Sh Nat := do
  match args with
  | [] => throw (.giveBack (← ask (·.status)) false)
  | arg :: _ => throw (.giveBack (← count arg) true)

/-- Ends loops, or goes on with the next round of one. -/
def leaveLoops (again : Bool) (args : List Octets) : Sh Nat := do
  let n ← match args with
    | [] => pure 1
    | arg :: _ => do
      let n ← count arg
      if n = 0 then fail ("Illegal number: " ++ arg)
      pure n
  let n := min n (← ask (·.loops))
  change fun s => { s with status := 0 }
  if n > 0 then throw (if again then .goOn n else .leave n)
  return 0

/-- Runs a command of the shell that runs no others. -/
def runOwn? (name : Octets) : Option (List Octets → Sh Nat) :=
  match name with
  | ":" | "true" => some fun _ => return 0
  | "false" => some fun _ => return 1
  | "echo" => some fun args => do
    tell (echo args)
    return 0
  | "printf" => some writeFormatted
  | "test" => some (Condition.test false)
  | "[" => some (Condition.test true)
  | "pwd" => some fun args => do
    let (options, _) ← takeOptions [('L', false), ('P', false)] args
    tellDirectory (options.getLast?.any (·.1 = 'P'))
  | "cd" | "chdir" => some changeDirectory
  | "export" => some (markSettings "export" (fun s => { s with exported := true }) (·.exported))
  | "readonly" => some (markSettings "readonly" (fun s => { s with fixed := true }) (·.fixed))
  | "unset" => some unsetNames
  | "local" => some makeLocal
  | "set" => some setAll
  | "shift" => some shift
  | "read" => some readVariables
  | "getopts" => some getOption
  | "alias" => some setAliases
  | "unalias" => some unsetAliases
  | "trap" => some setTraps
  | "kill" => some sendSignals
  | "umask" => some setMask
  | "type" => some describeAll
  | "hash" => some lookUpPrograms
  | "jobs" => some listJobs
  | "bg" | "fg" => some moveJobs
  | "times" => some fun _ => do
    tell "0m0.000000s 0m0.000000s\n0m0.000000s 0m0.000000s\n"
    return 0
  | "ulimit" => some setLimits
  | "exit" => some exit
  | "return" => some giveBack
  | "break" => some (leaveLoops false)
  | "continue" => some (leaveLoops true)
  | _ => none

end Sh

end Modlet.Shell
