import Modlet.Host.Shell.Format
import Modlet.Host.Tool.Files
import Modlet.Host.Tool.Lines

/-!
# Programs that write words

These programs write what their arguments say or make up: words, formats, numbers, and parts of
paths.
-/

namespace Modlet.Tool

open Job

/-! ### Words -/

/-- The value of a digit of base sixteen. -/
def hexValue? (c : Char) : Option Nat :=
  if Integer.digitValue c < 16 then some (Integer.digitValue c) else none

/-- A text with escapes, and whether it goes on: one escape ends everything. -/
def expandEscapes : Nat → List Char → List Char × Bool
  | 0, _ => ([], true)
  | bound + 1, text =>
    let go (front : List Char) (rest : List Char) : List Char × Bool :=
      let (others, goesOn) := expandEscapes bound rest
      (front ++ others, goesOn)
    match text with
    | [] => ([], true)
    | ['\\'] => (['\\'], true)
    | '\\' :: c :: rest =>
      if c = 'c' then ([], false)
      else if c = 'x' then
        let digits := (rest.take 2).takeWhile fun c => (hexValue? c).isSome
        if digits.isEmpty then go ['\\', 'x'] rest
        else go [Char.ofNat (Integer.digitsValue 16 digits)] (rest.drop digits.length)
      else if Shell.isOctal c then
        let digits := if c = '0' then (rest.take 3).takeWhile Shell.isOctal
          else ((c :: rest).take 3).takeWhile Shell.isOctal
        let n := Integer.digitsValue 8 digits
        go [Shell.octet n] ((if c = '0' then rest else c :: rest).drop digits.length)
      else
        match Shell.controlLetter? c with
        | some d => go [d] rest
        | none => go ['\\', c] rest
    | c :: rest => go [c] rest

/-- Writes the arguments, with blanks between them. Leading flags tell whether a line end follows
and whether escapes are expanded. -/
def echo : Job Unit := do
  let rec go (newline escapes : Bool) : List Octets → Job Unit
    | [] => if newline then say "\n" else return
    | arg :: args =>
      let isFlag : Bool := match arg.toList with
        | '-' :: c :: letters => (c :: letters).all fun c => c = 'n' || c = 'e' || c = 'E'
        | _ => false
      if isFlag then
        let letters := arg.toList.drop 1
        let escapes := match (letters.filter (· ≠ 'n')).getLast? with
          | some last => last = 'e'
          | none => escapes
        go (newline && !letters.contains 'n') escapes args
      else do
        let joined := (" ".intercalate (arg :: args)).toList
        let (text, goesOn) :=
          if escapes then expandEscapes (joined.length + 1) joined else (joined, true)
        sayChars (text ++ if newline && goesOn then ['\n'] else [])
  go true false (← get).call.args

/-- Writes a line again and again; there are more than anybody reads. -/
def yes : Job Unit := do
  let a ← arguments [] 1
  let line := Octets.line (if a.operands.isEmpty then "y" else " ".intercalate a.operands)
  say (String.join (List.replicate (200000 / line.length + 1) line))

/-! ### Paths -/

/-- The path of the directory that something is in. -/
def parentPath (path : Octets) : Octets :=
  let bare := path.toList.reverse.dropWhile (· = '/')
  let rest := (bare.dropWhile (· ≠ '/')).dropWhile (· = '/')
  if !rest.isEmpty then String.ofList rest.reverse
  else if path.toList.head? = some '/' then "/"
  else "."

/-- Writes the directories of paths. -/
def dirname : Job Unit := do
  let a ← arguments [⟨'z', "zero", .none, false⟩] 1
  if a.operands.isEmpty then misuse 1 "missing operand"
  let ending := if a.has 'z' then "\x00" else "\n"
  for path in a.operands do say (parentPath path ++ ending)

/-- A name without a given end, unless that is all of it. -/
def dropEnd (ending name : Octets) : Octets :=
  if name ≠ ending && ending.toList.isSuffixOf name.toList then
    String.ofList (name.toList.take (name.length - ending.length))
  else name

/-- Writes the last names of paths. -/
def basename : Job Unit := do
  let a ← orderedArguments
    [⟨'a', "multiple", .none, false⟩, ⟨'s', "suffix", .needed, false⟩,
      ⟨'z', "zero", .none, false⟩] 1
  let ending := if a.has 'z' then "\x00" else "\n"
  if a.has 'a' || a.has 's' then
    if a.operands.isEmpty then misuse 1 "missing operand"
    for path in a.operands do
      say (dropEnd ((a.last? 's').getD "") (lastName path) ++ ending)
  else
    match a.operands with
    | [] => misuse 1 "missing operand"
    | [path] => say (lastName path ++ ending)
    | [path, suffix] => say (dropEnd suffix (lastName path) ++ ending)
    | _ :: _ :: other :: _ => extra 1 other

/-- Writes the directory in which the program works. -/
def pwd : Job Unit := do
  let a ← arguments [⟨'L', "logical", .none, false⟩, ⟨'P', "physical", .none, false⟩] 1
  if !a.operands.isEmpty then complain "ignoring non-option arguments"
  let here := (← get).call.here
  let named := ((← get).call.settings.lookup "PWD").getD ""
  let names := FileSystem.names named
  let leadsHere : Bool := match (← files).stat (Octets.toText named) with
    | .ok (location, .directory) => location = here
    | _ => false
  let isPlain := named.toList.head? = some '/' && !names.contains "." && !names.contains ".."
  say (Octets.line
    (if a.lastOf? ['L', 'P'] = some 'L' && isPlain && leadsHere then named
      else Octets.ofText (FileSystem.absolutePath here)))

/-- Where a path leads. What is at its end has to be there if `whole`, and else only the directory
that it is in, or nothing on the way if `loose`. If `plain` links are not followed. -/
def resolve (whole loose plain : Bool) (path : Octets) : Job (Except IoError Location) := do
  let files ← files
  let text := Octets.toText path
  if (loose || plain && !whole) && path ≠ "" then
    let start := if text.toList.head? = some '/' then [] else files.here
    return .ok ((FileSystem.names text).foldl
      (fun location name =>
        if name = "." then location
        else if name = ".." then location.dropLast
        else
          match files.locate (FileSystem.absolutePath (location ++ [name])) with
          | .ok followed => if plain then location ++ [name] else followed
          | .error _ => location ++ [name]) start)
  else
    match files.locate text with
    | .error e => return .error e
    | .ok location =>
      match files.node? location with
      | some .directory => return .ok location
      | some _ =>
        return if FileSystem.wantsDirectory text then .error .notDirectory else .ok location
      | none =>
        let isIn := location = [] || files.isDirectory location.dropLast
        return if isIn && !whole then .ok location else .error .notFound

/-- Writes where paths lead. -/
def realpath : Job Unit := do
  let a ← arguments
    [⟨'e', "canonicalize-existing", .none, false⟩, ⟨'m', "canonicalize-missing", .none, false⟩,
      ⟨'L', "logical", .none, false⟩, ⟨'P', "physical", .none, false⟩,
      ⟨'q', "quiet", .none, false⟩, ⟨'s', "strip", .none, false⟩,
      ⟨'s', "no-symlinks", .none, true⟩, ⟨'z', "zero", .none, false⟩] 1
  if a.operands.isEmpty then misuse 1 "missing operand"
  let ending := if a.has 'z' then "\x00" else "\n"
  for path in a.operands do
    match ← resolve (a.has 'e') (a.has 'm') (a.has 's') path with
    | .ok location => say (Octets.ofText (FileSystem.absolutePath location) ++ ending)
    | .error e =>
      if a.has 'q' then mark 1 else warn (quoteIfNeeded path ++ ": " ++ reason e)

/-- Writes where paths lead if that is asked for, and else the paths that links are to. -/
def readlink : Job Unit := do
  let a ← arguments
    [⟨'f', "canonicalize", .none, false⟩, ⟨'e', "canonicalize-existing", .none, false⟩,
      ⟨'m', "canonicalize-missing", .none, false⟩, ⟨'n', "no-newline", .none, false⟩,
      ⟨'q', "quiet", .none, false⟩, ⟨'s', "silent", .none, false⟩,
      ⟨'v', "verbose", .none, false⟩, ⟨'z', "zero", .none, false⟩] 1
  if a.operands.isEmpty then misuse 1 "missing operand"
  let follows := ['f', 'e', 'm'].any a.has
  let tells := a.lastOf? ['q', 's', 'v'] = some 'v'
  let ending := if a.has 'z' then "\x00"
    else if a.has 'n' && a.operands.length = 1 then "" else "\n"
  for path in a.operands do
    let found ←
      if follows then
        pure ((← resolve (a.has 'e') (a.has 'm') false path).map FileSystem.absolutePath)
      else match ← statName path with
        | .ok (_, .link target) => pure (.ok target)
        | .ok _ => pure (.error (.system 22))
        | .error e => pure (.error e)
    match found with
    | .ok target => say (Octets.ofText target ++ ending)
    | .error e => if tells then warn (quoteIfNeeded path ++ ": " ++ reason e) else mark 1

/-! ### Numbers -/

/-- A number with decimal places. -/
structure Decimal where
  /-- The number times a power of ten. -/
  scaled : Int
  /-- The number of places. -/
  places : Nat

/-- The decimal number that a text is. -/
def Decimal.ofText? (text : Octets) : Option Decimal :=
  let (negative, bare) := match text.toList with
    | '-' :: rest => (true, rest)
    | '+' :: rest => (false, rest)
    | rest => (false, rest)
  let whole := bare.takeWhile Char.isDigit
  let (part, rest) := match bare.drop whole.length with
    | '.' :: rest => (rest.takeWhile Char.isDigit, rest.dropWhile Char.isDigit)
    | rest => ([], rest)
  let exponent? : Option Int := match rest with
    | [] => some 0
    | e :: sign :: digits =>
      if e ≠ 'e' && e ≠ 'E' then none
      else Integer.readWhole? 10 (String.ofList (if sign = '+' then digits else sign :: digits))
    | _ => none
  match exponent? with
  | none => none
  | some exponent =>
    if whole.isEmpty && part.isEmpty then none
    else
      let n : Int := Integer.digitsValue 10 (whole ++ part)
      let places : Int := part.length - exponent
      some
        { scaled := (if negative then -n else n) * Int.pow 10 (-places).toNat,
          places := places.toNat }

/-- The number with more places, times a power of ten. -/
def Decimal.at (d : Decimal) (places : Nat) : Int := d.scaled * Int.pow 10 (places - d.places)

/-- A decimal number in writing. -/
def decimalText (places : Nat) (n : Int) : List Char :=
  (if n < 0 then ['-'] else []) ++ Fractional.withPoint places false n.natAbs

/-- Arguments with a mark in front of a number that has a minus sign, where options may stand. -/
def guardNumber : List Octets → List Octets
  | [] => []
  | arg :: args =>
    match arg.toList with
    | '-' :: c :: _ =>
      if c.isDigit || c = '.' then "--" :: arg :: args
      else if arg = "-s" || arg = "-f" then arg :: args.take 1 ++ guardNumber (args.drop 1)
      else if arg = "--" then arg :: args
      else arg :: guardNumber args
    | _ => arg :: args
termination_by args => args.length

/-- Checks that a format has one directive, which is one for numbers with fractions. -/
def checkFormat (format : Octets) : Job Unit := do
  let rec directive? : List Char → Option (List Char)
    | '%' :: '%' :: rest => directive? rest
    | '%' :: rest => some rest
    | _ :: rest => directive? rest
    | [] => none
  match directive? format.toList with
  | none => fail 1 ("format " ++ quote format ++ " has no % directive")
  | some text =>
    let rest := (text.dropWhile fun c => "-+#0 '".toList.contains c).dropWhile Char.isDigit
    let rest := match rest with
      | '.' :: rest => rest.dropWhile Char.isDigit
      | rest => rest
    match if rest.head? = some 'L' then rest.drop 1 else rest with
    | [] => fail 1 ("format " ++ quote format ++ " ends in %")
    | c :: rest =>
      if !"aefgAEFG".toList.contains c then
        fail 1 ("format " ++ quote format ++ " has unknown %" ++ String.ofList [c] ++ " directive")
      else if (directive? rest).isSome then
        fail 1 ("format " ++ quote format ++ " has too many % directives")

/-- Writes numbers in order. -/
def seq : Job Unit := do
  modify fun w => { w with call := { w.call with args := guardNumber w.call.args } }
  let a ← orderedArguments
    [⟨'f', "format", .needed, false⟩, ⟨'s', "separator", .needed, false⟩,
      ⟨'w', "equal-width", .none, false⟩] 1
  let read (text : Octets) : Job Decimal := do
    match Decimal.ofText? text with
    | some d => return d
    | none => misuse 1 ("invalid floating point argument: " ++ quote text)
  if a.operands.isEmpty then misuse 1 "missing operand"
  if let _ :: _ :: _ :: other :: _ := a.operands then extra 1 other
  if let some format := a.last? 'f' then
    checkFormat format
    if a.has 'w' then
      misuse 1 "format string may not be specified when printing equal width strings"
  let one : Decimal := ⟨1, 0⟩
  let (first, step, last) ← match a.operands with
    | [last] => do pure (one, one, ← read last)
    | [first, last] => do pure (← read first, one, ← read last)
    | first :: step :: last :: _ => do pure (← read first, ← read step, ← read last)
    | [] => pure (one, one, one)
  if step.scaled = 0 then
    misuse 1 ("invalid Zero increment value: " ++ quote (a.operands[1]?.getD ""))
  let places := max first.places step.places
  let all := max places last.places
  let low := first.at all
  let by_ := step.at all
  let high := last.at all
  let count : Nat := if (by_ > 0 && low > high) || (by_ < 0 && low < high) then 0
    else (Int.tdiv (high - low) by_).toNat + 1
  let drop (n : Int) : Int := Int.tdiv n (Int.pow 10 (all - places))
  let numbers := (List.range count).map fun (n : Nat) => drop (low + by_ * n)
  let texts ← match a.last? 'f' with
    | some format =>
      let make (n : Int) : List Char :=
        (Shell.Formatting.run format [String.ofList (decimalText places n)]).output
      pure (numbers.map make)
    | none => pure (numbers.map (decimalText places))
  let width := if a.has 'w' then
      ([decimalText places (drop low), decimalText places (drop high)].map List.length).foldl max 0
    else 0
  let padded (text : List Char) : List Char :=
    match text with
    | '-' :: rest => '-' :: Fractional.padFront (width - 1) '0' rest
    | text => Fractional.padFront width '0' text
  let separator := ((a.last? 's').getD "\n").toList
  if !texts.isEmpty then sayChars (List.intercalate separator (texts.map padded) ++ ['\n'])

/-! ### Others -/

/-- Writes variables of the environment. -/
def printenv : Job Unit := do
  let a ← orderedArguments [⟨'0', "null", .none, false⟩] 2
  let settings := (← get).call.settings
  let ending := if a.has '0' then "\x00" else "\n"
  if a.operands.isEmpty then
    for (name, value) in settings do say (name ++ "=" ++ value ++ ending)
  else
    for name in a.operands do
      match settings.lookup name with
      | some value => say (value ++ ending)
      | none => mark 1

/-- Waits, which only sets the clock here. -/
def sleep : Job Unit := do
  let a ← arguments [] 1
  if a.operands.isEmpty then misuse 1 "missing operand"
  let mut bad := false
  let mut whole := 0
  for text in a.operands do
    match duration? text with
    | some time => whole := whole + time
    | none =>
      complain ("invalid time interval " ++ quote text)
      bad := true
  if bad then seeHelp 1
  let time := whole
  act fun m => ((), { m with clock := m.clock + time })

/-- Writes what the system is called. -/
def uname : Job Unit := do
  let a ← arguments
    [⟨'a', "all", .none, false⟩, ⟨'s', "kernel-name", .none, false⟩,
      ⟨'n', "nodename", .none, false⟩, ⟨'r', "kernel-release", .none, false⟩,
      ⟨'v', "kernel-version", .none, false⟩, ⟨'m', "machine", .none, false⟩,
      ⟨'p', "processor", .none, false⟩, ⟨'i', "hardware-platform", .none, false⟩,
      ⟨'o', "operating-system", .none, false⟩] 1
  if let other :: _ := a.operands then extra 1 other
  let parts : List (Char × Octets) :=
    [('s', "Linux"), ('n', "localhost"), ('r', "6.1.0"), ('v', "#1 SMP"), ('m', "x86_64"),
      ('o', "GNU/Linux")]
  let wanted := parts.filter fun entry =>
    a.has 'a' || a.has entry.1 || (a.options.isEmpty && entry.1 = 's')
  say (Octets.line (" ".intercalate (wanted.map Prod.snd)))

/-- Writes what the machine is called. -/
def machineName : Job Unit := do
  let a ← arguments [] 1
  if let other :: _ := a.operands then extra 1 other
  say "x86_64\n"

/-- Writes the name of whoever works here. -/
def whoami : Job Unit := do
  let a ← arguments [] 1
  if let other :: _ := a.operands then extra 1 other
  say "root\n"

/-- Writes who works here. -/
def id : Job Unit := do
  let a ← arguments
    [⟨'a', "", .none, false⟩, ⟨'g', "group", .none, false⟩, ⟨'G', "groups", .none, false⟩,
      ⟨'n', "name", .none, false⟩, ⟨'r', "real", .none, false⟩, ⟨'u', "user", .none, false⟩,
      ⟨'z', "zero", .none, false⟩] 1
  let kinds := ['u', 'g', 'G'].filter a.has
  if kinds.length > 1 then fail 1 "cannot print \"only\" of more than one choice"
  if kinds.isEmpty && (a.has 'n' || a.has 'r') then
    fail 1 "cannot print only names or real IDs in default format"
  let answer := if kinds.isEmpty then "uid=0(root) gid=0(root) groups=0(root)\n"
    else if a.has 'n' then "root\n" else "0\n"
  for name in if a.operands.isEmpty then ["root"] else a.operands do
    if name = "root" || name = "0" then say answer
    else warn (quote name ++ ": no such user")

/-- Makes a file or a directory with a name that is not in use. -/
def mktemp : Job Unit := do
  let a ← arguments
    [⟨'d', "directory", .none, false⟩, ⟨'p', "tmpdir", .needed, false⟩,
      ⟨'q', "quiet", .none, false⟩, ⟨'t', "", .none, false⟩, ⟨'u', "dry-run", .none, false⟩] 1
  if a.operands.length > 1 then misuse 1 "too many templates"
  let template := (a.operands.head?).getD "tmp.XXXXXXXXXX"
  let front := (template.toList.reverse.dropWhile (· = 'X')).reverse
  let missing := template.length - front.length
  if missing < 3 then fail 1 ("too few X's in template " ++ quote template)
  let number := (← get).machine.processes
  modify fun w => { w with machine := { w.machine with processes := number + 1 } }
  let mark := Fractional.padFront missing 'x' (Nat.toDigits 10 number)
  let name := String.ofList (front ++ mark.drop (mark.length - missing))
  let path := if a.operands.isEmpty || a.has 'p' || a.has 't' then
      joinPath ((a.last? 'p').getD "/tmp") name
    else name
  let result ← if a.has 'u' then pure (.ok ())
    else if a.has 'd' then changeFiles (·.makeDirectory (Octets.toText path))
    else writePath path ""
  match result with
  | .ok () =>
    if let .ok (location, _) := ← statName path then
      setRights location (if a.has 'd' then 0o700 else 0o600)
    say (Octets.line path)
  | .error e =>
    let what := if a.has 'd' then "directory" else "file"
    fail 1 ("failed to create " ++ what ++ " via template " ++ quote template ++ ": " ++ reason e)

end Modlet.Tool
