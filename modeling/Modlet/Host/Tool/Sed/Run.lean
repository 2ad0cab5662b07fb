import Modlet.Host.Tool.Files
import Modlet.Host.Tool.Lines
import Modlet.Host.Tool.Sed.Script

/-!
# Changing lines by a script

Each line in turn is put into the work space, the commands of the script are run on it, and what is
in the work space then is written. There is a second space in which something can be kept.
-/

namespace Modlet.Tool.Sed

/-- A line of input. -/
structure InputLine where
  text : List Char
  /-- Whether the line is ended. -/
  ended : Bool
  /-- The name of the file. -/
  file : String
  /-- Whether it is the last line that counts as such. -/
  isLast : Bool
  /-- Whether it is the first line of a file of which the lines count apart. -/
  isFirst : Bool

/-- How far a range of lines has come. -/
inductive RangeState
  | outside
  | inside (last? : Option Nat)
  | over
deriving DecidableEq, Repr

/-- A script at work. -/
structure Exec where
  script : Script
  /-- What is left of the input. -/
  input : List InputLine
  /-- The line at work. -/
  current : InputLine
  space : List Char := []
  kept : List Char := []
  number : Nat := 0
  ranges : Array RangeState
  /-- What is written when the line is done. -/
  queue : List (List Char) := []
  /-- Whether something was replaced since the line was read, or since this was asked. -/
  replaced : Bool := false
  /-- The expression that was used last. -/
  last : Pattern := none
  /-- What was written, the latest first. -/
  output : List (List Char) := []
  /-- Whether the last line that was written is not ended. -/
  unended : Bool := false
  /-- What was written to files. -/
  written : List (String × List Char) := []
  /-- Lines of files that are read one by one. -/
  sources : List (String × List (List Char)) := []
  /-- The contents of files that are read. -/
  files : String → Option (List Char)
  /-- Whether the last expression was wanted and there was none. -/
  lost : Bool := false
  /-- Lines are not written by themselves. -/
  silent : Bool := false
  /-- The number of signs in a row when a line is listed. -/
  width : Nat := 70
  /-- What ends lines. -/
  ender : Char := '\n'

/-- What comes after a command. -/
inductive After
  | goOn (place : Nat)
  /-- The line is done. -/
  | done
  /-- The line is done, and nothing is written by itself. -/
  | dropped
  /-- The line is done, and the next round goes on with what is in the work space. -/
  | again
  /-- All is done. -/
  | quit (status : Nat) (prints : Bool)

namespace Exec

/-- Writes characters. -/
def put (x : Exec) (text : List Char) : Exec :=
  let text := if x.unended then x.ender :: text else text
  { x with output := text :: x.output, unended := false }

/-- Writes a line; whether it is ended hangs on the line at work. -/
def putLine (x : Exec) (text : List Char) : Exec :=
  if x.current.ended then x.put (text ++ [x.ender])
  else { x.put text with unended := true }

/-- Writes the text of a command, the last line of which ends like those of the input. -/
def putText (x : Exec) (text : List Char) : Exec :=
  if text.isEmpty then x else x.put (text.dropLast ++ [x.ender])

/-- Writes a line to a file. -/
def putFile (x : Exec) (name : String) (text : List Char) : Exec :=
  if name = "/dev/stdout" then x.putLine text
  else
    let line := text ++ [x.ender]
    { x with
      written := x.written.map fun entry =>
        if entry.1 = name then (name, entry.2 ++ line) else entry }

/-- Writes what was queued. -/
def flushQueue (x : Exec) : Exec :=
  x.queue.foldl (fun x text => if text.isEmpty then x else x.put text) { x with queue := [] }

/-- The first match of a pattern in the work space, from a place on. -/
def search (x : Exec) (pattern : Pattern) (place : Nat) :
    Exec × Option (Regex.Match × Regex.Subject) :=
  match pattern, x.last with
  | some e, _ | none, some e =>
    let subject :=
      { e.regex.subject e.folds x.space with lines := e.lines && x.ender = '\n' }
    ({ x with last := some e }, (e.regex.search? subject place).map (·, subject))
  | none, none => ({ x with lost := true }, none)

/-- Whether the line at work is at an address. -/
def isAt (x : Exec) : Address → Exec × Bool
  | .line n => (x, x.number = n)
  | .every first step => (x, x.number ≥ first && (x.number - first) % step = 0)
  | .last => (x, x.current.isLast)
  | .pattern pattern =>
    let (x, found) := x.search pattern 0
    (x, found.isSome)
  | .nought | .further _ | .multiple _ => (x, false)

/-- Whether a command is for the line at work. -/
def selects (x : Exec) (place : Nat) (c : Command) : Exec × Bool :=
  let setRange (x : Exec) (r : RangeState) : Exec :=
    { x with ranges := x.ranges.set! place r }
  match c.first?, c.second? with
  | none, _ => (x, true)
  | some first, none => x.isAt first
  | some first, some second =>
    let start (x : Exec) : Exec × Bool :=
      let (x, found) := x.isAt first
      if !found then (x, false)
      else
        match second with
        | .line n =>
          if n ≤ x.number then (x, true) else (setRange x (.inside (some n)), true)
        | .further n =>
          if n = 0 then (x, true) else (setRange x (.inside (some (x.number + n))), true)
        | .multiple n =>
          if n = 0 || x.number % n = 0 then (x, true)
          else (setRange x (.inside (some (x.number + n - x.number % n))), true)
        | _ => (setRange x (.inside none), true)
    match x.ranges[place]?.getD .outside with
    | .outside | .over => start x
    | .inside (some n) =>
      if x.number ≥ n then
        let x := setRange x .over
        if x.number = n then (x, true) else start x
      else (x, true)
    | .inside none =>
      let (x, found) := x.isAt second
      (if found then setRange x .over else x, true)

/-- Whether a range of a command ends with the line at work, as far as that can be told. -/
def endsRange (x : Exec) (place : Nat) (c : Command) : Bool :=
  c.second?.isNone || (match x.ranges[place]?.getD .outside with
    | .inside _ => false
    | _ => true)

/-- Reads the next line, if there is one. -/
def advance (x : Exec) : Option Exec :=
  match x.input with
  | [] => none
  | line :: rest =>
    some { x with
      input := rest, current := line, number := if line.isFirst then 1 else x.number + 1 }

/-- A line in which everything can be seen. -/
def listed (width : Nat) (ender : Char) (text : List Char) : List Char :=
  let signs := text.map fun c =>
    if c = '\\' then ['\\', '\\']
    else if isPrinted c then [c]
    else escapeOf c
  let rows := signs.foldl (fun (found : List Char × Nat) sign =>
    if width > 1 && found.2 + sign.length > width - 1 then
      (found.1 ++ ['\\', '\n'] ++ sign, sign.length)
    else (found.1 ++ sign, found.2 + sign.length)) ([], 0)
  rows.1 ++ ['$', ender]

/-- What takes the place of a match. -/
def replace (parts : List Replacement) (m : Regex.Match) (s : Regex.Subject) : List Char :=
  let put (found : List Char × Char × Char) (text : List Char) : List Char × Char × Char :=
    let (done, all, once) := found
    let cased := match all with
      | 'U' => text.map Char.toUpper
      | 'L' => text.map Char.toLower
      | _ => text
    match once, cased with
    | 'u', c :: rest => (done ++ c.toUpper :: rest, all, 'E')
    | 'l', c :: rest => (done ++ c.toLower :: rest, all, 'E')
    | _, cased => (done ++ cased, all, once)
  (parts.foldl (fun found part =>
    match part with
    | .char c => put found [c]
    | .group n => put found (m.group s n)
    | .case c =>
      if c = 'u' || c = 'l' then (found.1, found.2.1, c) else (found.1, c, 'E'))
    (([], 'E', 'E') : List Char × Char × Char)).1

/-- Replaces matches in the work space from a place on; `count` is the number of those before. -/
def substituteFrom (parts : List Replacement) (nth : Nat) (all : Bool) (pattern : Pattern) :
    Nat → Nat → Nat → Option Nat → Exec → List Char → Exec × List Char × Bool
  | 0, _, _, _, x, done => (x, done, false)
  | bound + 1, count, place, lastEnd, x, done =>
    let left := x.space.drop place
    if place > x.space.length then (x, done, false)
    else
      let (x, found) := x.search pattern place
      match found with
      | none => (x, done ++ left, false)
      | some (m, s) =>
        let before := left.take (m.start - place)
        -- Nothing right behind a match is no match.
        if m.start = m.finish && lastEnd = some m.start then
          match x.space[m.start]? with
          | none => (x, done ++ before, false)
          | some c =>
            substituteFrom parts nth all pattern bound count (m.start + 1) none x
              (done ++ before ++ [c])
        else
          let isWanted := count + 1 = max nth 1 || (all && count + 1 ≥ max nth 1)
          let taken := if isWanted then replace parts m s else m.group s 0
          let done := done ++ before ++ taken
          if isWanted && !all then (x, done ++ x.space.drop m.finish, true)
          else if m.start = m.finish then
            match x.space[m.finish]? with
            | none => (x, done, isWanted)
            | some c =>
              let (x, done, more) := substituteFrom parts nth all pattern bound (count + 1)
                (m.finish + 1) none x (done ++ [c])
              (x, done, isWanted || more)
          else
            let (x, done, more) := substituteFrom parts nth all pattern bound (count + 1) m.finish
              (some m.finish) x done
            (x, done, isWanted || more)

/-- The place that a jump goes to. -/
def target (x : Exec) (label : Option String) : Nat :=
  match label with
  | none => x.script.commands.size
  | some name => (x.script.labels.lookup name).getD x.script.commands.size

/-- Runs a command that is for the line at work. -/
def perform (x : Exec) (place : Nat) (c : Command) : Exec × After :=
  let goOn (x : Exec) : Exec × After := (x, .goOn (place + 1))
  match c.action with
  | .block _ | .blockEnd | .label => goOn x
  | .number => goOn (x.put (x.number.repr.toList ++ [x.ender]))
  | .fileName => goOn (x.put (x.current.file.toList ++ [x.ender]))
  | .append text => goOn { x with queue := x.queue ++ [text] }
  | .insert text => goOn (x.putText text)
  | .change text =>
    let x := if c.negated || x.endsRange place c then x.putText text else x
    (x, .dropped)
  | .branch label => (x, .goOn (x.target label))
  | .branchIf label =>
    if x.replaced then ({ x with replaced := false }, .goOn (x.target label)) else goOn x
  | .branchUnless label =>
    if x.replaced then goOn { x with replaced := false } else (x, .goOn (x.target label))
  | .delete => (x, .dropped)
  | .deleteFirst =>
    if x.space.contains x.ender then
      ({ x with space := (x.space.dropWhile (· ≠ x.ender)).drop 1 }, .again)
    else (x, .dropped)
  | .get => goOn { x with space := x.kept }
  | .getMore => goOn { x with space := x.space ++ x.ender :: x.kept }
  | .hold => goOn { x with kept := x.space }
  | .holdMore => goOn { x with kept := x.kept ++ x.ender :: x.space }
  | .exchange => goOn { x with space := x.kept, kept := x.space }
  | .list width => goOn (x.put (listed (width.getD x.width) x.ender x.space))
  | .clear => goOn { x with space := [] }
  | .next =>
    if x.input.isEmpty then (x, .quit 0 true)
    else
      let x := if x.silent then x else x.putLine x.space
      let x := x.flushQueue
      match x.advance with
      | some x => goOn { x with space := x.current.text }
      | none => (x, .quit 0 false)
  | .nextMore =>
    if x.input.isEmpty then (x, .quit 0 true)
    else
      match x.flushQueue.advance with
      | some x => goOn { x with space := x.space ++ x.ender :: x.current.text }
      | none => (x, .quit 0 true)
  | .print => goOn (x.putLine x.space)
  | .printFirst => goOn (x.put (x.space.takeWhile (· ≠ x.ender) ++ [x.ender]))
  | .quit status => (x, .quit status true)
  | .leave status => (x, .quit status false)
  | .read name => goOn { x with queue := x.queue ++ [(x.files name).getD []] }
  | .readOne name =>
    let lines := match x.sources.lookup name with
      | some lines => lines
      | none => bareRecords x.ender (String.ofList ((x.files name).getD []))
    let others := x.sources.filter (·.1 ≠ name)
    match lines with
    | [] => goOn { x with sources := (name, []) :: others }
    | line :: rest =>
      goOn { x with sources := (name, rest) :: others, queue := x.queue ++ [line ++ [x.ender]] }
  | .write name => goOn (x.putFile name x.space)
  | .writeFirst name => goOn (x.putFile name (x.space.takeWhile (· ≠ x.ender)))
  | .substitute pattern parts nth all prints file =>
    let (x, space, done) :=
      substituteFrom parts nth all pattern (x.space.length + 2) 0 0 none x []
    if !done then goOn x
    else
      let x := { x with space, replaced := true }
      let x := if prints > 0 then x.putLine x.space else x
      goOn (match file with
        | some name => x.putFile name x.space
        | none => x)
  | .translate pairs =>
    goOn { x with space := x.space.map fun c => (pairs.lookup c).getD c }

/-- Runs commands from a place on. The bound is on their number. -/
def runFrom : Nat → Nat → Exec → Exec × After
  | 0, _, x => (x, .quit 4 false)
  | bound + 1, place, x =>
    match x.script.commands[place]? with
    | none => (x, .done)
    | some c =>
      let (x, isIn) := x.selects place c
      if isIn != c.negated then
        match x.perform place c with
        | (x, .goOn next) => runFrom bound next x
        | answer => answer
      else
        match c.action with
        | .block finish => runFrom bound (finish + 1) x
        | _ => runFrom bound (place + 1) x

/-- The number of commands that are run on one line at most. -/
def longest : Nat := 1000000

/-- Runs the script on all lines, and tells the status. With `fresh` the next line is read first. -/
def runAll : Nat → Bool → Exec → Exec × Nat
  | 0, _, x => (x, 0)
  | bound + 1, fresh, x =>
    let started : Option Exec := if fresh then
        x.advance.map fun x => { x with space := x.current.text, replaced := false }
      else some x
    match started with
    | none => (x, 0)
    | some x =>
      let printed (x : Exec) : Exec := if x.silent then x else x.putLine x.space
      let (x, ending) := runFrom longest 0 x
      if x.lost then (x, 1)
      else
        match ending with
        | .done | .goOn _ => runAll bound true (printed x).flushQueue
        | .dropped => runAll bound true x.flushQueue
        | .again => runAll bound false x.flushQueue
        | .quit status prints => ((if prints then printed x else x).flushQueue, status)

end Exec

/-! ### The program -/

open Job

/-- The names of the files that a script reads and writes. -/
def filesOf (script : Script) : List String × List String :=
  script.commands.toList.foldl (fun (reads, writes) c =>
    match c.action with
    | .read name | .readOne name => (name :: reads, writes)
    | .write name | .writeFirst name => (reads, name :: writes)
    | .substitute _ _ _ _ _ (some name) => (reads, name :: writes)
    | _ => (reads, writes)) ([], [])

/-- The lines of a file, which may count apart from those of others. -/
def inputLines (ender : Char) (name : String) (apart : Bool) (text : List Char) :
    List InputLine :=
  (Octets.recordsOf ender text).zipIdx.map fun (line, n) =>
    let ended := line.getLast? = some ender
    { text := if ended then line.dropLast else line, ended, file := name, isLast := false
      isFirst := apart && n = 0 }

/-- Marks the last of some lines. -/
def markLast (lines : List InputLine) : List InputLine :=
  match lines.getLast? with
  | some line => lines.dropLast ++ [{ line with isLast := true }]
  | none => []

/-- A script that begins its work. -/
def begin_ (script : Script) (silent : Bool) (width : Nat) (ender : Char)
    (files : String → Option (List Char)) (input : List InputLine)
    (written : List (String × List Char)) : Exec :=
  let ranges := script.commands.map fun c =>
    match c.first? with
    | some .nought => RangeState.inside none
    | _ => .outside
  { script, input, ranges, files, silent, width, ender, written
    current := { text := [], ended := true, file := "-", isLast := false, isFirst := false } }

/-- The path for what was there before a file is edited. A suffix with stars stands for a whole
name, or for a whole path if it has slashes. -/
def backupName (suffix path : Octets) : Octets :=
  let base := lastName path
  let filled := String.ofList
    (suffix.toList.flatMap fun c => if c = '*' then base.toList else [c])
  if !suffix.toList.contains '*' then path ++ suffix
  else if suffix.toList.contains '/' then filled
  else String.ofList (path.toList.take (path.length - base.length)) ++ filled

/-- Changes lines by a script. -/
def sed : Job Unit := do
  let a ← arguments
    [⟨'n', "quiet", .none, false⟩, ⟨'n', "silent", .none, true⟩,
      ⟨'e', "expression", .needed, false⟩, ⟨'f', "file", .needed, false⟩,
      ⟨'i', "in-place", .possible, false⟩, ⟨'E', "regexp-extended", .none, false⟩,
      ⟨'r', "", .none, false⟩, ⟨'s', "separate", .none, false⟩,
      ⟨'l', "line-length", .needed, false⟩, ⟨'u', "unbuffered", .none, false⟩,
      ⟨'z', "null-data", .none, false⟩, ⟨'p', "posix", .none, true⟩,
      ⟨'b', "binary", .none, false⟩, ⟨'F', "follow-symlinks", .none, true⟩,
      ⟨'S', "sandbox", .none, true⟩] 1
  let given := a.has 'e' || a.has 'f'
  let mut texts : List (List Char) := []
  for (letter, value) in a.options do
    if letter = 'e' then texts := texts ++ [value.toList]
    else if letter = 'f' then
      match ← readOperand value with
      | .ok text =>
        let chars := text.toList
        texts := texts ++ [if chars.getLast? = some '\n' then chars.dropLast else chars]
      | .error e => fail 4 ("couldn't open file " ++ value ++ ": " ++ reason e)
  let (all, operands) ← if given then pure (texts, a.operands)
    else match a.operands with
      | script :: operands => pure ([script.toList], operands)
      | [] => do
        let name := (← get).call.name
        let _ ← write 2 ("Usage: " ++ name
          ++ " [OPTION]... \x7bscript-only-if-no-other-script\x7d [input-file]...\n\n")
        throw (.exited 1)
  let text := List.intercalate ['\n'] all
  let silent := a.has 'n' || text.take 3 = ['#', 'n', '\n'] || text = ['#', 'n']
  let script ← match Script.ofText (a.has 'E' || a.has 'r') text with
    | .ok script => pure script
    | .error (place, e) =>
      if e = Regex.bareClass then fail 4 e
      fail 1 ("-e expression #1, char " ++ place.repr ++ ": " ++ e)
  for c in script.commands do
    let label? := match c.action with
      | .branch label | .branchIf label | .branchUnless label => label
      | _ => none
    match label? with
    | some name =>
      if (script.labels.lookup name).isNone then
        fail 4 ("can't find label for jump to \x60" ++ name ++ "'")
    | none => pure ()
  let width := ((a.last? 'l').bind fun value => (Integer.readWhole? 10 value).map Int.toNat).getD 70
  let (reads, writes) := filesOf script
  let mut contents : List (String × List Char) := []
  for name in reads do
    match ← if name = "/dev/stdin" then readStream 0 else readPath name with
    | .ok text => contents := (name, text.toList) :: contents
    | .error _ => pure ()
  let found := contents
  let files (name : String) : Option (List Char) := found.lookup name
  let targets := writes.eraseDups.filter (· ≠ "/dev/stdout")
  let inPlace := a.has 'i'
  if inPlace && operands.isEmpty then fail 4 "no input files"
  let mut parts : List (Octets × List InputLine) := []
  let mut failed := false
  for name in if operands.isEmpty then ["-"] else operands do
    if inPlace && name ≠ "-" then
      match (← Job.files).stat (Octets.toText name) with
      | .ok (_, .file _) => pure ()
      | .ok _ => fail 4 ("couldn't edit " ++ name ++ ": not a regular file")
      | .error _ => pure ()
    match ← readOperand name with
    | .ok text =>
      let lines := inputLines a.ender name (inPlace || a.has 's') text.toList
      parts := parts ++ [(name, lines)]
    | .error e =>
      if e = .isDirectory then complain ("read error on " ++ name ++ ": " ++ reason e)
      else complain ("can't read " ++ name ++ ": " ++ reason e)
      failed := true
  let empty := targets.map fun name => (name, ([] : List Char))
  let finish (x : Exec) : Job Unit := do
    for (name, text) in x.written do
      match ← writePath name (String.ofList text) with
      | .ok () => pure ()
      | .error e => fail 4 ("couldn't open file " ++ name ++ ": " ++ reason e)
  if inPlace then
    let mut written := empty
    for (name, lines) in parts do
      let x := begin_ script silent width a.ender files (markLast lines) written
      let (x, status) := x.runAll (lines.length + 2) true
      written := x.written
      -- What comes behind the line at which the script ended stays.
      let rest := x.input.flatMap fun line => line.text ++ if line.ended then [a.ender] else []
      let text := String.ofList (x.output.reverse.flatten ++ rest)
      let place? := ((← Job.files).stat (Octets.toText name)).toOption
      match (a.last? 'i').getD "" with
      | "" => pure ()
      | suffix =>
        let backup := backupName suffix name
        let moved ← changeFiles fun files => do
          let (source, _) ← files.statName (Octets.toText name)
          return files.move source (← files.locateName (Octets.toText backup))
        if let .error e := moved then
          fail 4 ("cannot rename " ++ name ++ ": " ++ reason e)
      -- What is edited is a new file, with the rights of the one that was read.
      let rights? ← match place? with
        | some (location, _) => pure (some ((← Job.files).rightsAt location))
        | none => pure none
      let _ ← changeFiles (·.removeFile (Octets.toText name))
      match ← writePath name text with
      | .ok () => pure ()
      | .error e => fail 4 ("couldn't open file " ++ name ++ ": " ++ reason e)
      match rights?, ((← Job.files).stat (Octets.toText name)).toOption with
      | some rights, some (location, _) => setRights location rights
      | _, _ => pure ()
      mark status
      finish x
  else
    let input := if a.has 's' then (parts.map fun part => markLast part.2).flatten
      else markLast (parts.map Prod.snd).flatten
    let x := begin_ script silent width a.ender files input empty
    let (x, status) := x.runAll (2 * input.length + 1000) true
    sayChars x.output.reverse.flatten
    if x.lost then fail 1 "-e expression #1, char 0: no previous regular expression"
    finish x
    mark status
  if failed then mark 2

end Modlet.Tool.Sed
