import Modlet.Text.Regex

/-!
# Scripts for changing lines

A script is commands, each of which can be for some lines only. Reading a script tells the first
mistake in it with the number of characters up to it.
-/

namespace Modlet.Tool.Sed

/-- A regular expression, and how it is searched for. -/
structure Expression where
  regex : Regex
  /-- Upper and lower case make no difference. -/
  folds : Bool
  /-- Lines are searched, each for itself. -/
  lines : Bool

/-- A regular expression, or none, which stands for the one that was used last. -/
abbrev Pattern := Option Expression

/-- Where lines are. -/
inductive Address
  | line (number : Nat)
  /-- Every so many lines, from a first one on. -/
  | every (first step : Nat)
  | last
  | pattern (pattern : Pattern)
  /-- Before the first line. -/
  | nought
  /-- Some lines more than the first ones. -/
  | further (count : Nat)
  /-- Up to a line whose number can be divided. -/
  | multiple (n : Nat)

/-- A part of what takes the place of a match. -/
inductive Replacement
  | char (c : Char)
  /-- What a group stands for; nought is all. -/
  | group (number : Nat)
  /-- The case of what follows: `U` and `L` for all, `u` and `l` for one character, `E` for as it
  is. -/
  | case (letter : Char)

/-- What a command does. -/
inductive Action
  /-- Commands up to a place. -/
  | block (finish : Nat)
  | blockEnd
  | label
  | number
  | append (text : List Char)
  | insert (text : List Char)
  | change (text : List Char)
  | branch (label : Option String)
  | branchIf (label : Option String)
  | branchUnless (label : Option String)
  | delete
  | deleteFirst
  | get
  | getMore
  | hold
  | holdMore
  | exchange
  | list (width : Option Nat)
  | next
  | nextMore
  | print
  | printFirst
  | quit (status : Nat)
  | leave (status : Nat)
  | read (name : String)
  | readOne (name : String)
  | write (name : String)
  | writeFirst (name : String)
  | substitute (pattern : Pattern) (parts : List Replacement) (nth : Nat) (all : Bool)
    (prints : Nat) (target : Option String)
  | translate (pairs : List (Char × Char))
  | fileName
  | clear

/-- A command of a script. -/
structure Command where
  first? : Option Address := none
  second? : Option Address := none
  /-- For all other lines. -/
  negated : Bool := false
  action : Action

/-- A script that was read. -/
structure Script where
  commands : Array Command := #[]
  /-- The places of the labels. -/
  labels : List (String × Nat) := []

/-- What reading has come to. -/
structure Reader where
  /-- What is left. -/
  rest : List Char
  /-- The number of characters so far. -/
  place : Nat := 0
  script : Script := {}
  /-- The places of the blocks that have not ended. -/
  blocks : List Nat := []
  /-- Whether the ways of writing regular expressions are the extended ones. -/
  extended : Bool := false

/-- A part of reading. A mistake is told by its text. -/
abbrev Reading := EStateM String Reader

namespace Reading

/-- Takes the next character. -/
def take : Reading (Option Char) :=
  modifyGet fun r =>
    match r.rest with
    | [] => (none, r)
    | c :: rest => (some c, { r with rest, place := r.place + 1 })

/-- The next character. -/
def peek : Reading (Option Char) := do return (← get).rest.head?

/-- Takes the characters with a property at the front. -/
def takeWhile (p : Char → Bool) : Reading (List Char) := do
  let r ← get
  let front := r.rest.takeWhile p
  set { r with rest := r.rest.drop front.length, place := r.place + front.length }
  return front

/-- Leaves out blanks. -/
def skipBlanks : Reading Unit := do
  let _ ← takeWhile fun c => c = ' ' || c = '\t'

/-- Leaves out blanks and line ends. -/
def skipSpace : Reading Unit := do
  let _ ← takeWhile fun c => c = ' ' || c = '\t' || c = '\n'

/-- A number. -/
def number : Reading Nat := do
  return Integer.digitsValue 10 (← takeWhile Char.isDigit)

/-- The characters of a list in brackets from its first member on, with the closing bracket; of a
list that does not end in its line those up to there. -/
def listText : Nat → Bool → List Char → List Char
  | 0, _, _ => []
  | bound + 1, isFirst, text =>
    match text with
    | [] | '\n' :: _ => []
    | ']' :: rest => if isFirst then ']' :: listText bound false rest else [']']
    | '[' :: mark :: rest =>
      if mark = ':' || mark = '.' || mark = '=' then
        '[' :: mark :: listNameText bound mark rest
      else '[' :: listText bound false (mark :: rest)
    | c :: rest => c :: listText bound false rest
where
  /-- The characters of a name in a list, and of what stands behind it. -/
  listNameText : Nat → Char → List Char → List Char
    | 0, _, _ => []
    | bound + 1, mark, text =>
      match text with
      | [] | '\n' :: _ => []
      | c :: ']' :: rest =>
        if c = mark then c :: ']' :: listText bound false rest
        else c :: listNameText bound mark (']' :: rest)
      | c :: rest => c :: listNameText bound mark rest

/-- A text up to a mark that has no backslash in front; nothing if there is none in the line. A mark
with a backslash stands for itself, and so does one in a list of a regular expression. -/
def delimited (mark : Char) (regex : Bool) : Nat → Reading (Option (List Char))
  | 0 => return none
  | bound + 1 => do
    let more (front : List Char) : Reading (Option (List Char)) := do
      return (← delimited mark regex bound).map (front ++ ·)
    match ← peek with
    | none | some '\n' => return none
    | some '\\' =>
      let _ ← take
      match ← take with
      | none => return none
      | some c =>
        if c = 'n' && regex then more ['\n']
        else if c = '\n' || (c = mark && !(c = '&' && !regex)) then more [c]
        else more ['\\', c]
    | some c =>
      let _ ← take
      if c = mark then return some []
      else if regex && c = '[' then
        let rest := (← get).rest
        let (front, rest) := if rest.head? = some '^' then (['^'], rest.drop 1) else ([], rest)
        let list := front ++ listText (rest.length + 1) true rest
        for _ in list do
          let _ ← take
        more ('[' :: list)
      else more [c]

/-- Letters behind backslashes that stand for characters in regular expressions. -/
def expandLetters : List Char → List Char
  | '\\' :: 't' :: rest => '\t' :: expandLetters rest
  | '\\' :: 'n' :: rest => '\n' :: expandLetters rest
  | '\\' :: 'r' :: rest => '\r' :: expandLetters rest
  | '\\' :: 'f' :: rest => Char.ofNat 12 :: expandLetters rest
  | '\\' :: 'v' :: rest => Char.ofNat 11 :: expandLetters rest
  | '\\' :: 'a' :: rest => Char.ofNat 7 :: expandLetters rest
  | '\\' :: c :: rest => '\\' :: c :: expandLetters rest
  | c :: rest => c :: expandLetters rest
  | [] => []

/-- The pattern that a text is. -/
def pattern (flags : List Char) (text : List Char) : Reading (Pattern × Nat) := do
  if text.isEmpty then
    if !flags.isEmpty then throw "cannot specify modifiers on empty regexp"
    return (none, 9)
  else
    if Regex.hasBareClass text then throw Regex.bareClass
    match Regex.ofText (if (← get).extended then .ofExtended else .strictBasic)
      (expandLetters text) with
    | .ok written =>
      let folds := flags.contains 'I'
      return (some { regex := written.regex, folds, lines := flags.contains 'M' }, written.groups)
    | .error e => throw e

/-- The flags behind the pattern of an address. -/
def patternFlags : Reading (List Char) := takeWhile fun c => c = 'I' || c = 'M'

/-- An address, if there is one. -/
def address? : Reading (Option Address) := do
  let bound := (← get).rest.length + 1
  let regex (mark : Char) : Reading (Option Address) := do
    match ← delimited mark true bound with
    | none => throw "unterminated address regex"
    | some text =>
      let flags ← patternFlags
      return some (.pattern (← pattern flags text).1)
  match ← peek with
  | some '/' =>
    let _ ← take
    regex '/'
  | some '\\' =>
    let _ ← take
    match ← take with
    | some mark => regex mark
    | none => throw "unexpected \x60,'"
  | some '$' =>
    let _ ← take
    return some .last
  | some c =>
    if c.isDigit then
      let n ← number
      skipBlanks
      if (← peek) = some '~' then
        let _ ← take
        let step ← number
        return some (if step = 0 then .line n else .every n step)
      else return some (if n = 0 then .nought else .line n)
    else return none
  | none => return none

/-- The second address, behind a comma. -/
def secondAddress : Reading Address := do
  match ← peek with
  | some '+' =>
    let _ ← take
    return .further (← number)
  | some '~' =>
    let _ ← take
    return .multiple (← number)
  | _ =>
    match ← address? with
    | some .nought => return .line 0
    | some a => return a
    | none =>
      let _ ← take
      throw "unexpected \x60,'"

/-- Reads the end of a command. -/
def finish : Reading Unit := do
  skipBlanks
  match ← peek with
  | none | some '\x7d' | some '#' => return
  | some c =>
    let _ ← take
    if c ≠ '\n' && c ≠ ';' then throw "extra characters after command"

/-- Reads the text of a command that brings one along. -/
def text : Reading (List Char) := do
  skipBlanks
  if (← peek).isNone then throw ("expected \\ after \x60a', \x60c' or \x60i'")
  if (← peek) = some '\\' then
    let _ ← take
    let blanks ← takeWhile fun c => c = ' ' || c = '\t'
    match ← peek with
    | none => return []
    | some '\n' =>
      let _ ← take
      if (← peek).isNone then throw ("expected \\ after \x60a', \x60c' or \x60i'")
      lines ((← get).rest.length + 1)
    | _ => return blanks ++ (← lines ((← get).rest.length + 1))
  else lines ((← get).rest.length + 1)
where
  /-- Lines up to one that has no backslash at its end. -/
  lines : Nat → Reading (List Char)
    | 0 => return ['\n']
    | bound + 1 => do
      match ← take with
      | none | some '\n' => return ['\n']
      | some '\\' =>
        match ← take with
        | none => return ['\n']
        | some c => return c :: (← lines bound)
      | some c => return c :: (← lines bound)

/-- Reads a label. -/
def labelName (ends : List Char) : Reading String := do
  skipBlanks
  let name ← takeWhile fun c => !(Integer.isBlank c || ends.contains c)
  return String.ofList name

/-- Reads the name of a file, which is the rest of the line. -/
def fileName : Reading String := do
  skipBlanks
  let name ← takeWhile (· ≠ '\n')
  let _ ← if (← peek).isSome then take else pure none
  if name.isEmpty then throw "missing filename in r/R/w/W commands"
  return String.ofList name

/-- The parts of a replacement. -/
def replacement : List Char → List Replacement
  | [] => []
  | ['\\'] => [.char '\\']
  | '\\' :: c :: rest =>
    if c.isDigit then .group (c.toNat - 48) :: replacement rest
    else if ['U', 'L', 'u', 'l', 'E'].contains c then .case c :: replacement rest
    else
      let d := match c with
        | 'n' => '\n'
        | 't' => '\t'
        | 'r' => '\r'
        | 'f' => Char.ofNat 12
        | 'v' => Char.ofNat 11
        | 'a' => Char.ofNat 7
        | c => c
      .char d :: replacement rest
  | '&' :: rest => .group 0 :: replacement rest
  | c :: rest => .char c :: replacement rest

/-- The flags of a substitution. -/
structure Flags where
  nth : Nat := 0
  all : Bool := false
  prints : Nat := 0
  /-- The flags of the pattern. -/
  ofPattern : List Char := []
  target : Option String := none

/-- Reads the flags of a substitution. -/
def flags : Nat → Flags → Reading Flags
  | 0, f => return f
  | bound + 1, f => do
    match ← peek with
    | none | some '\x7d' | some '#' => return f
    | some c =>
      if c.isDigit then
        if f.nth > 0 then throw "multiple number options to \x60s' command"
        let n ← number
        if n = 0 then throw "number option to \x60s' command may not be zero"
        flags bound { f with nth := n }
      else
        let _ ← take
        match c with
        | '\n' | ';' => return f
        | ' ' | '\t' => flags bound f
        | 'i' | 'I' => flags bound { f with ofPattern := 'I' :: f.ofPattern }
        | 'm' | 'M' => flags bound { f with ofPattern := 'M' :: f.ofPattern }
        | 'p' =>
          if f.prints > 0 then throw "multiple \x60p' options to \x60s' command"
          flags bound { f with prints := 1 }
        | 'g' =>
          if f.all then throw "multiple \x60g' options to \x60s' command"
          flags bound { f with all := true }
        | 'w' => return { f with target := some (← fileName) }
        | _ => throw "unknown option to \x60s'"

/-- The characters of one side of a translation. -/
def translated (mark : Char) : List Char → Reading (List Char)
  | [] => return []
  | '\\' :: c :: rest => do
    let d ← if c = '\\' || c = mark then pure c
      else if c = 'n' then pure '\n'
      else if c = 't' then pure '\t'
      else throw "unknown command: \x60\\'"
    return d :: (← translated mark rest)
  | c :: rest => do return c :: (← translated mark rest)

/-- Adds a command to the script. -/
def add (command : Command) : Reading Unit :=
  modify fun r =>
    { r with script := { r.script with commands := r.script.commands.push command } }

/-- Reads what a command does, behind its letter. -/
def action (single : Bool) (addressed : Bool) (letter : Char) : Reading Action := do
  let bound := (← get).rest.length + 1
  let plain (a : Action) : Reading Action := do
    finish
    return a
  let code (usual : Nat) : Reading Nat := do
    skipBlanks
    let n ← match ← peek with
      | some c => if c.isDigit then number else pure usual
      | none => pure usual
    finish
    return n
  let jump (make : Option String → Action) : Reading Action := do
    let name ← labelName [';', '\x7d']
    skipBlanks
    if (← peek) = some ';' then
      let _ ← take
    return make (if name = "" then none else some name)
  match letter with
  | '=' => plain .number
  | 'd' => plain .delete
  | 'D' => plain .deleteFirst
  | 'F' => plain .fileName
  | 'g' => plain .get
  | 'G' => plain .getMore
  | 'h' => plain .hold
  | 'H' => plain .holdMore
  | 'n' => plain .next
  | 'N' => plain .nextMore
  | 'p' => plain .print
  | 'P' => plain .printFirst
  | 'x' => plain .exchange
  | 'z' => plain .clear
  | 'a' => return .append (← text)
  | 'i' => return .insert (← text)
  | 'c' => return .change (← text)
  | 'q' =>
    if !single then throw "command only uses one address"
    return .quit (← code 0)
  | 'Q' =>
    if !single then throw "command only uses one address"
    return .leave (← code 0)
  | 'l' =>
    let n ← code 1000
    return .list (if n = 1000 then none else some n)
  | 'b' => jump .branch
  | 't' => jump .branchIf
  | 'T' => jump .branchUnless
  | 'r' => return .read (← fileName)
  | 'R' => return .readOne (← fileName)
  | 'w' => return .write (← fileName)
  | 'W' => return .writeFirst (← fileName)
  | ':' =>
    if addressed then throw ": doesn't want any addresses"
    let name ← labelName [';']
    if name = "" then throw "\":\" lacks a label"
    modify fun r =>
      { r with script := { r.script with
        labels := r.script.labels ++ [(name, r.script.commands.size)] } }
    return .label
  | 's' =>
    match ← take with
    | none => throw "unterminated \x60s' command"
    | some mark =>
      match ← delimited mark true bound with
      | none => throw "unterminated \x60s' command"
      | some first =>
        match ← delimited mark false bound with
        | none => throw "unterminated \x60s' command"
        | some second =>
          let f ← flags bound {}
          let parts := replacement second
          let (pattern, groups) ← pattern f.ofPattern first
          for part in parts do
            match part with
            | .group n =>
              if n > groups then
                throw ("invalid reference \\" ++ n.repr ++ " on \x60s' command's RHS")
            | _ => pure ()
          return .substitute pattern parts f.nth f.all f.prints f.target
  | 'y' =>
    match ← take with
    | none => throw "unterminated \x60y' command"
    | some mark =>
      match ← delimited mark false bound with
      | none => throw "unterminated \x60y' command"
      | some first =>
        match ← delimited mark false bound with
        | none => throw "unterminated \x60y' command"
        | some second =>
          let a ← translated mark first
          let b ← translated mark second
          if a.length ≠ b.length then
            throw "strings for \x60y' command are different lengths"
          plain (.translate (a.zip b))
  | c => throw ("unknown command: \x60" ++ String.ofList [c] ++ "'")

/-- Reads commands. -/
def commands : Nat → Reading Unit
  | 0 => return
  | bound + 1 => do
    let _ ← takeWhile fun c => Integer.isBlank c || c = ';'
    match ← peek with
    | none => return
    | some '#' =>
      let _ ← takeWhile (· ≠ '\n')
      commands bound
    | some _ =>
      let first? ← address?
      let second? ← match first? with
        | none => pure none
        | some _ =>
          skipBlanks
          if (← peek) = some ',' then
            let _ ← take
            skipBlanks
            pure (some (← secondAddress))
          else pure none
      match first?, second? with
      | some .nought, some (.pattern _) => pure ()
      | some .nought, _ => throw "invalid usage of line address 0"
      | _, _ => pure ()
      skipBlanks
      let negated ← if (← peek) = some '!' then do
          let _ ← take
          skipBlanks
          if (← peek) = some '!' then
            let _ ← take
            throw "multiple \x60!'s"
          pure true
        else pure false
      match ← take with
      | none => throw "missing command"
      | some '\n' | some ';' => throw "missing command"
      | some '#' =>
        if first?.isSome then throw "comments don't accept any addresses"
        let _ ← takeWhile (· ≠ '\n')
      | some '\x7b' =>
        modify fun r => { r with blocks := r.script.commands.size :: r.blocks }
        add { first?, second?, negated, action := .block 0 }
      | some '\x7d' =>
        let r ← get
        match r.blocks with
        | [] => throw "unexpected \x60\x7d'"
        | place :: blocks =>
          if first?.isSome then throw "\x60\x7d' doesn't want any addresses"
          finish
          let finish := r.script.commands.size
          modify fun r =>
            { r with
              blocks
              script := { r.script with
                commands := r.script.commands.modify place fun c =>
                  { c with action := .block finish } } }
          add { action := .blockEnd }
      | some letter =>
        let action ← action second?.isNone first?.isSome letter
        add { first?, second?, negated, action }
      commands bound

end Reading

/-- The script that a text is, or the mistake in it with the number of characters up to it. -/
def Script.ofText (extended : Bool) (text : List Char) : Except (Nat × String) Script :=
  match (Reading.commands (text.length + 1)).run { rest := text, extended } with
  | .ok () r =>
    if r.blocks.isEmpty then .ok r.script else .error (0, "unmatched \x60\x7b'")
  | .error e r => .error (r.place, e)

end Modlet.Tool.Sed
