import Modlet.Host.Tool.Basic
import Modlet.Text.Directive
import Modlet.Text.Regex

/-!
# Programs that hand on text

These programs write what they read, all of it or a part: its first or last lines, its lines with
numbers or in another order, and copies of it.
-/

namespace Modlet.Tool

open Job

/-- The records of a text without what ends them. -/
def bareRecords (ender : Char) (text : Octets) : List (List Char) :=
  (Octets.recordsOf ender text.toList).map fun record =>
    if record.getLast? = some ender then record.dropLast else record

/-- The lines of a text without what ends them. -/
def bareLines (text : Octets) : List (List Char) := bareRecords '\n' text

/-- A number in a column. -/
def column (width n : Nat) : List Char := Fractional.padFront width ' ' (Nat.toDigits 10 n)

/-- What stands for a byte that cannot be printed, with a caret and for those above the others a
sign in front. -/
def visible (c : Char) : List Char :=
  let low (n : Nat) : List Char :=
    if n < 32 then ['^', Char.ofNat (n + 64)]
    else if n = 127 then ['^', '?']
    else [Char.ofNat n]
  let n := c.toNat
  if n ≥ 128 then 'M' :: '-' :: low (n - 128) else low n

/-! ### Contents -/

/-- How contents are shown. -/
structure Showing where
  /-- Lines have numbers. -/
  numbers : Bool := false
  /-- Lines that are not empty have numbers. -/
  fullNumbers : Bool := false
  /-- Of empty lines in a row only one is shown. -/
  squeezes : Bool := false
  /-- The ends of lines can be seen. -/
  ends : Bool := false
  /-- Tabs can be seen. -/
  tabs : Bool := false
  /-- What cannot be printed can be seen. -/
  hidden : Bool := false

/-- How far showing has come. -/
structure Shown where
  /-- The number of lines with numbers. -/
  count : Nat := 0
  /-- The number of empty lines in a row. -/
  empty : Nat := 0
  /-- Whether a line has been begun. -/
  inside : Bool := false

/-- Shows a line. -/
def showLine (how : Showing) (s : Shown) (line : List Char) : List Char × Shown :=
  let ended := line.getLast? = some '\n'
  let body := if ended then line.dropLast else line
  let isEmpty := body.isEmpty && !s.inside
  let empty := if isEmpty then s.empty + 1 else 0
  if how.squeezes && empty > 1 then ([], { s with empty })
  else
    let numbered := !s.inside && (if how.fullNumbers then !isEmpty else how.numbers)
    let count := if numbered then s.count + 1 else s.count
    let shown := body.flatMap fun c =>
      if c = '\t' then (if how.tabs then ['^', 'I'] else ['\t'])
      else if how.hidden then visible c
      else [c]
    ((if numbered then column 6 count ++ ['\t'] else []) ++ shown
        ++ (if ended then (if how.ends then ['$', '\n'] else ['\n']) else []),
      { count, empty, inside := !ended })

/-- Whether the output of a program is the file that a name leads to, and that is not empty. -/
def writesTo (name : Octets) : Job Bool := do
  let w ← get
  let files ← files
  let output? : Option Channel := (w.call.streams.lookup 1).bind fun number =>
    w.machine.opened[number]?.map (·.channel)
  match output?, files.locate (Octets.toText name) with
  | some (.file target), .ok location =>
    match files.node? location with
    | some (.file content) => return target = location && content.size ≠ 0
    | _ => return false
  | _, _ => return false

/-- Writes the contents of files behind one another. -/
def cat : Job Unit := do
  let a ← arguments
    [⟨'A', "show-all", .none, false⟩, ⟨'b', "number-nonblank", .none, false⟩,
      ⟨'e', "", .none, false⟩, ⟨'E', "show-ends", .none, false⟩, ⟨'n', "number", .none, false⟩,
      ⟨'s', "squeeze-blank", .none, false⟩, ⟨'t', "", .none, false⟩,
      ⟨'T', "show-tabs", .none, false⟩, ⟨'u', "", .none, false⟩,
      ⟨'v', "show-nonprinting", .none, false⟩] 1
  let any (letters : List Char) : Bool := letters.any a.has
  let how : Showing :=
    { numbers := a.has 'n', fullNumbers := a.has 'b', squeezes := a.has 's'
      ends := any ['A', 'e', 'E'], tabs := any ['A', 't', 'T']
      hidden := any ['A', 'e', 't', 'v'] }
  let isPlain := !any ['A', 'b', 'e', 'E', 'n', 's', 't', 'T', 'v']
  if ((← get).call.streams.lookup 1).isNone then
    fail 1 ("standard output: " ++ reason .notOpen)
  let mut shown : Shown := {}
  for name in if a.operands.isEmpty then ["-"] else a.operands do
    match ← readOperand name with
    | .error e => warn (quoteIfNeeded name ++ ": " ++ reason e)
    | .ok text =>
      if name ≠ "-" && (← writesTo name) then
        warn (quoteIfNeeded name ++ ": input file is output file")
      else if isPlain then say text
      else
        for line in Octets.linesOf text.toList do
          let (found, next) := showLine how shown line
          shown := next
          sayChars found
      flush
  let readsInput := a.operands.isEmpty || a.operands.contains "-"
  if readsInput && ((← get).call.streams.lookup 0).isNone then
    fail 1 ("closing standard input: " ++ reason .notOpen)

/-- Copies the input to the output and to files. -/
def tee : Job Unit := do
  let a ← arguments
    [⟨'a', "append", .none, false⟩, ⟨'i', "ignore-interrupts", .none, false⟩,
      ⟨'p', "output-error", .possible, false⟩] 1
  let isStream (name : Octets) : Job Bool := do
    match (← files).deviceAt? (Octets.toText name) with
    | some (.stream _) => return true
    | _ => return false
  let mut targets : List (Octets × Octets) := []
  for name in a.operands do
    let before ← if a.has 'a' then readPath name else pure (.ok "")
    let before := before.toOption.getD ""
    match ← if ← isStream name then pure (.ok ()) else writePath name before with
    | .ok () => targets := targets ++ [(name, before)]
    | .error e => warn (quoteIfNeeded name ++ ": " ++ reason e)
  let text ← readInput
  say text
  flush
  for (name, before) in targets do
    match ← writePath name (if ← isStream name then text else before ++ text) with
    | .ok () => pure ()
    | .error e => warn (quoteIfNeeded name ++ ": " ++ reason e)

/-! ### Beginnings and ends -/

/-- The units behind numbers. -/
def unit? (text : List Char) : Option Nat :=
  match text with
  | [] => some 1
  | ['b'] => some 512
  | ['k', 'B'] | ['K', 'B'] => some 1000
  | ['k'] | ['K'] | ['K', 'i', 'B'] => some 1024
  | ['M', 'B'] => some 1000000
  | ['M'] | ['m'] | ['M', 'i', 'B'] => some 1048576
  | ['G', 'B'] => some 1000000000
  | ['G'] | ['G', 'i', 'B'] => some 1073741824
  | _ => none

/-- A number with a unit. -/
def readAmount? (text : List Char) : Option Nat :=
  let digits := text.takeWhile Char.isDigit
  if digits.isEmpty then none
  else (unit? (text.drop digits.length)).map (Integer.digitsValue 10 digits * ·)

/-- What part of a text is wanted. -/
structure Extent where
  /-- What ends lines. -/
  ender : Char := '\n'
  /-- Counts bytes, not lines. -/
  bytes : Bool := false
  /-- The sign before the number. -/
  sign : Option Char := none
  /-- The number. -/
  amount : Nat := 10

/-- The extent that a value of an option says. -/
def readExtent (bytes : Bool) (value : Octets) : Job Extent := do
  let (sign, digits) := match value.toList with
    | '+' :: rest => (some '+', rest)
    | '-' :: rest => (some '-', rest)
    | text => (none, text)
  match readAmount? digits with
  | some amount => return { bytes, sign, amount }
  | none =>
    let what := if bytes then "bytes" else "lines"
    let shown := if sign = some '-' then String.ofList digits else value
    fail 1 ("invalid number of " ++ what ++ ": " ++ quote shown)

/-- The first part of a text, as lines or bytes. -/
def front (e : Extent) (text : List Char) : List Char :=
  if e.bytes then
    if e.sign = some '-' then text.take (text.length - e.amount) else text.take e.amount
  else
    let lines := Octets.recordsOf e.ender text
    (if e.sign = some '-' then lines.take (lines.length - e.amount)
      else lines.take e.amount).flatten

/-- The last part of a text, as lines or bytes. -/
def back (e : Extent) (text : List Char) : List Char :=
  if e.bytes then
    if e.sign = some '+' then text.drop (e.amount - 1) else text.drop (text.length - e.amount)
  else
    let lines := Octets.recordsOf e.ender text
    (if e.sign = some '+' then lines.drop (e.amount - 1)
      else lines.drop (lines.length - e.amount)).flatten

/-- Writes parts of files, under their names if there are several. -/
def writeParts (a : Arguments) (part : List Char → List Char) : Job Unit := do
  let names := if a.operands.isEmpty then ["-"] else a.operands
  let titled : Bool := match a.lastOf? ['q', 'v'] with
    | some letter => letter = 'v'
    | none => names.length > 1
  let mut isFirst := true
  for name in names do
    let shown := if name = "-" then "standard input" else name
    let title : Octets :=
      if titled then (if isFirst then "" else "\n") ++ "==> " ++ shown ++ " <==\n" else ""
    match ← readOperand name with
    | .ok text =>
      say title
      let found := part text.toList
      sayChars found
      isFirst := false
      -- What was not used of an input that is a file is left to others.
      if name = "-" && found.length ≤ text.length then
        if found.isPrefixOf text.toList then
          let w ← get
          match w.call.streams.lookup 0 with
          | some number =>
            let file? := w.machine.opened[number]?
            match file? with
            | some file =>
              match file.channel with
              | .file _ =>
                let place := file.place - (text.length - found.length)
                set { w with machine := w.machine.setPlace number place }
              | _ => pure ()
            | none => pure ()
          | none => pure ()
    | .error e =>
      if e = .isDirectory then
        say title
        isFirst := false
        warn ("error reading " ++ quoteAlways shown ++ ": " ++ reason e)
      else
        warn ("cannot open " ++ quoteAlways name ++ " for reading: " ++ reason e)

/-- The options of programs that write parts of files. -/
def partChoices : List Choice :=
  [⟨'c', "bytes", .needed, false⟩, ⟨'n', "lines", .needed, false⟩, ⟨'q', "quiet", .none, false⟩,
    ⟨'q', "silent", .none, true⟩, ⟨'v', "verbose", .none, false⟩,
    ⟨'z', "zero-terminated", .none, false⟩]

/-- The extent that options say. -/
def extentOf (a : Arguments) : Job Extent := do
  match a.options.reverse.find? fun entry => entry.1 = 'c' || entry.1 = 'n' with
  | some (letter, value) => return { ← readExtent (letter = 'c') value with ender := a.ender }
  | none => return { ender := a.ender }

/-- Arguments in which an old-fashioned number is an option. -/
def modernArguments (plus : Bool) : Job Unit :=
  modify fun w =>
    let args := match w.call.args with
      | arg :: rest =>
        match arg.toList with
        | '-' :: d :: more =>
          if d.isDigit then
            let digits := (d :: more).takeWhile Char.isDigit
            match (d :: more).drop digits.length with
            | [] | ['l'] => ["-n", String.ofList digits] ++ rest
            | ['c'] => ["-c", String.ofList digits] ++ rest
            | ['q'] => ["-q", "-n", String.ofList digits] ++ rest
            | ['v'] => ["-v", "-n", String.ofList digits] ++ rest
            | _ => arg :: rest
          else arg :: rest
        | '+' :: d :: more =>
          if plus && (d :: more).all Char.isDigit then ["-n", arg] ++ rest else arg :: rest
        | _ => arg :: rest
      | [] => []
    { w with call := { w.call with args } }

/-- The digits, as options that there are not. -/
def digitChoices : List Choice := "0123456789".toList.map fun c => ⟨c, "", .none, false⟩

/-- The digit that is the first of those among options. -/
def digitAmong? (a : Arguments) : Option Octets :=
  (a.options.find? (·.1.isDigit)).map fun entry => String.ofList [entry.1]

/-- Writes the first part of files. -/
def head : Job Unit := do
  modernArguments false
  let a ← arguments (partChoices ++ digitChoices) 1
  if let some digit := digitAmong? a then misuse 1 ("invalid trailing option -- " ++ digit)
  let e ← extentOf a
  writeParts a (front e)

/-- Writes the last part of files. An old-fashioned number can stand before one file only. -/
def tail : Job Unit := do
  let isOld : Bool := match (← get).call.args with
    | [_] => true
    | [_, name] => name = "-" || name.toList.head? ≠ some '-' || name = "--"
    | [_, "--", _] => true
    | _ => false
  if isOld then modernArguments true
  let a ← arguments (partChoices ++ [⟨'f', "follow", .none, false⟩] ++ digitChoices) 1
  if let some digit := digitAmong? a then
    fail 1 ("option used in invalid context -- " ++ digit)
  let e ← extentOf a
  writeParts a (back e)

/-! ### Orders -/

/-- Writes the lines of files in the opposite order. -/
def tac : Job Unit := do
  let a ← arguments
    [⟨'b', "before", .none, false⟩, ⟨'r', "regex", .none, false⟩,
      ⟨'s', "separator", .needed, false⟩] 1
  for name in if a.operands.isEmpty then ["-"] else a.operands do
    match ← readOperand name with
    | .ok text => sayChars (Octets.linesOf text.toList).reverse.flatten
    | .error e =>
      if e = .isDirectory then warn (quoteIfNeeded name ++ ": read error: " ++ reason (.system 22))
      else warn ("failed to open " ++ quoteAlways name ++ " for reading: " ++ reason e)

/-- Writes the characters of each line in the opposite order. -/
def rev : Job Unit := do
  let a ← arguments [] 1
  for name in if a.operands.isEmpty then ["-"] else a.operands do
    match ← readOperand name with
    | .ok text =>
      for line in Octets.linesOf text.toList do
        if line.getLast? = some '\n' then sayChars (line.dropLast.reverse ++ ['\n'])
        else sayChars line.reverse
    | .error e => warn ("cannot open " ++ name ++ ": " ++ reason e)

/-! ### Numbers of lines -/

/-- Writes files with numbers before lines. -/
def nl : Job Unit := do
  let a ← arguments
    [⟨'b', "body-numbering", .needed, false⟩, ⟨'d', "section-delimiter", .needed, false⟩,
      ⟨'f', "footer-numbering", .needed, false⟩, ⟨'h', "header-numbering", .needed, false⟩,
      ⟨'i', "line-increment", .needed, false⟩, ⟨'l', "join-blank-lines", .needed, false⟩,
      ⟨'n', "number-format", .needed, false⟩, ⟨'p', "no-renumber", .none, false⟩,
      ⟨'s', "number-separator", .needed, false⟩, ⟨'v', "starting-line-number", .needed, false⟩,
      ⟨'w', "number-width", .needed, false⟩] 1
  let number (letter : Char) (usual : Int) : Int :=
    ((a.last? letter).bind (Integer.readWhole? 10)).getD usual
  let mut bad := false
  for (letter, part) in [('h', "header"), ('b', "body"), ('f', "footer")] do
    let style := (a.last? letter).getD "n"
    if !(["a", "t", "n"].contains style) && style.toList.head? ≠ some 'p' then
      complain ("invalid " ++ part ++ " numbering style: " ++ quote style)
      bad := true
  let format := (a.last? 'n').getD "rn"
  if !(["ln", "rn", "rz"].contains format) then
    complain ("invalid line numbering format: " ++ quote format)
    bad := true
  if bad then seeHelp 1
  let style := (a.last? 'b').getD "t"
  let expression? ← match style.toList with
    | 'p' :: text =>
      match Regex.ofText .basic text with
      | .ok written => pure (some written.regex)
      | .error e => fail 1 e
    | _ => pure none
  let isCounted (line : List Char) : Bool := match expression? with
    | some regex => (regex.search? (regex.subject false line) 0).isSome
    | none => style = "a" || (style = "t" && !line.isEmpty)
  let width := (number 'w' 6).toNat
  let separator := ((a.last? 's').getD "\t").toList
  let mut count := number 'v' 1
  for name in if a.operands.isEmpty then ["-"] else a.operands do
    match ← readOperand name with
    | .error e => warn (quoteIfNeeded name ++ ": " ++ reason e)
    | .ok text =>
      for line in bareLines text do
        if isCounted line then
          let d : Directive :=
            { width, leftmost := format = "ln", noughts := format = "rz" }
          sayChars (d.signed count ++ separator ++ line ++ ['\n'])
          count := count + number 'i' 1
        else
          sayChars (List.replicate (width + separator.length) ' ' ++ line ++ ['\n'])

/-! ### Tabs -/

/-- How far a character brings a line that has come to a column. -/
def columnBehind (bytes : Bool) (place : Nat) (c : Char) : Nat :=
  if bytes then place + 1
  else if c = '\t' then place + 8 - place % 8
  else if c = '\r' then 0
  else if c.toNat = 8 then place - 1
  else place + 1

/-- The next place for a tab behind a column: the first of some, or else the next multiple of the
last one. -/
def tabBehind (stops : List Nat) (place : Nat) : Nat :=
  match stops, stops.find? (· > place) with
  | [step], _ => place + step - place % step
  | _, some stop => stop
  | _, none => place + 1

/-- A line with blanks in the place of tabs; with `leading` only in front of other characters. -/
def expandTabs (stops : List Nat) (leading : Bool) (line : List Char) : List Char :=
  (line.foldl
    (fun (found : List Char × Nat × Bool) c =>
      let (text, place, isFront) := found
      if c = '\t' && (isFront || !leading) then
        let next := tabBehind stops place
        (text ++ List.replicate (next - place) ' ', next, isFront)
      else (text ++ [c], columnBehind false place c, isFront && c = ' '))
    ([], 0, true)).1

/-- Writes files with blanks in the place of tabs. -/
def expand : Job Unit := do
  let a ← arguments [⟨'i', "initial", .none, false⟩, ⟨'t', "tabs", .needed, false⟩] 1
  let stops ← match a.last? 't' with
    | none => pure [8]
    | some value => (Text.pieces ',' value.toList).mapM fun piece => do
      if piece.isEmpty || !piece.all Char.isDigit then
        let bad := piece.dropWhile Char.isDigit
        fail 1 ("tab size contains invalid character(s): " ++ quote (String.ofList bad))
      let n := Integer.digitsValue 10 piece
      if n = 0 then fail 1 "tab size cannot be 0"
      pure n
  eachOperand a.operands fun _ text => do
    for line in Octets.linesOf text.toList do sayChars (expandTabs stops (a.has 'i') line)

/-! ### Counts -/

/-- The counts of a text. -/
structure Counts where
  lines : Nat := 0
  words : Nat := 0
  bytes : Nat := 0
  longest : Nat := 0

/-- The length of a line on a screen. -/
def screenLength (line : List Char) : Nat :=
  line.foldl (fun n c =>
    if c = '\t' then n + 8 - n % 8 else if isPrinted c then n + 1 else n) 0

/-- Counts a text. -/
def Counts.ofText (text : List Char) : Counts :=
  let step (s : Nat × Bool) (c : Char) : Nat × Bool :=
    if Integer.isBlank c then (s.1, false) else (if s.2 then s.1 else s.1 + 1, true)
  { lines := text.count '\n', words := (text.foldl step (0, false)).1, bytes := text.length
    longest := ((Text.pieces '\n' text).map screenLength).foldl max 0 }

/-- The sums of counts, and the greater of the longest lines. -/
def Counts.add (a b : Counts) : Counts :=
  { lines := a.lines + b.lines, words := a.words + b.words, bytes := a.bytes + b.bytes
    longest := max a.longest b.longest }

/-- The size of a file that counts are made of; nothing for what is no file, and an error for what
is not there. -/
def sizeOf (name? : Option Octets) : Job (Except IoError (Option Nat)) := do
  let files ← files
  match name? with
  | none | some "-" =>
    let w ← get
    let channel? : Option Channel := (w.call.streams.lookup 0).bind fun number =>
      w.machine.opened[number]?.map (·.channel)
    match channel? with
    | some (.file location) => return .ok (some (w.machine.content (.file location)).size)
    | _ => return .ok none
  | some name =>
    match files.locate (Octets.toText name) with
    | .error e => return .error e
    | .ok location =>
      match files.node? location with
      | none => return .error .notFound
      | some (.file content) => return .ok (some content.size)
      | some _ => return .ok none

/-- Counts lines, words and bytes of files. -/
def wc : Job Unit := do
  let a ← arguments
    [⟨'c', "bytes", .none, false⟩, ⟨'l', "lines", .none, false⟩,
      ⟨'L', "max-line-length", .none, false⟩, ⟨'m', "chars", .none, false⟩,
      ⟨'w', "words", .none, false⟩] 1
  let isBare := a.options.isEmpty
  let columns (c : Counts) : List Nat :=
    (if isBare || a.has 'l' then [c.lines] else []) ++
      (if isBare || a.has 'w' then [c.words] else [])
      ++ (if a.has 'm' then [c.bytes] else []) ++ (if isBare || a.has 'c' then [c.bytes] else [])
      ++ (if a.has 'L' then [c.longest] else [])
  let names : List (Option Octets) :=
    if a.operands.isEmpty then [none] else a.operands.map some
  let sizes ← names.mapM sizeOf
  let width :=
    if names.length = 1 && (columns {}).length = 1 then 1
    else
      let total := (sizes.filterMap fun size =>
        match size with
        | .ok size => size
        | .error _ => none).foldl (· + ·) 0
      let others := sizes.any fun size =>
        match size with
        | .ok none => true
        | _ => false
      max (Nat.toDigits 10 total).length (if others then 7 else 1)
  let tell (c : Counts) (name? : Option Octets) : Job Unit := do
    let texts := (columns c).map fun n => String.ofList (column width n)
    let behind := match name? with
      | some name => " " ++ name
      | none => ""
    say (" ".intercalate texts ++ behind ++ "\n")
  let mut total : Counts := {}
  for name? in names do
    let name := name?.getD "-"
    match ← readOperand name with
    | .ok text =>
      let counts := Counts.ofText text.toList
      total := total.add counts
      tell counts name?
    | .error e =>
      warn (quoteIfNeeded name ++ ": " ++ reason e)
      if e = .isDirectory then tell {} name?
  if names.length > 1 then tell total (some "total")

/-! ### Columns of files -/

/-- Joins the lines of files. -/
def paste : Job Unit := do
  let a ← arguments
    [⟨'d', "delimiters", .needed, false⟩, ⟨'s', "serial", .none, false⟩,
      ⟨'z', "zero-terminated", .none, false⟩] 1
  let rec unescaped : List Char → List (List Char)
    | '\\' :: 'n' :: rest => ['\n'] :: unescaped rest
    | '\\' :: 't' :: rest => ['\t'] :: unescaped rest
    | '\\' :: '0' :: rest => [] :: unescaped rest
    | '\\' :: c :: rest => [c] :: unescaped rest
    | c :: rest => [c] :: unescaped rest
    | [] => []
  let delimiters := unescaped ((a.last? 'd').getD "\t").toList
  let delimiter (n : Nat) : List Char :=
    if delimiters.isEmpty then [] else delimiters[n % delimiters.length]?.getD []
  let join (parts : List (List Char)) : List Char :=
    (parts.zipIdx.map fun (part, n) => if n = 0 then part else delimiter (n - 1) ++ part).flatten
  let names := if a.operands.isEmpty then ["-"] else a.operands
  let dashes := names.count "-"
  let mut input : List (List Char) := []
  let mut all : List (List (List Char)) := []
  for name in names do
    match ← readOperand name with
    | .ok text =>
      -- The lines of an input that is read in several places are given to each in turn.
      if name = "-" && dashes > 1 && !a.has 's' then
        let place := all.length
        if input.isEmpty then input := bareRecords a.ender text
        let turn := (names.take place).count "-"
        let lines := input.zipIdx.filter fun entry => entry.2 % dashes = turn
        all := all ++ [lines.map Prod.fst]
      else all := all ++ [bareRecords a.ender text]
    | .error e =>
      if a.has 's' then warn (quoteIfNeeded name ++ ": " ++ reason e)
      else fail 1 (quoteIfNeeded name ++ ": " ++ reason e)
  if a.has 's' then
    for lines in all do sayChars (join lines ++ [a.ender])
  else
    let height := (all.map List.length).foldl max 0
    for n in List.range height do
      sayChars (join (all.map fun lines => lines[n]?.getD []) ++ [a.ender])

/-- The longest front of a line that is not too wide, but one character at least. -/
def fittingFront (width : Nat) (bytes : Bool) (place : Nat) : List Char → List Char
  | [] => []
  | c :: rest =>
    let next := columnBehind bytes place c
    if next > width then [] else c :: fittingFront width bytes next rest

/-- A line cut into pieces that are not too wide; with `atBlanks` behind blanks where there are
some. -/
def foldLine (width : Nat) (bytes atBlanks : Bool) : Nat → List Char → List (List Char)
  | 0, line => [line]
  | bound + 1, line =>
    let piece := fittingFront width bytes 0 line
    let piece := if piece.isEmpty then line.take 1 else piece
    if piece.length = line.length then [line]
    else
      let behind := piece.reverse.dropWhile fun c => c ≠ ' ' && c ≠ '\t'
      let piece := if atBlanks && !behind.isEmpty then behind.reverse else piece
      piece :: foldLine width bytes atBlanks bound (line.drop piece.length)

/-- Cuts long lines into pieces. -/
def fold : Job Unit := do
  modify fun w =>
    let args := match w.call.args with
      | arg :: rest =>
        match arg.toList with
        | '-' :: d :: more =>
          if (d :: more).all Char.isDigit then ["-w", String.ofList (d :: more)] ++ rest
          else arg :: rest
        | _ => arg :: rest
      | [] => []
    { w with call := { w.call with args } }
  let a ← arguments
    [⟨'b', "bytes", .none, false⟩, ⟨'s', "spaces", .none, false⟩,
      ⟨'w', "width", .needed, false⟩] 1
  let width ← match a.last? 'w' with
    | none => pure 80
    | some value =>
      match Integer.readWhole? 10 value with
      | some n =>
        if n > 0 then pure n.toNat
        else
          let behind := if n = 0 then ": " ++ reason (.system 34) else ""
          fail 1 ("invalid number of columns: " ++ quote value ++ behind)
      | none => fail 1 ("invalid number of columns: " ++ quote value)
  eachOperand a.operands fun _ text => do
    for line in Octets.linesOf text.toList do
      let ended := line.getLast? = some '\n'
      let body := if ended then line.dropLast else line
      let pieces := foldLine width (a.has 'b') (a.has 's') (body.length + 1) body
      sayChars (List.intercalate ['\n'] pieces ++ if ended then ['\n'] else [])

end Modlet.Tool
