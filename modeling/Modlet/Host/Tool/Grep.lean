import Modlet.Host.Tool.Files
import Modlet.Host.Tool.Lines
import Modlet.Text.Regex

/-!
# Searching for lines

Lines of files are searched for texts that regular expressions stand for. Those that have some, or
those that have none, are written, counted, or only make a difference to the status.
-/

namespace Modlet.Tool

open Job

/-- How lines are searched. -/
structure Searching where
  /-- The expressions of which one is wanted. -/
  patterns : List Regex
  /-- Upper and lower case make no difference. -/
  folds : Bool := false
  /-- Lines without any are wanted. -/
  inverted : Bool := false
  /-- What is found has to be words. -/
  words : Bool := false
  /-- What is found has to be the line. -/
  whole : Bool := false

namespace Searching

/-- The longest match of an expression at a place that is as it is wanted. -/
def matchAt? (s : Searching) (subject : Regex.Subject) (pattern : Regex) (place : Nat) :
    Option (Nat × Nat) :=
  let size := subject.text.size
  let fits (finish : Nat) : Bool :=
    (!s.whole || (place = 0 && finish = size))
      && (!s.words || (!subject.wordBefore place && !subject.wordBehind finish))
  let ends := (Regex.follow subject pattern { place }).map (·.place)
  match ends.filter fits with
  | [] => none
  | first :: others => some (place, others.foldl max first)

/-- The first match from a place on, the longest there. -/
def search? (s : Searching) (line : List Char) (place : Nat) : Option (Nat × Nat) :=
  let subjects := s.patterns.map fun pattern => (pattern, pattern.subject s.folds line)
  (List.range (line.length + 1 - place)).findSome? fun n =>
    let found := subjects.filterMap fun (pattern, subject) =>
      s.matchAt? subject pattern (place + n)
    match found with
    | [] => none
    | first :: others => some (others.foldl (fun a b => if b.2 > a.2 then b else a) first)

/-- Whether a line is wanted. -/
def wants (s : Searching) (line : List Char) : Bool := (s.search? line 0).isSome != s.inverted

/-- All matches in a line that are not empty, with their places. -/
def matches_ (s : Searching) (line : List Char) : Nat → Nat → List (Nat × List Char)
  | 0, _ => []
  | bound + 1, place =>
    match s.search? line place with
    | none => []
    | some (first, last) =>
      if last > first then
        (first, (line.drop first).take (last - first)) :: matches_ s line bound last
      else matches_ s line bound (last + 1)

end Searching

/-- How lines that are found are written. -/
structure Finding where
  searching : Searching
  counts : Bool := false
  names : Option Bool := none
  onlyMatches : Bool := false
  numbers : Bool := false
  titled : Bool := false
  quiet : Bool := false
  offsets : Bool := false
  most? : Option Nat := none
  before : Nat := 0
  behind : Nat := 0
  /-- What ends lines. -/
  ender : Char := '\n'
  /-- Names end with a character that no name has. -/
  bareNames : Bool := false
  /-- A tab stands in front of lines that have something in front. -/
  tabs : Bool := false
  /-- What stands between lines that do not stand together in the file. -/
  gap? : Option Octets := some "--"
  /-- What is done with what is no text; it is shown as such, or not searched, or else told. -/
  binary : String := "binary"

namespace Finding

/-- What stands in front of a line. -/
def lead (f : Finding) (name : Octets) (number offset : Nat) (mark : Octets) : Octets :=
  let text := (if f.titled then name ++ (if f.bareNames then "\x00" else mark) else "")
    ++ (if f.numbers then number.repr ++ mark else "")
    ++ (if f.offsets then offset.repr ++ mark else "")
  if f.tabs && text ≠ "" then text ++ "\t" else text

/-- Searches a text, and tells whether anything was found. -/
def run (f : Finding) (name text : Octets) (isFirst : Bool) : Job Bool := do
  let s := f.searching
  let lines := bareRecords f.ender text
  let offsets := (lines.foldl (fun (found : List Nat × Nat) line =>
    (found.2 :: found.1, found.2 + line.length + 1)) ([], 0)).1.reverse
  let isBinary := f.ender = '\n' && f.binary ≠ "text" && text.toList.contains '\x00'
  let numbered := if isBinary && f.binary = "without-match" then [] else (lines.zip offsets).zipIdx
  let found := numbered.filter fun entry => s.wants entry.1.1
  let found := match f.most? with
    | some n => found.take n
    | none => found
  let isFound := !found.isEmpty
  if f.quiet then return isFound
  match f.names with
  | some wanted =>
    if isFound = wanted then say (name ++ (if f.bareNames then "\x00" else "\n"))
    return isFound
  | none =>
    if f.counts then
      let mark := if f.bareNames then "\x00" else ":"
      say ((if f.titled then name ++ mark else "") ++ found.length.repr ++ "\n")
      return isFound
    else if isBinary && isFound then
      say ((← get).call.name ++ ": " ++ name ++ ": binary file matches\n")
      return true
    else if f.onlyMatches then
      if !s.inverted then
        for ((line, offset), n) in found do
          for (place, text) in s.matches_ line (line.length + 2) 0 do
            say (f.lead name (n + 1) (offset + place) ":")
            sayChars (text ++ [f.ender])
      return isFound
    else
      let wanted := found.map Prod.snd
      let last := (wanted.getLast?).getD 0
      let isNear (n : Nat) : Bool := wanted.any fun m =>
        (n ≤ m && m ≤ n + f.before) || (m ≤ n && n ≤ m + f.behind)
      let hasContext := f.before > 0 || f.behind > 0
      let mut latest : Option Nat := none
      for ((line, offset), n) in numbered do
        if isNear n && (n ≤ last + f.behind) then
          let isBreak : Bool := match latest with
            | some m => m + 1 < n
            | none => !isFirst
          if hasContext && isBreak then
            if let some gap := f.gap? then say (Octets.line gap)
          latest := some n
          let mark := if wanted.contains n then ":" else "-"
          say (f.lead name (n + 1) offset mark)
          sayChars (line ++ [f.ender])
      return isFound

end Finding

/-- Names that are searched or are not. -/
structure Choosing where
  /-- Patterns for names of files that are searched, or are not. -/
  files : List (Bool × List Glob.Part)
  /-- Patterns for names of directories that are not searched. -/
  directories : List (List Glob.Part)

namespace Choosing

/-- Whether a file is searched. The last pattern that fits says so; if none does, the first. -/
def hasFile (c : Choosing) (path : Octets) : Bool :=
  let pieces := Text.pieces '/' path.toList
  let ends := (List.range pieces.length).map fun n => List.intercalate ['/'] (pieces.drop n)
  match c.files.reverse.find? fun entry => ends.any (Glob.fits entry.2), c.files.head? with
  | some (wanted, _), _ => wanted
  | none, some (wanted, _) => !wanted
  | none, none => true

/-- Whether a directory is searched. -/
def hasDirectory (c : Choosing) (name : Octets) : Bool :=
  !c.directories.any (Glob.fits · name.toList)

end Choosing

/-- The files below a directory, in order, those that links lead to only if `follows`. The bound is
on the depth. -/
def filesBelow (choosing : Choosing) (follows : Bool) :
    Nat → Octets → Location → Job (List Octets)
  | 0, _, _ => return []
  | bound + 1, path, location => do
    let files ← files
    let mut found : List Octets := []
    for name in files.entries location do
      let shown := Octets.ofText name
      let path := joinPath path shown
      let below := location ++ [name]
      let led? := if follows then (files.stat (FileSystem.absolutePath below)).toOption else none
      match led?.or ((files.node? below).map (below, ·)) with
      | some (below, .directory) =>
        if choosing.hasDirectory shown then
          found := found ++ (← filesBelow choosing follows bound path below)
      | some (_, .link _) => if follows && choosing.hasFile shown then found := found ++ [path]
      | some _ => if choosing.hasFile shown then found := found ++ [path]
      | none => pure ()
    return found

/-- Searches files for lines. The mode says how patterns are read, unless an option does. -/
def grepWith (mode? : Option Char) : Job Unit := do
  let usage := "Usage: " ++ (← get).call.name ++ " [OPTION]... PATTERNS [FILE]...\n"
  modify fun w => { w with usage }
  let a ← arguments (digitChoices ++
    [⟨'A', "after-context", .needed, false⟩, ⟨'B', "before-context", .needed, false⟩,
      ⟨'C', "context", .needed, false⟩, ⟨'E', "extended-regexp", .none, false⟩,
      ⟨'F', "fixed-strings", .none, false⟩, ⟨'G', "basic-regexp", .none, false⟩,
      ⟨'P', "perl-regexp", .none, false⟩, ⟨'H', "with-filename", .none, false⟩,
      ⟨'L', "files-without-match", .none, false⟩, ⟨'a', "text", .none, false⟩,
      ⟨'b', "byte-offset", .none, false⟩, ⟨'c', "count", .none, false⟩,
      ⟨'e', "regexp", .needed, false⟩, ⟨'f', "file", .needed, false⟩,
      ⟨'h', "no-filename", .none, false⟩, ⟨'i', "ignore-case", .none, false⟩,
      ⟨'y', "", .none, false⟩, ⟨'l', "files-with-matches", .none, false⟩,
      ⟨'m', "max-count", .needed, false⟩, ⟨'n', "line-number", .none, false⟩,
      ⟨'Z', "null", .none, false⟩, ⟨'T', "initial-tab", .none, false⟩,
      ⟨'J', "include", .needed, true⟩, ⟨'X', "exclude", .needed, true⟩,
      ⟨'Y', "exclude-from", .needed, true⟩, ⟨'Q', "exclude-dir", .needed, true⟩,
      ⟨'N', "label", .needed, true⟩, ⟨'W', "line-buffered", .none, true⟩,
      ⟨'M', "binary-files", .needed, true⟩, ⟨'O', "no-ignore-case", .none, true⟩,
      ⟨'S', "group-separator", .needed, true⟩, ⟨'=', "no-group-separator", .none, true⟩,
      ⟨'d', "directories", .needed, false⟩, ⟨'D', "devices", .needed, false⟩,
      ⟨'o', "only-matching", .none, false⟩, ⟨'q', "quiet", .none, false⟩,
      ⟨'q', "silent", .none, true⟩, ⟨'r', "recursive", .none, false⟩,
      ⟨'R', "dereference-recursive", .none, false⟩, ⟨'s', "no-messages", .none, false⟩,
      ⟨'v', "invert-match", .none, false⟩, ⟨'w', "word-regexp", .none, false⟩,
      ⟨'x', "line-regexp", .none, false⟩, ⟨'z', "null-data", .none, false⟩,
      ⟨'K', "color", .possible, true⟩, ⟨'K', "colour", .possible, true⟩,
      ⟨'I', "", .none, false⟩, ⟨'U', "binary", .none, false⟩]) 2
  let mut patterns : List Octets := a.all 'e'
  for name in a.all 'f' do
    match ← readOperand name with
    | .ok text => patterns := patterns ++ (bareLines text).map String.ofList
    | .error e => fail 2 (name ++ ": " ++ reason e)
  let given := a.has 'e' || a.has 'f'
  if !given && a.operands.isEmpty then seeHelp 2
  let operands := if given then a.operands else a.operands.drop 1
  let all := if given then patterns else a.operands.take 1
  let texts := all.flatMap fun text => Text.pieces '\n' text.toList
  let matchers := (a.options.map Prod.fst).filter (['E', 'F', 'G', 'P'].contains ·)
  let mode ← match (mode?.toList ++ matchers).eraseDups with
    | [] => pure 'G'
    | [mode] => pure mode
    | _ => fail 2 "conflicting matchers specified"
  let kinds := ["binary", "text", "without-match"]
  let binary := a.options.foldl (fun found (letter, value) =>
    if letter = 'a' then "text" else if letter = 'I' then "without-match"
    else if letter = 'M' then value else found) "binary"
  if !kinds.contains binary then fail 2 "unknown binary-files type"
  for value in a.all 'D' do
    if !(["read", "skip"].contains value) then fail 2 "unknown devices method"
  let actions ← (a.all 'd').mapM (pick "--directories" [["read"], ["recurse"], ["skip"]])
  let glob (text : Octets) : List Glob.Part := Glob.ofText (text.toList.map fun c => (c, false))
  let mut files : List (Bool × List Glob.Part) := []
  for (letter, value) in a.options do
    if letter = 'J' || letter = 'X' then files := files ++ [(decide (letter = 'J'), glob value)]
    else if letter = 'Y' then
      match ← readOperand value with
      | .ok text =>
        files := files ++ (bareLines text).map fun line => (false, glob (String.ofList line))
      | .error e => fail 2 (value ++ ": " ++ reason e)
  let bare (name : Octets) : Octets :=
    String.ofList (name.toList.reverse.dropWhile (· = '/')).reverse
  let choosing : Choosing :=
    { files, directories := (a.all 'Q').map fun name => glob (bare name) }
  let mut regexes : List Regex := []
  for text in texts do
    if mode = 'F' then regexes := regexes ++ [Regex.ofLiteral text]
    else
      if Regex.hasBareClass text then fail 2 Regex.bareClass
      match Regex.ofText (if mode = 'G' then .basic else .lenientExtended) text with
      | .ok written =>
        for warning in written.warnings do complain ("warning: " ++ warning)
        regexes := regexes ++ [written.regex]
      | .error e => fail 2 e
  let number (letter : Char) (what : Octets) : Job (Option Nat) := do
    match a.last? letter with
    | none => return none
    | some value =>
      if value ≠ "" && value.toList.all Char.isDigit then
        return some (Integer.digitsValue 10 value.toList)
      else if what = "" && (Integer.readWhole? 10 value).isSome then return none
      else fail 2 (if what = "" then "invalid max count" else value ++ ": invalid " ++ what)
  let digits := (a.options.map Prod.fst).filter Char.isDigit
  let around ← number 'C' "context length argument"
  let around := if digits.isEmpty then around else some (Integer.digitsValue 10 digits)
  let before ← number 'B' "context length argument"
  let behind ← number 'A' "context length argument"
  let most? ← number 'm' ""
  let recursive := ['r', 'R'].any a.has || actions.getLast? = some "recurse"
  let skips := !recursive && actions.getLast? = some "skip"
  let operands := if operands.isEmpty then (if recursive then ["."] else ["-"]) else operands
  let mut names : List (Octets × Bool) := []
  let mut failed := false
  for path in operands do
    match ← stat path with
    | .ok (location, .directory) =>
      if skips then pure ()
      else if recursive then
        let below ←
          if choosing.hasDirectory (bare path) then
            filesBelow choosing (a.lastOf? ['r', 'R'] = some 'R') 1000 path location
          else pure []
        -- What stands for the directory itself is not told if it was not given.
        let shown (found : Octets) : Octets :=
          if a.operands.length ≤ (if given then 0 else 1) && path = "." then
            String.ofList (found.toList.drop 2)
          else found
        names := names ++ below.map fun found => (shown found, true)
      else
        names := names ++ [(path, false)]
    | _ => if path = "-" || choosing.hasFile path then names := names ++ [(path, false)]
  let titled (below : Bool) : Bool := match a.lastOf? ['h', 'H'] with
    | some letter => letter = 'H'
    | none => operands.length > 1 || below
  let searching : Searching :=
    { patterns := regexes, folds := ['i', 'y'].contains ((a.lastOf? ['i', 'y', 'O']).getD 'O')
      inverted := a.has 'v'
      words := a.has 'w', whole := a.has 'x' }
  let finding : Finding :=
    { searching, counts := a.has 'c', names := (a.lastOf? ['l', 'L']).map (· = 'l')
      onlyMatches := a.has 'o', numbers := a.has 'n', quiet := a.has 'q'
      ender := a.ender, bareNames := a.has 'Z', tabs := a.has 'T', binary
      gap? := if a.lastOf? ['S', '='] = some '=' then none else some ((a.last? 'S').getD "--")
      offsets := a.has 'b', most?, before := before.getD (around.getD 0)
      behind := behind.getD (around.getD 0) }
  let mut isFound := false
  let mut isFirst := true
  for (name, below) in names do
    match ← readOperand name with
    | .ok text =>
      let shown := if name = "-" then (a.last? 'N').getD "(standard input)" else name
      let now ← { finding with titled := titled below }.run shown text isFirst
      isFound := isFound || now
      isFirst := isFirst && !now
    | .error e =>
      if !a.has 's' then complain (name ++ ": " ++ reason e)
      failed := true
  if isFound && a.has 'q' then throw (.exited 0)
  mark (if failed then 2 else if isFound then 0 else 1)

/-- Searches files for lines under another name, which is not told. -/
def grepAs (mode : Char) : Job Unit := do
  modify fun w => { w with call := { w.call with name := "grep" } }
  grepWith (some mode)

end Modlet.Tool
