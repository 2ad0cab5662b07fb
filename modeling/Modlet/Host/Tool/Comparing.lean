import Modlet.Host.Tool.Files
import Modlet.Host.Tool.Lines

/-!
# Comparing files

Two files are compared byte by byte up to the first place where they differ, or line by line. The
lines that both have in common, as many as there can be, stay; those between them are taken out or
put in.
-/

namespace Modlet.Tool

open Job

/-! ### Bytes -/

/-- The line of a place in a text: the number of lines that end before it, and one more. -/
def lineAt (text : List Char) (place : Nat) : Nat := (text.take place).count '\n' + 1

/-- The first place where two texts differ; nothing if there is none as far as both go. -/
def differAt? (a b : List Char) : Option Nat := (a.zip b).findIdx? fun pair => pair.1 ≠ pair.2

/-- Tells that a file ends before another one. -/
def tellEnd (lists : Bool) (name : Octets) (text : List Char) : Job Unit := do
  let lines := text.count '\n'
  let place :=
    if lists then ""
    else if text.getLast? = some '\n' then ", line " ++ lines.repr
    else ", in line " ++ (lines + 1).repr
  if text.isEmpty then warn ("EOF on " ++ name ++ " which is empty")
  else warn ("EOF on " ++ name ++ " after byte " ++ text.length.repr ++ place)

/-- Compares two files byte by byte. -/
def cmp : Job Unit := do
  let call := (← get).call
  modify fun w => { w with usage := call.name ++ ": " }
  let a ← arguments
    [⟨'b', "print-bytes", .none, false⟩, ⟨'i', "ignore-initial", .needed, false⟩,
      ⟨'l', "verbose", .none, false⟩, ⟨'n', "bytes", .needed, false⟩,
      ⟨'s', "quiet", .none, false⟩, ⟨'s', "silent", .none, true⟩] 2
  let amount (what value : Octets) : Job Nat := do
    match readAmount? value.toList with
    | some n => return n
    | none => misuse 2 ("invalid --" ++ what ++ " value " ++ quote value)
  let (first, second, others) ← match a.operands with
    | [] =>
      misuse 2 ("missing operand after " ++ quote (call.args.getLast?.getD call.name))
    | [first] => pure (first, ("-" : Octets), [])
    | first :: second :: others => pure (first, second, others)
  let skips ← match a.last? 'i' with
    | none => (others.take 2).mapM (amount "ignore-initial")
    | some value => do
      let parts := (Text.pieces ':' value.toList).map String.ofList
      let found ← parts.mapM (amount "ignore-initial")
      pure (if found.length = 1 then found ++ found else found)
  if let _ :: _ :: other :: _ := others then misuse 2 ("extra operand " ++ quote other)
  let limit? ← match a.last? 'n' with
    | none => pure none
    | some value => do pure (some (← amount "bytes" value))
  let quiet := a.has 's'
  let same : Bool := match ← stat first, ← stat second with
    | .ok (x, _), .ok (y, _) => x = y
    | _, _ => first = second
  if same && skips.isEmpty then return
  let read (name : Octets) (skip : Nat) : Job (List Char) := do
    match ← readOperand name with
    | .ok text =>
      let rest := text.toList.drop skip
      return match limit? with
        | some n => rest.take n
        | none => rest
    | .error e => if quiet then throw (.exited 2) else fail 2 (name ++ ": " ++ reason e)
  let x ← read first (skips[0]?.getD 0)
  let y ← read second (skips[1]?.getD 0)
  let width := (Nat.toDigits 10 (min x.length y.length)).length
  let octal (c : Char) : List Char := Fractional.padFront 3 ' ' (Nat.toDigits 8 c.toNat)
  match differAt? x y with
  | some place =>
    if !quiet then
      if a.has 'l' then
        for ((c, d), n) in (x.zip y).zipIdx do
          if c ≠ d then
            let shown (c : Char) (width : Nat) : List Char :=
              let text := visible c
              if a.has 'b' then ' ' :: text ++ List.replicate (width - text.length) ' ' else []
            sayChars (column width (n + 1) ++ [' '] ++ octal c ++ shown c 4 ++ [' '] ++ octal d
              ++ shown d 0 ++ ['\n'])
        if x.length < y.length then tellEnd true first x
        else if y.length < x.length then tellEnd true second y
      else
        let c := x[place]?.getD '\x00'
        let d := y[place]?.getD '\x00'
        let kind := if a.has 'b' then "byte" else "char"
        say (first ++ " " ++ second ++ " differ: " ++ kind ++ " " ++ (place + 1).repr ++ ", line "
          ++ (lineAt x place).repr)
        if a.has 'b' then
          sayChars (" is ".toList ++ octal c ++ [' '] ++ visible c ++ [' '] ++ octal d ++ [' ']
            ++ visible d)
        say "\n"
    mark 1
  | none =>
    if x.length ≠ y.length then
      if quiet then mark 1
      else if x.length < y.length then tellEnd (a.has 'l') first x
      else tellEnd (a.has 'l') second y

/-! ### Lines -/

/-- What becomes of a line. -/
inductive LineChange
  | kept (line : List Char)
  | taken (line : List Char)
  | put (line : List Char)

/-- The greatest numbers of lines in common of a list with a line more in front and the ends of
another one, given those without that line. -/
def commonRow (same : List Char → List Char → Bool) (line : List Char) :
    List (List Char) → List Nat → List Nat
  | [], _ => [0]
  | other :: others, row =>
    let behind := commonRow same line others (row.drop 1)
    let best :=
      if same line other then (row.drop 1).headD 0 + 1 else max (row.headD 0) (behind.headD 0)
    best :: behind

/-- The greatest numbers of lines in common of the ends of two lists. -/
def commonRows (same : List Char → List Char → Bool) (xs ys : List (List Char)) :
    List (List Nat) :=
  xs.foldr
    (fun line rows => commonRow same line ys (rows.headD []) :: rows)
    [List.replicate (ys.length + 1) 0]

/-- What makes one list of lines another one, with the greatest number of lines kept. -/
def lineChanges (same : List Char → List Char → Bool) :
    List (List Char) → List (List Char) → List (List Nat) → List LineChange
  | [], ys, _ => ys.map .put
  | x :: xs, [], rows => .taken x :: lineChanges same xs [] (rows.drop 1)
  | x :: xs, y :: ys, rows =>
    if same x y then
      .kept x :: lineChanges same xs ys ((rows.drop 1).map (·.drop 1))
    else
      let withoutFirst := ((rows.drop 1).headD []).headD 0
      let withoutSecond := (((rows.headD []).drop 1)).headD 0
      if withoutFirst ≥ withoutSecond then
        .taken x :: lineChanges same xs (y :: ys) (rows.drop 1)
      else .put y :: lineChanges same (x :: xs) ys (rows.map (·.drop 1))
termination_by xs ys => xs.length + ys.length

/-- Changes that stand behind one another, with how many lines come before them in each file. -/
structure Hunk where
  first : Nat
  second : Nat
  taken : List (List Char) := []
  put : List (List Char) := []

/-- The hunks of changes. -/
def hunksOf : Nat → Nat → Option Hunk → List LineChange → List Hunk
  | _, _, open?, [] => open?.toList
  | i, j, open?, .kept _ :: rest => open?.toList ++ hunksOf (i + 1) (j + 1) none rest
  | i, j, open?, .taken line :: rest =>
    let h := open?.getD { first := i, second := j }
    hunksOf (i + 1) j (some { h with taken := h.taken ++ [line] }) rest
  | i, j, open?, .put line :: rest =>
    let h := open?.getD { first := i, second := j }
    hunksOf i (j + 1) (some { h with put := h.put ++ [line] }) rest

/-- A line of a file behind a mark, with a remark if it is not ended. -/
def marked (mark : String) (line : List Char) : List Char :=
  mark.toList ++ line ++
    if line.getLast? = some '\n' then [] else "\n\\ No newline at end of file\n".toList

namespace Hunk

/-- The numbers of some lines behind others. -/
def range (before count : Nat) : Octets :=
  if count = 0 then before.repr
  else if count = 1 then (before + 1).repr
  else (before + 1).repr ++ "," ++ (before + count).repr

/-- A hunk in writing. -/
def text (h : Hunk) : List Char :=
  let letter := if h.taken.isEmpty then "a" else if h.put.isEmpty then "d" else "c"
  (range h.first h.taken.length ++ letter ++ range h.second h.put.length ++ "\n").toList
    ++ h.taken.flatMap (marked "< ")
    ++ (if h.taken.isEmpty || h.put.isEmpty then [] else "---\n".toList)
    ++ h.put.flatMap (marked "> ")

end Hunk

/-- Hunks in groups, such that between those of a group there are at most as many lines that are
kept as are shown around both. -/
def grouped (around : Nat) : List Hunk → List (List Hunk)
  | [] => []
  | h :: hs =>
    match grouped around hs with
    | (next :: group) :: groups =>
      if next.first - (h.first + h.taken.length) ≤ 2 * around then (h :: next :: group) :: groups
      else [h] :: (next :: group) :: groups
    | groups => [h] :: groups

/-- A group of hunks in writing, with lines that are kept around them. -/
def groupText (around : Nat) (xs : List (List Char)) (group : List Hunk) : List Char :=
  match group.head?, group.getLast? with
  | some h, some l =>
    let start := h.first - around
    let lead := h.first - start
    let finish := min xs.length (l.first + l.taken.length + around)
    let tail := finish - (l.first + l.taken.length)
    let count := finish - start
    let otherStart := h.second - lead
    let otherCount := l.second + l.put.length + tail - otherStart
    let range (before count : Nat) : String :=
      if count = 1 then (before + 1).repr
      else (if count = 0 then before else before + 1).repr ++ "," ++ count.repr
    let header := "@@ -" ++ range start count ++ " +" ++ range otherStart otherCount ++ " @@\n"
    let (body, place) := group.foldl
      (fun (found : List Char × Nat) (h : Hunk) =>
        let kept := (xs.drop found.2).take (h.first - found.2)
        (found.1 ++ kept.flatMap (marked " ") ++ h.taken.flatMap (marked "-")
          ++ h.put.flatMap (marked "+"), h.first + h.taken.length)) ([], start)
    header.toList ++ body ++ ((xs.drop place).take (finish - place)).flatMap (marked " ")
  | _, _ => []

/-- How files are compared by lines. -/
structure Comparison where
  /-- Only whether files differ is told. -/
  brief : Bool
  /-- That files are the same is told. -/
  tellsSame : Bool
  /-- The number of lines around changes; nothing for changes without any. -/
  around? : Option Nat
  /-- What stands for the files. -/
  labels : List Octets
  /-- Whether lines count as the same. -/
  same : List Char → List Char → Bool
  /-- Directories are compared with all in them. -/
  recursive : Bool
  /-- The options, as they are told. -/
  options : Octets

namespace Comparison

/-- Compares two texts. With a title that is told first. -/
def texts (c : Comparison) (title : Octets) (first second x y : Octets) : Job Unit := do
  let xs := Octets.linesOf x.toList
  let ys := Octets.linesOf y.toList
  let hunks := hunksOf 0 0 none (lineChanges c.same xs ys (commonRows c.same xs ys))
  let isBinary := x.toList.contains '\x00' || y.toList.contains '\x00'
  if hunks.isEmpty || x = y then
    if c.tellsSame then
      say ("Files " ++ quoteIfNeeded first ++ " and " ++ quoteIfNeeded second
        ++ " are identical\n")
  else
    mark 1
    if c.brief then
      say ("Files " ++ quoteIfNeeded first ++ " and " ++ quoteIfNeeded second ++ " differ\n")
    else if isBinary then
      say ("Binary files " ++ quoteIfNeeded first ++ " and " ++ quoteIfNeeded second
        ++ " differ\n")
    else
      say title
      match c.around? with
      | none => sayChars (hunks.flatMap Hunk.text)
      | some around =>
        let date := "\t1970-01-01 00:00:00.000000000 +0000"
        say ("--- " ++ c.labels[0]?.getD (first ++ date) ++ "\n")
        say ("+++ " ++ c.labels[1]?.getD (second ++ date) ++ "\n")
        sayChars ((grouped around hunks).flatMap (groupText around xs))

/-- Compares two files, or two directories with what is in them. The bound is on their depth. -/
def files (c : Comparison) : Nat → Bool → Octets → Octets → Job Unit
  | 0, _, _, _ => return
  | bound + 1, isTop, first, second => do
    let found (name : Octets) : Job (Option (Location × Node)) := do
      if name = "-" then return none else return (← stat name).toOption
    match ← found first, ← found second with
    | some (x, .directory), some (y, .directory) =>
      if isTop || c.recursive then
        let names := (← namesIn x) ++ (← namesIn y)
        for name in names.eraseDups.mergeSort (· ≤ ·) do
          let inFirst := (← namesIn x).contains name
          let inSecond := (← namesIn y).contains name
          if inFirst && inSecond then
            files c bound false (joinPath first name) (joinPath second name)
          else
            say ("Only in " ++ (if inFirst then first else second) ++ ": " ++ name ++ "\n")
            mark 1
      else say ("Common subdirectories: " ++ first ++ " and " ++ second ++ "\n")
    | x, y =>
      let isDirectory (found? : Option (Location × Node)) : Bool := match found? with
        | some (_, .directory) => true
        | _ => false
      if !isTop && (isDirectory x != isDirectory y) then
        let kind (there : Bool) : Octets := if there then "directory" else "regular file"
        say ("File " ++ first ++ " is a " ++ kind (isDirectory x) ++ " while file " ++ second
          ++ " is a " ++ kind (isDirectory y) ++ "\n")
        mark 1
      else
        let first := if isDirectory x then joinPath first (lastName second) else first
        let second := if isDirectory y then joinPath second (lastName first) else second
        let a ← readOperand first
        let b ← readOperand second
        for (name, found) in [(first, a), (second, b)] do
          if let .error e := found then
            complain (name ++ ": " ++ reason e)
            mark 2
        match a, b with
        | .ok a, .ok b =>
          let title := if isTop then ""
            else "diff" ++ c.options ++ " " ++ first ++ " " ++ second ++ "\n"
          c.texts title first second a b
        | _, _ => return

end Comparison

/-- Compares two files line by line. -/
def diff : Job Unit := do
  let call := (← get).call
  modify fun w => { w with usage := call.name ++ ": " }
  let a ← arguments
    [⟨'q', "brief", .none, false⟩, ⟨'s', "report-identical-files", .none, false⟩,
      ⟨'i', "ignore-case", .none, false⟩, ⟨'w', "ignore-all-space", .none, false⟩,
      ⟨'b', "ignore-space-change", .none, false⟩, ⟨'u', "", .none, false⟩,
      ⟨'U', "unified", .needed, false⟩, ⟨'L', "label", .needed, false⟩,
      ⟨'r', "recursive", .none, false⟩, ⟨'a', "text", .none, false⟩,
      ⟨'N', "new-file", .none, false⟩, ⟨'n', "normal", .none, true⟩] 2
  let (first, second) ← match a.operands with
    | [first, second] => pure (first, second)
    | _ :: _ :: other :: _ => misuse 2 ("extra operand " ++ quote other)
    | _ => misuse 2 ("missing operand after " ++ quote (call.args.getLast?.getD call.name))
  let isBlank (c : Char) : Bool := Integer.isBlank c
  let kept (line : List Char) : List Char :=
    let line := if a.has 'i' then line.map Char.toLower else line
    if a.has 'w' then line.filter fun c => !isBlank c
    else if a.has 'b' then
      let words := (line.splitBy fun c d => isBlank c = isBlank d)
      (words.map fun word => if word.any isBlank then [' '] else word).flatten
    else line
  let around? := match a.last? 'U' with
    | some value => (Integer.readWhole? 10 value).map Int.toNat
    | none => if a.has 'u' then some 3 else none
  let options := call.args.filter fun arg => arg ≠ "-" && arg.toList.head? = some '-'
  let c : Comparison :=
    { brief := a.has 'q', tellsSame := a.has 's', around?, labels := a.all 'L'
      same := fun x y => kept x = kept y, recursive := a.has 'r'
      options := String.join (options.map fun option => " " ++ option) }
  c.files 1000 true first second

end Modlet.Tool
