import Modlet.Host.Tool.Files
import Modlet.Text.Glob

/-!
# Lists of files

Files are listed by their names, those of directories in order. A line for each can tell more: what
may be done with it, how many names it has, whose it is, and its size.
-/

namespace Modlet.Tool

open Job

/-- How files are listed. -/
structure Listing where
  /-- All names, or all but the two that every directory has. -/
  hidden : Option Bool := none
  /-- Signs behind names tell what they are. -/
  signs : Option Char := none
  /-- Names in the opposite order. -/
  reversed : Bool := false
  /-- What was written latest comes first. -/
  byTime : Bool := false
  /-- The largest comes first. -/
  bySize : Bool := false
  /-- Directories are listed with all in them. -/
  recursive : Bool := false
  /-- More than names. -/
  long : Bool := false
  /-- Whom files belong to is told, and which group. -/
  owners : Bool := true
  groups : Bool := true
  /-- Who and which group are told by their numbers. -/
  asNumbers : Bool := false
  /-- Links are followed. -/
  follows : Bool := false
  /-- Names stand between quotes. -/
  quoted : Bool := false
  /-- Names of these shapes are left out. -/
  ignored : List Octets := []
  /-- Names in one line. -/
  inLine : Bool := false

namespace Listing

/-- The sign behind a name. -/
def signOf (l : Listing) (files : FileSystem) (location : Location) (node : Node) : Octets :=
  match l.signs, node with
  | some _, .directory => "/"
  | some 'F', .link _ => "@"
  | some 'F', _ => if files.mayRun location then "*" else ""
  | _, _ => ""

/-- The size that is told. -/
def sizeOf : Node → Nat
  | .directory => 4096
  | .file content => content.size
  | .link path => path.utf8ByteSize
  | _ => 0

/-- The number of names of what is at a location. -/
def nameCount (files : FileSystem) (location : Location) (node : Node) : Nat :=
  if isDirectory node then
    2 + ((files.entries location).filter fun name => files.isDirectory (location ++ [name])).length
  else (files.namesOf location).length

/-- The room that is taken, in units of 1024 bytes. -/
def roomOf : Node → Nat
  | .directory => 4
  | .file content => (content.size + 4095) / 4096 * 4
  | _ => 0

/-- The letter for what something is. -/
def kindLetter : Node → Char
  | .directory => 'd'
  | .device _ => 'c'
  | .link _ => 'l'
  | _ => '-'

/-- A line that tells more than a name, with columns of given widths. -/
def longLine (l : Listing) (files : FileSystem) (countWidth sizeWidth : Nat) (location : Location)
    (node : Node) (name : Octets) : Octets :=
  let column (width n : Nat) : Octets :=
    String.ofList (Fractional.padFront width ' ' (Nat.toDigits 10 n))
  let rights := Rights.letterText (files.rightsAt location)
  let who := if l.asNumbers then " 0" else " root"
  let behind := match node with
    | .link path =>
      let target? := (files.stat ("/".intercalate ("" :: location))).toOption
      let sign := match target? with
        | some (location, node) => l.signOf files location node
        | none => ""
      " -> " ++ Octets.ofText path ++ sign
    | _ => ""
  let unknown : Bool := match node with
    | .link _ => l.follows
    | _ => false
  if unknown then
    let someone := if l.asNumbers then " ?" else " ?   "
    let behind := String.ofList (List.replicate 11 ' ') ++ "? " ++ name
    "l????????? " ++ String.ofList (Fractional.padFront countWidth ' ' ['?'])
      ++ (if l.owners then someone else "") ++ (if l.groups then someone else "") ++ " "
      ++ String.ofList (Fractional.padFront sizeWidth ' ' ['?']) ++ " " ++ behind
  else
    String.ofList [kindLetter node] ++ rights ++ " "
      ++ column countWidth (nameCount files location node)
      ++ (if l.owners then who else "") ++ (if l.groups then who else "") ++ " "
      ++ column sizeWidth (sizeOf node) ++ " Jan  1 00:00 " ++ name ++ behind

/-- Lists names with where they lead. -/
def list (l : Listing) (entries : List (Octets × Location × Node)) : Job Unit := do
  let files ← files
  let place (location : Location) : Nat := files.nodes.findIdx fun entry => entry.1 = location
  let sorted := entries.mergeSort fun a b => a.1 ≤ b.1
  let sorted := if l.byTime then sorted.mergeSort fun a b => place a.2.1 ≤ place b.2.1
    else if l.bySize then sorted.mergeSort fun a b => sizeOf a.2.2 ≥ sizeOf b.2.2
    else sorted
  let sorted := if l.reversed then sorted.reverse else sorted
  let shown (entry : Octets × Location × Node) : Octets :=
    let sign := if l.long && kindLetter entry.2.2 = 'l' then ""
      else l.signOf files entry.2.1 entry.2.2
    (if l.quoted then quoteDouble entry.1 else entry.1) ++ sign
  if l.long then
    let width (number : Location × Node → Nat) : Nat :=
      (sorted.map fun entry => (Nat.toDigits 10 (number entry.2)).length).foldl max 1
    let countWidth := width fun entry => nameCount files entry.1 entry.2
    let sizeWidth := width fun entry => sizeOf entry.2
    for entry in sorted do
      say (Octets.line
        (l.longLine files countWidth sizeWidth entry.2.1 entry.2.2 (shown entry)))
  else if l.inLine then
    if !sorted.isEmpty then say (Octets.line (", ".intercalate (sorted.map shown)))
  else
    for entry in sorted do say (Octets.line (shown entry))

/-- The path of a name in a directory. The directory in which one works is not named. -/
def nested (path name : Octets) : Octets := if path = "." then name else joinPath path name

/-- Lists what is in a directory. The bound is on the depth. -/
def listDirectory (l : Listing) (titled : Bool) : Nat → Octets → Location → Job Unit
  | 0, _, _ => return
  | bound + 1, path, location => do
    let files ← files
    if titled then say (Octets.line (path ++ ":"))
    let named := (files.entries location).filterMap fun name =>
      let found := if l.follows then
          files.stat ("/".intercalate ("" :: location ++ [name]))
        else .error .notFound
      match found with
      | .ok (location, node) => some (Octets.ofText name, location, node)
      | .error _ =>
        (files.node? (location ++ [name])).map fun node =>
          (Octets.ofText name, location ++ [name], node)
    let isIgnored (name : Octets) : Bool := l.ignored.any fun shape =>
      Glob.fits (Glob.ofText (shape.toList.map (·, false))) name.toList
    let visible := named.filter fun (entry : Octets × Location × Node) =>
      (l.hidden.isSome || entry.1.toList.head? ≠ some '.') && !isIgnored entry.1
    let always : List (Octets × Location × Node) :=
      if l.hidden = some true then
        [(".", location, .directory), ("..", location.dropLast, .directory)]
      else []
    let all := always ++ visible
    if l.follows && (l.long || l.recursive || l.signs.isSome || l.byTime || l.bySize) then
      flush
      for entry in visible do
        if let .link _ := entry.2.2 then
          complain ("cannot access " ++ quoteAlways (nested path entry.1) ++ ": "
            ++ reason .notFound)
          mark 1
    if l.long then
      let room := all.map fun (entry : Octets × Location × Node) => roomOf entry.2.2
      say ("total " ++ (room.foldl (· + ·) 0).repr ++ "\n")
    l.list all
    if l.recursive then
      for entry in visible do
        if isDirectory entry.2.2 then
          say "\n"
          listDirectory l true bound (joinPath path entry.1) entry.2.1

end Listing

/-- Lists files. -/
def ls : Job Unit := do
  let a ← arguments
    ([⟨'a', "all", .none, false⟩, ⟨'A', "almost-all", .none, false⟩,
      ⟨'d', "directory", .none, false⟩, ⟨'F', "classify", .possible, true⟩,
      ⟨'c', "color", .possible, true⟩, ⟨'r', "reverse", .none, false⟩,
      ⟨'R', "recursive", .none, false⟩, ⟨'w', "width", .needed, false⟩,
      ⟨'I', "ignore", .needed, false⟩, ⟨'D', "hide", .needed, true⟩]
      ++ "1bBcCfFgGhHikLlmnNopqQsStuUvxXZ".toList.map fun c => ⟨c, "", .none, false⟩) 2
  let l : Listing :=
    { hidden := (a.lastOf? ['a', 'A']).map (· = 'a'), signs := a.lastOf? ['F', 'p']
      reversed := a.has 'r', byTime := a.has 't', bySize := a.has 'S', recursive := a.has 'R'
      long := ['l', 'g', 'n', 'o'].any a.has, owners := !a.has 'g'
      groups := !a.has 'o' && !a.has 'G', asNumbers := a.has 'n', quoted := a.has 'Q'
      ignored := a.all 'I' ++ (if a.has 'a' || a.has 'A' then [] else a.all 'D')
      inLine := a.has 'm', follows := a.has 'L' }
  let leads := a.has 'L' || a.has 'H' || !(l.long || a.has 'd' || l.signs = some 'F')
  let mut found : List (Octets × Location × Node) := []
  for path in if a.operands.isEmpty then ["."] else a.operands do
    let found? ← if leads then stat path else statName path
    let named ← statName path
    let isOther : Bool := match found? with
      | .ok (_, .directory) => false
      | _ => !a.has 'L' && !a.has 'H'
    match if isOther then named else found? with
    | .error e =>
      complain ("cannot access " ++ quoteAlways path ++ ": " ++ reason e)
      mark 2
    | .ok (location, node) => found := found ++ [(path, location, node)]
  let isListed (entry : Octets × Location × Node) : Bool := isDirectory entry.2.2 && !a.has 'd'
  let plain := found.filter fun entry => !isListed entry
  let directories := (found.filter isListed).mergeSort fun x y => x.1 ≤ y.1
  let directories := if l.reversed then directories.reverse else directories
  l.list plain
  let titled := a.operands.length > 1 || l.recursive
  let mut isFirst := plain.isEmpty
  for entry in directories do
    if !isFirst then say "\n"
    isFirst := false
    l.listDirectory titled 1000 entry.1 entry.2.1

end Modlet.Tool
