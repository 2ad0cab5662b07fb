import Modlet.Host.Tool.Files

/-!
# Files in other places

These programs copy and move files, or give them more names. Each goes on with its other operands if
one of them cannot be worked on.
-/

namespace Modlet.Tool

open Job

/-- Which links are followed to what is copied. -/
inductive Follows
  | none
  | operands
  | all
deriving DecidableEq

/-- What is made in the place of a copy. -/
inductive Making
  | copy
  /-- Another name for the same. -/
  | name
  /-- A link to the path. -/
  | link
deriving DecidableEq

/-- How files are copied or moved. -/
structure Transfer where
  /-- Files are moved. -/
  moves : Bool
  /-- Directories are copied with all in them. -/
  recursive : Bool := false
  /-- What is there stays. -/
  keeps : Bool := false
  /-- What is there stays unless whoever works here agrees. -/
  asks : Bool := false
  /-- What is there is taken away if it is in the way. -/
  forces : Bool := false
  /-- What is done is told. -/
  tells : Bool := false
  /-- Which links are followed. -/
  follows : Follows := .all
  /-- What is made. -/
  making : Making := .copy
  /-- Copies keep all rights. -/
  preserves : Bool := false

namespace Transfer

/-- Whether something may not be written in the place of what is there. -/
def refused (t : Transfer) (isThere : Bool) (target : Octets) : Job Bool := do
  if isThere && t.asks then return !(← agree ("overwrite " ++ quoteAlways target ++ "? "))
  else return false

/-- Tells that something was copied. -/
def told (t : Transfer) (source target : Octets) : Job Unit := do
  if t.tells then say (quoteAlways source ++ " -> " ++ quoteAlways target ++ "\n")

/-- Tells that two paths lead to one file. -/
def same (source target : Octets) : Job Unit :=
  warn (quoteAlways source ++ " and " ++ quoteAlways target ++ " are the same file")

/-- Makes a link or another name at a path. -/
def makeNamed (t : Transfer) (source target : Octets) (location : Location)
    (path? : Option String) : Job Unit := do
  let there ← statName target
  match there with
  | .ok (_, .directory) =>
    warn ("cannot overwrite directory " ++ quoteAlways target ++ " with non-directory")
  | _ =>
    let isSame : Bool := match there with
      | .ok (other, _) => other = location
      | .error _ => false
    if isSame && path?.isSome then same source target
    else if there.isOk && t.keeps then pure ()
    else if ← t.refused there.isOk target then mark 1
    else
      let replaces := t.making = .copy || t.forces
      match there with
      | .ok (other, _) => if replaces then removeAt other
      | .error _ => pure ()
      let made ← match path? with
        | some path => changeFiles (·.makeLink (Octets.toText target) path)
        | none => changeFiles (·.makeName location (Octets.toText target))
      match made with
      | .ok () => t.told source target
      | .error e =>
        let kind := if path?.isSome then "symbolic link " else "hard link "
        warn ("cannot create " ++ kind ++ quoteAlways target ++ " to " ++ quoteAlways source ++ ": "
          ++ reason e)

/-- Gives a copy the rights of what it is a copy of, without those that are held back. -/
def copyRights (t : Transfer) (source : Location) (target : Octets) : Job Unit := do
  if let .ok (other, _) := ← stat target then
    let rights := (← files).rightsAt source
    let mask := (← get).call.mask
    setRights other (if t.preserves then rights else Rights.without (rights &&& 0o777) mask)

/-- Copies the content of a file to a path. -/
def copyFile (t : Transfer) (source target : Octets) (location : Location) : Job Unit := do
  let there ← stat target
  match there with
  | .ok (_, .directory) =>
    warn ("cannot overwrite directory " ++ quoteAlways target ++ " with non-directory")
  | .error (.system 20) =>
    warn ("cannot stat " ++ quoteAlways target ++ ": " ++ reason .notDirectory)
  | there =>
    let files ← files
    let isSame : Bool := match there with
      | .ok (other, _) => files.isSame location other
      | .error _ => false
    let isThere := there.isOk
    if isSame then same source target
    else if isThere && t.keeps then pure ()
    else if ← t.refused isThere target then mark 1
    else if !isThere && (← statName target).isOk then
      warn ("not writing through dangling symlink " ++ quoteAlways target)
    else
      t.told source target
      match ← readPath source with
      | .error e => warn ("error reading " ++ quoteAlways source ++ ": " ++ reason e)
      | .ok text =>
        match ← writePath target text with
        | .error e =>
          let e := if e = .isDirectory then IoError.notDirectory else e
          warn ("cannot create regular file " ++ quoteAlways target ++ ": " ++ reason e)
        | .ok () => if !isThere || t.preserves then t.copyRights location target

/-- Copies something to a path where it can be. The bound is on its depth. -/
def copyTree (t : Transfer) (isOperand : Bool) : Nat → Octets → Octets → Job Unit
  | 0, _, _ => return
  | bound + 1, source, target => do
    let leads := t.follows = .all || (t.follows = .operands && isOperand)
    match ← if leads then stat source else statName source with
    | .error e => warn ("cannot stat " ++ quoteAlways source ++ ": " ++ reason e)
    | .ok (location, .directory) =>
      if !t.recursive then
        warn ("-r not specified; omitting directory " ++ quoteAlways source)
      else
        let ready : Bool ← match ← stat target with
          | .ok (_, .directory) => pure true
          | .ok _ =>
            warn ("cannot overwrite non-directory " ++ quoteAlways target ++ " with directory "
              ++ quoteAlways source)
            pure false
          | .error .notFound =>
            match ← changeFiles (·.makeDirectory (Octets.toText target)) with
            | .ok () =>
              t.told source target
              t.copyRights location target
              pure true
            | .error e =>
              warn ("cannot create directory " ++ quoteAlways target ++ ": " ++ reason e)
              pure false
          | .error e =>
            warn ("cannot stat " ++ quoteAlways target ++ ": " ++ reason e)
            pure false
        if ready then
          for name in ← namesIn location do
            copyTree t false bound (joinPath source name) (joinPath target name)
    | .ok (location, node) =>
      match t.making, node with
      | .link, _ =>
        if source.toList.head? = some '/' || !target.toList.contains '/' then
          t.makeNamed source target location (some (Octets.toText source))
        else
          warn (quoteIfNeeded target
            ++ ": can make relative symbolic links only in current directory")
      | .name, _ => t.makeNamed source target location none
      | .copy, .link path => t.makeNamed source target location (some path)
      | .copy, _ => t.copyFile source target location

/-- Moves something to a path where it can be. -/
def move (t : Transfer) (source target : Octets) : Job Unit := do
  match ← statName source with
  | .error e => warn ("cannot stat " ++ quoteAlways source ++ ": " ++ reason e)
  | .ok (location, node) =>
    let refuse (e : IoError) : Job Unit :=
      let ways := quoteAlways source ++ " to " ++ quoteAlways target
      warn ("cannot move " ++ ways ++ ": " ++ reason e)
    let finish (other : Location) : Job Unit := do
      if t.tells then
        say ("renamed " ++ quoteAlways source ++ " -> " ++ quoteAlways target ++ "\n")
      let _ ← changeFiles fun files => .ok (files.move location other)
    match ← statName target with
    | .error .notFound =>
      match (← files).locateName (Octets.toText target) with
      | .error e => refuse e
      | .ok other =>
        if FileSystem.wantsDirectory target && !isDirectory node then refuse .notDirectory
        else if location.isPrefixOf other then
          warn ("cannot move " ++ quoteAlways source ++ " to a subdirectory of itself, "
            ++ quoteAlways target)
        else finish other
    | .error e => warn ("cannot stat " ++ quoteAlways target ++ ": " ++ reason e)
    | .ok (other, there) =>
      if other = location then same source target
      else if t.keeps then pure ()
      else if ← t.refused true target then mark 1
      else
        match isDirectory node, isDirectory there with
        | true, false =>
          warn ("cannot overwrite non-directory " ++ quoteAlways target ++ " with directory "
            ++ quoteAlways source)
        | false, true =>
          let leadsHere : Bool := match ← stat source with
            | .ok (location, _) => location = other
            | .error _ => false
          if leadsHere then same source target
          else warn ("cannot overwrite directory " ++ quoteAlways target ++ " with non-directory")
        | true, true =>
          if location.isPrefixOf other then
            warn ("cannot move " ++ quoteAlways source ++ " to a subdirectory of itself, "
              ++ quoteAlways target)
          else if ((← files).entries other).isEmpty then finish other
          else refuse .notEmpty
        | false, false =>
          match there with
          | .device _ =>
            let _ ← readPath source
            finish other
          | _ => if (← files).isSame location other then same source target else finish other

/-- Transfers something to a path. -/
def one (t : Transfer) (source target : Octets) : Job Unit := do
  if t.moves then t.move source target
  else
    match ← stat source, (← files).locate (Octets.toText target) with
    | .ok (location, .directory), .ok other =>
      if t.recursive && location.isPrefixOf other && (t.follows ≠ .none || (← isPlain source)) then
        if location = other then same source target
        else
          warn ("cannot copy a directory, " ++ quoteAlways source ++ ", into itself, "
            ++ quoteAlways target)
      else t.copyTree true 1000 source target
    | _, _ => t.copyTree true 1000 source target
where
  /-- Whether a path names no link. -/
  isPlain (path : Octets) : Job Bool := do
    match ← statName path with
    | .ok (_, .link _) => return false
    | _ => return true

/-- Transfers what arguments say. -/
def all (t : Transfer) (a : Arguments) : Job Unit := do
  let into (sources : List Octets) (directory : Octets) : Job Unit := do
    let mut made : List Octets := []
    for (source, n) in sources.zipIdx do
      let target := joinPath directory (lastName source)
      if !t.moves && (sources.take n).contains source && (← stat source).isOk then
        complain ("warning: source file " ++ quoteAlways source ++ " specified more than once")
      else if made.contains target && (← stat source).isOk then
        warn ("will not overwrite just-created " ++ quoteAlways target ++ " with "
          ++ quoteAlways source)
      else
        t.one source target
        if (← stat target).isOk then made := target :: made
  match a.last? 't', a.operands with
  | some directory, sources =>
    if sources.isEmpty then misuse 1 "missing file operand"
    match ← stat directory with
    | .ok (_, .directory) => into sources directory
    | .ok _ => fail 1 ("target directory " ++ quoteAlways directory ++ ": " ++ reason .notDirectory)
    | .error e => fail 1 ("target directory " ++ quoteAlways directory ++ ": " ++ reason e)
  | none, [] => misuse 1 "missing file operand"
  | none, [source] => misuse 1 ("missing destination file operand after " ++ quoteAlways source)
  | none, [source, target] =>
    if !a.has 'T' && (← isDirectoryAt target) then into [source] target
    else t.one source target
  | none, operands =>
    let target := operands.getLast?.getD ""
    if a.has 'T' then misuse 1 ("extra operand " ++ quoteAlways (operands[2]?.getD ""))
    match ← stat target with
    | .ok (_, .directory) => into operands.dropLast target
    | .ok _ => fail 1 ("target " ++ quoteAlways target ++ ": " ++ reason .notDirectory)
    | .error e => fail 1 ("target " ++ quoteAlways target ++ ": " ++ reason e)

end Transfer

/-- Copies files. -/
def cp : Job Unit := do
  let a ← arguments
    [⟨'a', "archive", .none, false⟩, ⟨'b', "", .none, false⟩, ⟨'d', "", .none, false⟩,
      ⟨'f', "force", .none, false⟩, ⟨'H', "", .none, false⟩, ⟨'i', "interactive", .none, false⟩,
      ⟨'l', "link", .none, false⟩, ⟨'L', "dereference", .none, false⟩,
      ⟨'n', "no-clobber", .none, false⟩, ⟨'P', "no-dereference", .none, false⟩,
      ⟨'p', "", .none, false⟩, ⟨'k', "preserve", .possible, true⟩, ⟨'r', "recursive", .none, false⟩,
      ⟨'R', "", .none, false⟩, ⟨'s', "symbolic-link", .none, false⟩,
      ⟨'t', "target-directory", .needed, false⟩, ⟨'T', "no-target-directory", .none, false⟩,
      ⟨'u', "update", .none, false⟩, ⟨'v', "verbose", .none, false⟩,
      ⟨'x', "one-file-system", .none, false⟩] 1
  let recursive := ['a', 'r', 'R'].any a.has
  let follows : Follows := match a.lastOf? ['H', 'L', 'P', 'd', 'a'] with
    | some 'H' => .operands
    | some 'L' => .all
    | some _ => .none
    | none => if recursive && !a.has 'l' then .none else .all
  let t : Transfer :=
    { moves := false, recursive, keeps := a.has 'n', asks := a.has 'i' && !a.has 'n'
      tells := a.has 'v', forces := a.has 'f', follows
      making := if a.has 's' then .link else if a.has 'l' then .name else .copy
      preserves := ['a', 'p', 'k'].any a.has }
  t.all a

/-- Moves files. -/
def mv : Job Unit := do
  let a ← arguments
    [⟨'b', "", .none, false⟩, ⟨'f', "force", .none, false⟩, ⟨'i', "interactive", .none, false⟩,
      ⟨'n', "no-clobber", .none, false⟩, ⟨'t', "target-directory", .needed, false⟩,
      ⟨'T', "no-target-directory", .none, false⟩, ⟨'u', "update", .none, false⟩,
      ⟨'v', "verbose", .none, false⟩] 1
  let t : Transfer :=
    { moves := true, keeps := a.lastOf? ['f', 'i', 'n'] = some 'n'
      asks := a.lastOf? ['f', 'i', 'n'] = some 'i', tells := a.has 'v' }
  t.all a

/-! ### Names -/

/-- The path that leads from a directory to a location. -/
def pathBetween (directory location : Location) : String :=
  let common := ((directory.zip location).takeWhile fun pair => pair.1 = pair.2).length
  let names := List.replicate (directory.length - common) ".." ++ location.drop common
  if names.isEmpty then "." else "/".intercalate names

/-- How files are given more names. -/
structure Naming where
  /-- Links are made, and else names for the same. -/
  links : Bool
  /-- What is there is taken away. -/
  forces : Bool
  /-- Links lead on from where they are. -/
  relative : Bool
  /-- Links to what gets a name are followed. -/
  follows : Bool
  /-- What is done is told. -/
  tells : Bool

namespace Naming

/-- Tells why a name cannot be given. -/
def refuse (n : Naming) (source target : Octets) (e : IoError) : Job Unit :=
  let what := if n.links then "symbolic link " else "hard link "
  let behind := if e = .alreadyThere then ""
    else if n.links then (if source = "" then " -> ''" else "")
    else " => " ++ quoteAlways source
  warn ("failed to create " ++ what ++ quoteAlways target ++ behind ++ ": " ++ reason e)

/-- Takes away what is at the path that is to be a name, if that is wanted. -/
def makeRoom (n : Naming) (source target : Octets) : Job Bool := do
  match ← statName target with
  | .error _ => return true
  | .ok (_, .directory) =>
    if n.forces then
      warn (quoteAlways target ++ ": cannot overwrite directory")
      return false
    else return true
  | .ok (location, _) =>
    if !n.forces then return true
    else
      let isSame : Bool := match ← stat source with
        | .ok (other, _) => other = location
        | .error _ => false
      if isSame then
        warn (quoteAlways source ++ " and " ++ quoteAlways target ++ " are the same file")
        return false
      else
        removeAt location
        return true

/-- Gives what a path leads to another name. -/
def one (n : Naming) (source target : Octets) : Job Unit := do
  let finish (arrow shown : Octets) (made : Except IoError Unit) : Job Unit := do
    match made with
    | .ok () =>
      if n.tells then say (quoteAlways target ++ arrow ++ quoteAlways shown ++ "\n")
    | .error e => n.refuse source target e
  if n.links then
    let files ← files
    let from_ := (files.locateName (Octets.toText target)).toOption.map List.dropLast
    let path := match n.relative, from_, (files.locate (Octets.toText source)).toOption with
      | true, some directory, some location => pathBetween directory location
      | _, _, _ => Octets.toText source
    if ← n.makeRoom source target then
      finish " -> " (Octets.ofText path)
        (← changeFiles (·.makeLink (Octets.toText target) path))
  else
    match ← if n.follows then stat source else statName source with
    | .error e => warn ("failed to access " ++ quoteAlways source ++ ": " ++ reason e)
    | .ok (_, .directory) =>
      warn (quoteIfNeeded source ++ ": hard link not allowed for directory")
    | .ok (location, _) =>
      if ← n.makeRoom source target then
        finish " => " source (← changeFiles (·.makeName location (Octets.toText target)))

end Naming

/-- Gives files other names, or makes links to them. -/
def ln : Job Unit := do
  let a ← arguments
    [⟨'b', "", .none, false⟩, ⟨'d', "directory", .none, false⟩, ⟨'F', "", .none, false⟩,
      ⟨'f', "force", .none, false⟩, ⟨'i', "interactive", .none, false⟩,
      ⟨'L', "logical", .none, false⟩, ⟨'n', "no-dereference", .none, false⟩,
      ⟨'P', "physical", .none, false⟩, ⟨'r', "relative", .none, false⟩,
      ⟨'s', "symbolic", .none, false⟩, ⟨'t', "target-directory", .needed, false⟩,
      ⟨'T', "no-target-directory", .none, false⟩, ⟨'v', "verbose", .none, false⟩] 1
  if a.has 'r' && !a.has 's' then fail 1 "cannot do --relative without --symbolic"
  let n : Naming :=
    { links := a.has 's', forces := a.has 'f', relative := a.has 'r'
      follows := a.lastOf? ['L', 'P'] = some 'L', tells := a.has 'v' }
  let into (sources : List Octets) (directory : Octets) : Job Unit := do
    let mut made : List Octets := []
    for source in sources do
      let target := joinPath directory (lastName source)
      if made.contains target then
        warn ("will not overwrite just-created " ++ quoteAlways target ++ " with "
          ++ quoteAlways source)
      else
        n.one source target
        made := target :: made
  match a.last? 't', a.operands with
  | _, [] => misuse 1 "missing file operand"
  | some directory, sources =>
    match ← stat directory with
    | .ok (_, .directory) => into sources directory
    | .ok _ => fail 1 ("target directory " ++ quoteAlways directory ++ ": " ++ reason .notDirectory)
    | .error e => fail 1 ("target directory " ++ quoteAlways directory ++ ": " ++ reason e)
  | none, [source] =>
    if a.has 'T' then misuse 1 ("missing destination file operand after " ++ quoteAlways source)
    else into [source] "."
  | none, operands =>
    let target := operands.getLast?.getD ""
    let sources := operands.dropLast
    if a.has 'T' && sources.length > 1 then
      misuse 1 ("extra operand " ++ quoteAlways (operands[2]?.getD ""))
    let found ← if a.has 'n' || a.has 'T' then statName target else stat target
    match found, sources with
    | .ok (_, .directory), [source] =>
      if a.has 'T' then n.one source target else into sources target
    | .ok (_, .directory), sources => into sources target
    | _, [source] => n.one source target
    | .ok _, _ => fail 1 ("target " ++ quoteAlways target ++ ": " ++ reason .notDirectory)
    | .error e, _ => fail 1 ("target " ++ quoteAlways target ++ ": " ++ reason e)

end Modlet.Tool
