import Modlet.Host.Rights
import Modlet.Host.Tool.Basic

/-!
# Programs that work on files

These programs make and remove files and directories, and say what may be done with them. Each goes
on with its other operands if one of them cannot be worked on.
-/

namespace Modlet.Tool

open Job

/-- The last name of a path; a slash for the top. -/
def lastName (path : Octets) : Octets :=
  match (FileSystem.names path).getLast? with
  | some name => name
  | none => if path = "" then "" else "/"

/-- A path that goes on with a name. -/
def joinPath (directory name : Octets) : Octets :=
  if directory.toList.getLast? = some '/' then directory ++ name else directory ++ "/" ++ name

/-- Where a path leads, and what is there. -/
def stat (path : Octets) : Job (Except IoError (Location × Node)) := do
  return (← files).stat (Octets.toText path)

/-- What a path names, and where that is. -/
def statName (path : Octets) : Job (Except IoError (Location × Node)) := do
  return (← files).statName (Octets.toText path)

/-- Gives what is at a location other rights. -/
def setRights (location : Location) (rights : Nat) : Job Unit := do
  let _ ← changeFiles fun files => .ok (files.setRights location rights)

/-- Takes what is at a location away. -/
def removeAt (location : Location) : Job Unit := do
  let _ ← changeFiles fun files => .ok (files.remove location)

/-- Whether there is a directory at a path. -/
def isDirectoryAt (path : Octets) : Job Bool := do
  match ← stat path with
  | .ok (_, .directory) => return true
  | _ => return false

/-- Whether something is a directory. -/
def isDirectory : Node → Bool
  | .directory => true
  | _ => false

/-- The names in a directory, in order. -/
def namesIn (location : Location) : Job (List Octets) := do
  return ((← files).entries location).map Octets.ofText

/-! ### Making -/

/-- Makes directories on the way to one and the directory itself, as far as there are none. What is
done can be told, with the given verb. -/
def makeParentsAs (verb : Octets) (tells : Bool) (path : Octets) : Job Unit := do
  let isTop := path.toList.head? = some '/'
  let names := FileSystem.names path
  let fronts := (List.range names.length).map fun n =>
    (if isTop then "/" else "") ++ "/".intercalate (names.take (n + 1))
  let rec go : List Octets → Job Unit
    | [] => return
    | front :: others => do
      let shown := if others.isEmpty then path else front
      match ← stat front with
      | .ok (_, .directory) => go others
      | .ok _ =>
        warn ("cannot create directory " ++ quoteAlways shown ++ ": "
          ++ reason (if others.isEmpty then .alreadyThere else .notDirectory))
      | .error _ =>
        match ← changeFiles (·.makeDirectory (Octets.toText front)) with
        | .ok () =>
          if tells then
            say ((← get).call.name ++ ": " ++ verb ++ " directory " ++ quoteAlways shown ++ "\n")
          go others
        | .error e => warn ("cannot create directory " ++ quoteAlways shown ++ ": " ++ reason e)
  if path = "" then warn ("cannot create directory '': " ++ reason .notFound)
  else go fronts

/-- Makes a directory and those on the way to it. -/
def makeParents (tells : Bool) (path : Octets) : Job Unit := makeParentsAs "created" tells path

/-- Makes directories. -/
def mkdir : Job Unit := do
  let a ← arguments
    [⟨'m', "mode", .needed, false⟩, ⟨'p', "parents", .none, false⟩,
      ⟨'v', "verbose", .none, false⟩] 1
  if a.operands.isEmpty then misuse 1 "missing operand"
  let changes ← match a.last? 'm' with
    | none => pure []
    | some mode =>
      match Rights.changesOf? mode.toList with
      | some changes => pure changes
      | none => fail 1 ("invalid mode " ++ quote mode)
  let mask := (← get).call.mask
  let setMode (path : Octets) : Job Unit := do
    if !changes.isEmpty then
      if let .ok (location, _) := ← stat path then
        setRights location (Rights.applyAll mask true 0o777 changes)
  for path in a.operands do
    if a.has 'p' then
      let isNew := !(← stat path).isOk
      makeParents (a.has 'v') path
      if isNew then setMode path
    else
      match ← changeFiles (·.makeDirectory (Octets.toText path)) with
      | .ok () =>
        setMode path
        if a.has 'v' then
          say ((← get).call.name ++ ": created directory " ++ quoteAlways path ++ "\n")
      | .error e => warn ("cannot create directory " ++ quoteAlways path ++ ": " ++ reason e)

/-- Makes files that are not there. -/
def touch : Job Unit := do
  let a ← arguments
    [⟨'a', "", .none, false⟩, ⟨'c', "no-create", .none, false⟩, ⟨'d', "date", .needed, false⟩,
      ⟨'f', "", .none, false⟩, ⟨'h', "no-dereference", .none, false⟩, ⟨'m', "", .none, false⟩,
      ⟨'r', "reference", .needed, false⟩, ⟨'t', "", .needed, false⟩] 1
  if let some name := a.last? 'r' then
    if let .error e := ← stat name then
      fail 1 ("failed to get attributes of " ++ quoteAlways name ++ ": " ++ reason e)
  if a.operands.isEmpty then misuse 1 "missing file operand"
  for path in a.operands do
    match ← stat path with
    | .ok (location, node) =>
      modify fun w =>
        match node with
        | .file _ =>
          { w with machine := { w.machine with files := w.machine.files.put location node } }
        | _ => w
    | .error e =>
      if a.has 'c' && e = .notFound then pure ()
      else
        match ← changeFiles (·.write (Octets.toText path) .empty) with
        | .ok () => pure ()
        | .error .isDirectory => warn ("setting times of " ++ quoteAlways path ++ ": " ++ reason e)
        | .error e => warn ("cannot touch " ++ quoteAlways path ++ ": " ++ reason e)

/-! ### Removing -/

/-- Removes empty directories. -/
def rmdir : Job Unit := do
  let a ← arguments
    [⟨'p', "parents", .none, false⟩, ⟨'v', "verbose", .none, false⟩,
      ⟨'i', "ignore-fail-on-non-empty", .none, true⟩] 1
  if a.operands.isEmpty then misuse 1 "missing operand"
  for path in a.operands do
    let isTop := path.toList.head? = some '/'
    let names := FileSystem.names path
    let fronts := (List.range names.length).reverse.map fun n =>
      if n + 1 = names.length then path
      else (if isTop then "/" else "") ++ "/".intercalate (names.take (n + 1))
    let rec go (isFirst : Bool) : List Octets → Job Unit
      | [] => return
      | front :: others => do
        if a.has 'v' then
          say ((← get).call.name ++ ": removing directory, " ++ quoteAlways front ++ "\n")
        let bare := String.ofList (front.toList.reverse.dropWhile (· = '/')).reverse
        let throughLink : Bool := match ← statName bare, ← stat bare with
          | .ok (_, .link _), .ok (_, .directory) => bare ≠ front
          | .ok (_, .link _), .error _ => bare ≠ front
          | _, _ => false
        let result ←
          if lastName front = "." then pure (.error (.system 22))
          else changeFiles (·.removeDirectory (Octets.toText front))
        match result with
        | .ok () => if a.has 'p' then go false others
        | .error e =>
          if throughLink then
            warn ("failed to remove " ++ quoteAlways front ++ ": Symbolic link not followed")
          else if e = .notEmpty && a.has 'i' then pure ()
          else
            let what := if isFirst then "failed to remove " else "failed to remove directory "
            warn (what ++ quoteAlways front ++ ": " ++ reason e)
    go true (if path = "" then [""] else fronts)

/-- Removes what is at a path, with all below it. The bound is on its depth. -/
def removeTree (tells : Bool) : Nat → Octets → Job Unit
  | 0, _ => return
  | bound + 1, path => do
    match ← statName path with
    | .error e => warn ("cannot remove " ++ quoteAlways path ++ ": " ++ reason e)
    | .ok (location, .directory) =>
      for name in ← namesIn location do removeTree tells bound (joinPath path name)
      match ← changeFiles (·.removeDirectory (Octets.toText path)) with
      | .ok () => if tells then say ("removed directory " ++ quoteAlways path ++ "\n")
      | .error e => warn ("cannot remove " ++ quoteAlways path ++ ": " ++ reason e)
    | .ok _ =>
      match ← changeFiles (·.removeFile (Octets.toText path)) with
      | .ok () => if tells then say ("removed " ++ quoteAlways path ++ "\n")
      | .error e => warn ("cannot remove " ++ quoteAlways path ++ ": " ++ reason e)

/-- Asks something, and tells whether the answer is a yes. -/
def agree (question : Octets) : Job Bool := do
  let name := (← get).call.name
  let _ ← write 2 (name ++ ": " ++ question)
  match (← get).call.streams.lookup 0 with
  | none => return false
  | some number =>
    let answer ← act (·.readLine number)
    return answer.toList.head? = some 'y' || answer.toList.head? = some 'Y'

/-- Removes files. -/
def rm : Job Unit := do
  let a ← arguments
    [⟨'d', "dir", .none, false⟩, ⟨'f', "force", .none, false⟩, ⟨'i', "", .none, false⟩,
      ⟨'I', "", .none, false⟩, ⟨'r', "recursive", .none, false⟩, ⟨'R', "", .none, false⟩,
      ⟨'v', "verbose", .none, false⟩] 1
  if a.operands.isEmpty && !a.has 'f' then misuse 1 "missing operand"
  let recursive := a.has 'r' || a.has 'R'
  let asks := a.lastOf? ['f', 'i'] = some 'i'
  for path in a.operands do
    match ← statName path with
    | .error e =>
      if a.has 'f' && (e = .notFound || e = .notDirectory) then pure ()
      else warn ("cannot remove " ++ quoteAlways path ++ ": " ++ reason e)
    | .ok (location, .directory) =>
      if recursive || a.has 'd' then
        let last := (FileSystem.names path).getLast?
        if last = some "." || last = some ".." then
          warn ("refusing to remove '.' or '..' directory: skipping " ++ quoteAlways path)
        else if location = [] then
          warn "it is dangerous to operate recursively on '/'"
          complain "use --no-preserve-root to override this failsafe"
        else if recursive then removeTree (a.has 'v') 1000 path
        else
          match ← changeFiles (·.removeDirectory (Octets.toText path)) with
          | .ok () => if a.has 'v' then say ("removed directory " ++ quoteAlways path ++ "\n")
          | .error e => warn ("cannot remove " ++ quoteAlways path ++ ": " ++ reason e)
      else warn ("cannot remove " ++ quoteAlways path ++ ": " ++ reason .isDirectory)
    | .ok (_, node) =>
      let kind : Octets := match node with
        | .link _ => "symbolic link"
        | .device _ => "character special file"
        | .file content => if content.isEmpty then "regular empty file" else "regular file"
        | _ => "regular file"
      let wanted ←
        if asks then agree ("remove " ++ kind ++ " " ++ quoteAlways path ++ "? ") else pure true
      if wanted then removeTree (a.has 'v') 1 path

/-! ### Rights -/

/-- Rights as digits of base eight and in letters. -/
def rightsText (rights : Nat) : Octets :=
  String.ofList (Fractional.padFront 4 '0' (Nat.toDigits 8 rights)) ++ " ("
    ++ Rights.letterText rights ++ ")"

/-- Changes the rights of what is at a location, and below it if `deep`. The bound is on the
depth. -/
def changeRights (changes : List Rights.Change) (deep : Bool) (tells : Option Char) :
    Nat → Octets → Location → Node → Job Unit
  | 0, _, _, _ => return
  | bound + 1, path, location, node => do
    let before := (← files).rightsAt location
    let after := Rights.applyAll (← get).call.mask (isDirectory node) before changes
    if after ≠ before then setRights location after
    let shown := "mode of " ++ quoteAlways path
    if after = before then
      if tells = some 'v' then say (shown ++ " retained as " ++ rightsText before ++ "\n")
    else if tells.isSome then
      say (shown ++ " changed from " ++ rightsText before ++ " to " ++ rightsText after ++ "\n")
    if deep && isDirectory node then
      for name in ← namesIn location do
        let below := location ++ [Octets.toText name]
        match (← files).node? below with
        | some (.link _) | none => pure ()
        | some node => changeRights changes true tells bound (joinPath path name) below node

/-- Changes what may be done with files. -/
def chmod : Job Unit := do
  let args := (← get).call.args
  -- A mode may look like options.
  let isModeOption (arg : Octets) : Bool := match arg.toList with
    | '-' :: c :: _ => "rwxXstugoa,+=01234567".toList.contains c
    | _ => false
  let front := args.takeWhile (· ≠ "--")
  let modes := front.filter isModeOption
  let others := (front.filter fun arg => !isModeOption arg) ++ args.drop front.length
  modify fun w => { w with call := { w.call with args := others } }
  let a ← arguments
    [⟨'c', "changes", .none, false⟩, ⟨'f', "silent", .none, false⟩, ⟨'f', "quiet", .none, true⟩,
      ⟨'r', "reference", .needed, true⟩, ⟨'R', "recursive", .none, false⟩,
      ⟨'v', "verbose", .none, false⟩] 1
  let given := if a.has 'r' then ["0"]
    else if modes.isEmpty then a.operands.take 1 else [",".intercalate modes]
  let paths := if modes.isEmpty && !a.has 'r' then a.operands.drop 1 else a.operands
  match given, paths with
  | [], _ => misuse 1 "missing operand"
  | mode :: _, [] =>
    if a.has 'r' then misuse 1 "missing operand"
    else misuse 1 ("missing operand after " ++ quoteAlways mode)
  | mode :: _, paths =>
    let changes ← match a.last? 'r' with
      | some name => do
        match ← stat name with
        | .error e =>
          fail 1 ("failed to get attributes of " ++ quoteAlways name ++ ": " ++ reason e)
        | .ok (location, _) =>
          let digits := Nat.toDigits 8 ((← files).rightsAt location)
          pure ((Rights.changesOf? digits).getD [])
      | none =>
        match Rights.changesOf? mode.toList with
        | some changes => pure changes
        | none => misuse 1 ("invalid mode: " ++ quote mode)
    for path in paths do
      match ← stat path, ← statName path with
      | .ok (location, node), _ =>
        changeRights changes (a.has 'R') (a.lastOf? ['c', 'v']) 1000 path location node
      | .error e, named =>
        if a.lastOf? ['c', 'v'] = some 'v' then say (quoteAlways path ++ " could not be accessed\n")
        if a.has 'f' then mark 1
        else if named.isOk && e = .notFound then
          warn ("cannot operate on dangling symlink " ++ quoteAlways path)
        else warn ("cannot access " ++ quoteAlways path ++ ": " ++ reason e)

end Modlet.Tool
