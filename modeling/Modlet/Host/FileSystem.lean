import Modlet.Host.IoError
import Modlet.Text.Pieces

/-!
# A model of the files of a machine

A file system is a tree of directories with files in them, and a directory in which one works. A
path is followed from there, or from the top if it starts with a slash. What is on the way has to be
a directory, or a link that leads to one. Reading and writing fail as the operating system makes
them fail; whoever works with the files may do everything, so that rights say only what can be run.
-/

namespace Modlet

/-- The names that lead from the top of the tree to something in it. -/
abbrev Location := List String

/-- A device. -/
inductive Device
  /-- Takes everything and gives nothing. -/
  | null
  /-- Takes everything and gives zeros. -/
  | zero
  /-- Has no room for anything. -/
  | full
  /-- The terminal, which there is none of. -/
  | terminal
  /-- An open file of whoever uses the device, by its number. -/
  | stream (number : Nat)
deriving DecidableEq, Repr

/-- What can be at a location. -/
inductive Node
  | directory
  | file (content : ByteArray)
  /-- A program that can be run, by its name. -/
  | program (name : String)
  | device (device : Device)
  /-- A name for what another path leads to. -/
  | link (path : String)

/-- The rights with which something is made, before any are held back. -/
def Node.usualRights : Node → Nat
  | .directory | .program _ => 0o755
  | .file _ => 0o644
  | .device _ => 0o666
  | .link _ => 0o777

/-- The files of a machine. -/
structure FileSystem where
  /-- What is where; the top of the tree is always a directory. -/
  nodes : List (Location × Node)
  /-- The directory in which one works. -/
  here : Location
  /-- The rights of what has others than usual. -/
  rights : List (Location × Nat) := []
  /-- Locations that are names of one file. -/
  twins : List (List Location) := []
  /-- The rights that are held back from what is made. -/
  mask : Nat := 0o022

namespace FileSystem

/-- What is at a location. -/
def node? (fs : FileSystem) (location : Location) : Option Node :=
  if location = [] then some .directory else fs.nodes.lookup location

/-- The rights of what is at a location. -/
def rightsAt (fs : FileSystem) (location : Location) : Nat :=
  match fs.rights.lookup location, fs.node? location with
  | some rights, _ => rights
  | none, some node => node.usualRights
  | none, none => 0

/-- Whether what is at a location may be run. -/
def mayRun (fs : FileSystem) (location : Location) : Bool := fs.rightsAt location &&& 0o111 ≠ 0

/-- The locations that are names of the same file as one, which is among them. -/
def namesOf (fs : FileSystem) (location : Location) : List Location :=
  (fs.twins.find? (·.contains location)).getD [location]

/-- Whether there is a directory at a location. -/
def isDirectory (fs : FileSystem) (location : Location) : Bool :=
  match fs.node? location with
  | some .directory => true
  | _ => false

/-- Whether two locations are names of the same. -/
def isSame (fs : FileSystem) (first second : Location) : Bool := (fs.namesOf first).contains second

/-- The tree with something put at a location, in the place of what was there, and at all other
locations that are names of the same. -/
def put (fs : FileSystem) (location : Location) (node : Node) : FileSystem :=
  let all := fs.namesOf location
  { fs with nodes := all.map (·, node) ++ fs.nodes.filter fun entry => !all.contains entry.1 }

/-- The tree with other rights for what is at a location. -/
def setRights (fs : FileSystem) (location : Location) (rights : Nat) : FileSystem :=
  let all := fs.namesOf location
  { fs with
    rights := all.map (·, rights) ++ fs.rights.filter fun entry => !all.contains entry.1 }

/-- The tree with something made at a location where there was nothing, with the rights that `mask`
leaves it. -/
def make (fs : FileSystem) (location : Location) (node : Node) : FileSystem :=
  let most := match node with
    | .file _ => 0o666
    | _ => 0o777
  let made := fs.put location node
  if fs.mask = 0o022 then made else made.setRights location (most - (most &&& fs.mask))

/-- The tree without a location and all that is below it. -/
def remove (fs : FileSystem) (location : Location) : FileSystem :=
  let stays (other : Location) : Bool := !location.isPrefixOf other
  { fs with
    nodes := fs.nodes.filter fun entry => stays entry.1
    rights := fs.rights.filter fun entry => stays entry.1
    twins := fs.twins.map (·.filter stays) }

/-- The tree in which a file has one more name, at a location where there is nothing. -/
def addName (fs : FileSystem) (source target : Location) : FileSystem :=
  match fs.node? source with
  | none => fs
  | some node =>
    let all := fs.namesOf source
    let made := (fs.put target node).setRights target (fs.rightsAt source)
    { made with twins := (target :: all) :: fs.twins.filter fun other => other ≠ all }

/-- The number of bytes that a name may have. -/
def longestName : Nat := 255

/-- The number of bytes that a path may have. -/
def longestPath : Nat := 4095

/-- The names of a path, from one slash to the next. -/
def names (path : String) : List String :=
  ((Text.pieces '/' path.toList).filter (· ≠ [])).map String.ofList

/-- Whether a path says that it leads to a directory. -/
def wantsDirectory (path : String) : Bool := path.toList.getLast? = some '/'

/-- Follows names from a location. Each is looked up in a directory; whether there is something at
the end is left open. Links lead on to wherever `lead` says, but with `stays` a link at the end is
what the names lead to. -/
def walk (fs : FileSystem) (stays : Bool)
    (lead : Location → List String → Except IoError Location) (location : Location) :
    List String → Except IoError Location
  | [] => .ok location
  | name :: names =>
    match fs.node? location with
    | none => .error .notFound
    | some .directory =>
      if name = "." then fs.walk stays lead location names
      else if name = ".." then fs.walk stays lead location.dropLast names
      else if name.utf8ByteSize > longestName then .error .nameTooLong
      else
        match fs.node? (location ++ [name]) with
        | some (.link path) =>
          if names.isEmpty && stays then .ok (location ++ [name])
          else
            let start := if path.toList.head? = some '/' then [] else location
            lead start (FileSystem.names path ++ names)
        | _ => fs.walk stays lead (location ++ [name]) names
    | some _ => .error .notDirectory

/-- Follows names from a location, through no more than some links. -/
def follow (fs : FileSystem) (stays : Bool) :
    Nat → Location → List String → Except IoError Location
  | 0, location, names => fs.walk stays (fun _ _ => .error tooManyLinks) location names
  | links + 1, location, names => fs.walk stays (fs.follow stays links) location names
where
  /-- What is wrong if links lead to links without end. -/
  tooManyLinks : IoError := .system 40

/-- The number of links that a path may lead through. -/
def mostLinks : Nat := 40

/-- The location that a path leads to. With `stays` a link at its end is not followed. -/
def find (fs : FileSystem) (stays : Bool) (path : String) : Except IoError Location :=
  if path = "" then .error .notFound
  else if '\x00' ∈ path.toList then .error .nulInPath
  else if path.utf8ByteSize > longestPath then .error .nameTooLong
  else
    fs.follow (stays && !wantsDirectory path) mostLinks
      (if path.toList.head? = some '/' then [] else fs.here) (names path)

/-- The location that a path leads to by `find`, with a link at its end followed. -/
def locate (fs : FileSystem) (path : String) : Except IoError Location := fs.find false path

/-- The location that a path names, which may be one of a link. -/
def locateName (fs : FileSystem) (path : String) : Except IoError Location := fs.find true path

/-- The number of zeros that are read off a device that gives them without end. -/
def zeroCount : Nat := 65536

/-- What is read off a device. -/
def Device.content : Device → Except IoError ByteArray
  | .null | .stream _ => .ok .empty
  | .zero | .full => .ok ⟨Array.replicate zeroCount 0⟩
  | .terminal => .error .noDevice

/-- The content of the file that a path leads to by `locate`. -/
def read (fs : FileSystem) (path : String) : Except IoError ByteArray := do
  let location ← fs.locate path
  match fs.node? location with
  | none => .error .notFound
  | some .directory => .error .isDirectory
  | some node =>
    if wantsDirectory path then .error .notDirectory
    else
      match node with
      | .file content => .ok content
      | .device device => Device.content device
      | _ => .ok .empty

/-- The device that a path leads to, if it leads to one. -/
def deviceAt? (fs : FileSystem) (path : String) : Option Device :=
  match fs.locate path with
  | .ok location =>
    match fs.node? location with
    | some (.device device) => if wantsDirectory path then none else some device
    | _ => none
  | .error _ => none

/-- The tree after writing the file that a path leads to, which is made if there is none. -/
def write (fs : FileSystem) (path : String) (content : ByteArray) :
    Except IoError FileSystem := do
  let location ← fs.locate path
  if wantsDirectory path then .error .isDirectory
  else
    match fs.node? location with
    | some .directory => .error .isDirectory
    | some (.device .full) => if content.isEmpty then .ok fs else .error .noRoom
    | some (.device .terminal) => .error .noDevice
    | some (.device _) => .ok fs
    | some _ => .ok (fs.put location (.file content))
    | none => .ok (fs.make location (.file content))

/-- Where a path leads, and what is there. With `stays` that may be a link. -/
def look (fs : FileSystem) (stays : Bool) (path : String) : Except IoError (Location × Node) := do
  let location ← fs.find stays path
  match fs.node? location with
  | none => .error .notFound
  | some .directory => .ok (location, .directory)
  | some node => if wantsDirectory path then .error .notDirectory else .ok (location, node)

/-- Where a path leads, and what is there. -/
def stat (fs : FileSystem) (path : String) : Except IoError (Location × Node) := fs.look false path

/-- What a path names, and where that is. -/
def statName (fs : FileSystem) (path : String) : Except IoError (Location × Node) :=
  fs.look true path

/-- The names in a directory, in order. -/
def entries (fs : FileSystem) (location : Location) : List String :=
  (fs.nodes.filterMap fun entry =>
    match entry.1.getLast? with
    | some name => if entry.1.dropLast = location then some name else none
    | none => none).mergeSort (· ≤ ·)

/-- The tree with a new directory where a path leads. -/
def makeDirectory (fs : FileSystem) (path : String) : Except IoError FileSystem := do
  let bare := (path.toList.reverse.dropWhile (· = '/')).reverse
  let location ← fs.locateName (if bare = [] then path else String.ofList bare)
  if (fs.node? location).isSome then .error .alreadyThere else .ok (fs.make location .directory)

/-- The tree without the file that a path leads to. -/
def removeFile (fs : FileSystem) (path : String) : Except IoError FileSystem := do
  let location ← fs.locateName path
  match fs.node? location with
  | none => .error .notFound
  | some .directory => .error .isDirectory
  | some _ => if wantsDirectory path then .error .notDirectory else .ok (fs.remove location)

/-- The tree without the empty directory that a path leads to. -/
def removeDirectory (fs : FileSystem) (path : String) : Except IoError FileSystem := do
  let bare := (path.toList.reverse.dropWhile (· = '/')).reverse
  let location ← fs.locateName (if bare = [] then path else String.ofList bare)
  match fs.node? location with
  | none => .error .notFound
  | some .directory =>
    if (fs.entries location).isEmpty then .ok (fs.remove location) else .error .notEmpty
  | some _ => .error .notDirectory

/-- The tree with everything at and below a location moved to another. -/
def move (fs : FileSystem) (source target : Location) : FileSystem :=
  let moved (location : Location) : Location :=
    if source.isPrefixOf location then target ++ location.drop source.length else location
  let cleared := fs.remove target
  { cleared with
    nodes := cleared.nodes.map fun entry => (moved entry.1, entry.2)
    rights := cleared.rights.map fun entry => (moved entry.1, entry.2)
    twins := cleared.twins.map (·.map moved) }

/-- The tree with a link where a path leads, where there is nothing. -/
def makeLink (fs : FileSystem) (path target : String) : Except IoError FileSystem := do
  let location ← fs.locateName path
  if (fs.node? location).isSome then .error .alreadyThere
  else if wantsDirectory path then .error .notFound
  else if target = "" then .error .notFound
  else .ok (fs.put location (.link target))

/-- The tree in which what is at a location has one more name, which a path tells. -/
def makeName (fs : FileSystem) (source : Location) (path : String) : Except IoError FileSystem := do
  let location ← fs.locateName path
  if (fs.node? location).isSome then .error .alreadyThere
  else if wantsDirectory path then .error .notFound
  else .ok (fs.addName source location)

/-- The tree with directories at a location and on the way to it, as far as there is nothing. -/
def putDirectories (fs : FileSystem) (location : Location) : FileSystem :=
  (List.range (location.length + 1)).foldl
    (fun fs n =>
      match fs.node? (location.take n) with
      | some _ => fs
      | none => fs.put (location.take n) .directory) fs

/-- The directory for files that are needed for a short while only. -/
def temporary : Location := ["tmp"]

/-- The directories in which programs are. -/
def programDirectories : List Location := [["usr", "bin"], ["bin"]]

/-- A path with a leading slash that leads to a location. -/
def absolutePath (location : Location) : String := "/" ++ "/".intercalate location

/-- The directory in which the build works. -/
def working : Location := ["work"]

/-- The directories that every machine has. -/
def usualDirectories : List Location :=
  [working, temporary, ["bin"], ["boot"], ["dev"], ["dev", "fd"], ["etc"], ["home"], ["lib"],
    ["lib64"], ["media"], ["mnt"], ["opt"], ["proc"], ["proc", "self"], ["proc", "self", "fd"],
    ["root"], ["run"], ["sbin"], ["srv"], ["sys"], ["usr"], ["usr", "bin"], ["usr", "include"],
    ["usr", "lib"], ["usr", "local"], ["usr", "local", "bin"], ["usr", "local", "lib"],
    ["usr", "sbin"], ["usr", "share"], ["var"], ["var", "log"], ["var", "tmp"]]

/-- The devices that every machine has. -/
def usualDevices : List (Location × Device) :=
  [(["dev", "null"], Device.null), (["dev", "zero"], Device.zero), (["dev", "full"], Device.full),
    (["dev", "tty"], Device.terminal), (["dev", "stdin"], Device.stream 0),
    (["dev", "stdout"], Device.stream 1), (["dev", "stderr"], Device.stream 2)]
    ++ (List.range 10).flatMap fun n =>
      [(["dev", "fd", n.repr], .stream n), (["proc", "self", "fd", n.repr], .stream n)]

/-- The files that every machine has. -/
def usualFiles : List (Location × String) :=
  [(["etc", "passwd"], "root:x:0:0:root:/root:/bin/bash\n"), (["etc", "group"], "root:x:0:\n"),
    (["etc", "hosts"], "127.0.0.1\tlocalhost\n"), (["etc", "shells"], "/bin/sh\n")]

/-- A machine with some programs, the given files in its working directory, and what every machine
has. -/
def ofFiles (programs : List String) (files : List (String × ByteArray)) : FileSystem :=
  let equipped : FileSystem :=
    { nodes :=
        usualDirectories.map (·, Node.directory)
          ++ usualDevices.map (fun (location, device) => (location, Node.device device))
          ++ usualFiles.map (fun (location, text) => (location, Node.file text.toUTF8))
          ++ programDirectories.flatMap fun directory =>
            programs.map fun name => (directory ++ [name], Node.program name)
      here := working, rights := [(temporary, 0o1777)] }
  files.foldl
    (fun fs (path, content) =>
      let location := fs.here ++ names path
      (fs.putDirectories location.dropLast).put location (.file content))
    equipped

/-- The files below the working directory, with the paths that lead to them from there. -/
def files (fs : FileSystem) : List (String × ByteArray) :=
  fs.nodes.filterMap fun entry =>
    let path := "/".intercalate (entry.1.drop fs.here.length)
    if fs.here.isPrefixOf entry.1 then
      match entry.2 with
      | .file content => some (path, content)
      | .link _ => (fs.read path).toOption.map (path, ·)
      | _ => none
    else none

end FileSystem

end Modlet
