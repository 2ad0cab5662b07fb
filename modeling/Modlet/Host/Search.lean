import Modlet.Host.FileSystem
import Modlet.Text.Octets

/-!
# Looking for programs

A program is looked for where its path leads, or by its name in the directories of a list. A file
that may not be run is passed over, but if nothing better is found, it is the reason for the
failure.
-/

namespace Modlet.Search

/-- The directories with programs, if nothing else is said. -/
def usualPath : Octets := "/usr/local/sbin:/usr/local/bin:/usr/sbin:/usr/bin:/sbin:/bin"

/-- The directories of a list. -/
def directories (path : Octets) : List Octets :=
  (Text.pieces ':' path.toList).map String.ofList

/-- What is at a path that may be run. -/
def at? (files : FileSystem) (path : Octets) : Except IoError (Location × Node) := do
  let text := Octets.toText path
  let location ← files.locate text
  match files.node? location with
  | none => .error .notFound
  | some .directory => .error .denied
  | some node =>
    if FileSystem.wantsDirectory text then .error .notDirectory
    else
      match node with
      | .program _ => .ok (location, node)
      | .file _ => if files.mayRun location then .ok (location, node) else .error .denied
      | _ => .error .denied

/-- The path of a name in a directory. -/
def inside (directory name : Octets) : Octets :=
  if directory = "" then name else directory ++ "/" ++ name

/-- The path of the program with a name in one of some directories. -/
def among (files : FileSystem) (name : Octets) : List Octets → Except IoError Octets
  | [] => .error .notFound
  | directory :: others =>
    match at? files (inside directory name) with
    | .ok _ => .ok (inside directory name)
    | .error reason =>
      match among files name others with
      | .error .notFound => .error (if reason = .notDirectory then .notFound else reason)
      | answer => answer

/-- The path of the program that a command names: by its path if there is a slash in it, and else
in the directories of a list. -/
def find (files : FileSystem) (path name : Octets) : Except IoError Octets :=
  if name = "" then .error .notFound
  else if '/' ∈ name.toList then (at? files name).map fun _ => name
  else among files name (directories path)

end Modlet.Search
