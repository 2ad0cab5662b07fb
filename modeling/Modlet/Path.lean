import Modlet.Text.Pieces

/-!
# Paths of files

A path is a text whose components stand between slashes. Repeated slashes, slashes at the end and
single dots that are not at the front say nothing. The last component, if it is the name of a file
and neither a step up nor the front of the path, is a stem and possibly an extension behind its last
dot; a dot at its very front separates nothing.
-/

namespace Modlet.Path

/-- A component of a path. -/
inductive Component
  /-- The slash at the front of an absolute path. -/
  | root
  /-- A single dot at the front of a path. -/
  | here
  /-- The step up, two dots. -/
  | up
  /-- Any other name. -/
  | name (chars : List Char)
deriving DecidableEq, Repr

/-- The component that a piece between slashes stands for; an empty piece and a single dot stand
for none. -/
def Component.ofPiece? (piece : List Char) : Option Component :=
  if piece = [] ∨ piece = ['.'] then none
  else if piece = ['.', '.'] then some .up
  else some (.name piece)

/-- The components of a path. -/
def components (path : List Char) : List Component :=
  let pieces := Text.pieces '/' path
  let front :=
    if path.head? = some '/' then [Component.root]
    else if pieces.head? = some ['.'] then [.here]
    else []
  front ++ pieces.filterMap Component.ofPiece?

/-- The name of the file that a path leads to, if the last of its `components` is a name. -/
def fileName? (path : List Char) : Option (List Char) :=
  match (components path).getLast? with
  | some (.name chars) => some chars
  | _ => none

/-- The stem of the name of a file, and its extension if it has one. -/
def splitName (name : List Char) : List Char × Option (List Char) :=
  -- Only the last dot counts, and only with something before it.
  let behind := (name.reverse.takeWhile (· ≠ '.')).reverse
  let before := ((name.reverse.dropWhile (· ≠ '.')).drop 1).reverse
  if name = ['.', '.'] ∨ before = [] then (name, none) else (before, some behind)

/-- The stem of `fileName? path`, as `splitName` gives it. -/
def stem? (path : List Char) : Option (List Char) :=
  (fileName? path).map fun name => (splitName name).1

/-- The extension of `fileName? path`, as `splitName` gives it. -/
def extension? (path : List Char) : Option (List Char) :=
  (fileName? path).bind fun name => (splitName name).2

/-- The `stem?` of a path with the given extension behind it. -/
def nameWithExtension? (path extension : List Char) : Option (List Char) :=
  (stem? path).map fun stem => stem ++ '.' :: extension

end Modlet.Path
