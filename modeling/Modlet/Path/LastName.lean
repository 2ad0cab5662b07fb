import Modlet.Path

/-!
# The name that a path ends in

The last name of a path, told by how the path is written: between a slash or the front, and slashes
and single dots that say nothing. This stands beside `Path.fileName?`, which takes the path apart
from the front.
-/

namespace Modlet.Path

/-- What says nothing at the end of a path: slashes, and single dots between slashes. -/
inductive IsTrailing : List Char → Prop
  | nil : IsTrailing []
  | slash {rest : List Char} : IsTrailing rest → IsTrailing ('/' :: rest)
  | dot {rest : List Char} : IsTrailing rest → IsTrailing ('/' :: '.' :: rest)

/-- A name of a file: one without slashes that is neither empty nor one or two dots. -/
def IsName (name : List Char) : Prop :=
  name ≠ [] ∧ '/' ∉ name ∧ name ≠ ['.'] ∧ name ≠ ['.', '.']

instance (name : List Char) : Decidable (IsName name) :=
  inferInstanceAs (Decidable (name ≠ [] ∧ '/' ∉ name ∧ name ≠ ['.'] ∧ name ≠ ['.', '.']))

/-- A path ends in `name` if the name stands at its front or behind a slash, and what stands behind
it `IsTrailing`. -/
def EndsIn (path name : List Char) : Prop :=
  IsName name ∧ ∃ front trailing, path = front ++ name ++ trailing
    ∧ (front = [] ∨ front.getLast? = some '/') ∧ IsTrailing trailing

end Modlet.Path
