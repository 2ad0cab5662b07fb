import Modlet.Text.Pieces

/-!
# The lines of a text

A line ends at a line feed, which does not belong to it; a carriage return directly before
that line feed does not belong to it either. Behind a final line feed there is no line.
-/

namespace Modlet.Lines

/-- A line without the carriage return that stands directly before its line feed. -/
def dropReturn (line : List Char) : List Char :=
  if line.getLast? = some '\r' then line.dropLast else line

/-- The lines among the pieces of a text between its line feeds: all but an empty last piece, and
each without the carriage return before its line feed. The last piece has no line feed, so
`dropReturn` leaves it whole. -/
def ofPieces : List (List Char) → List (List Char)
  | [] => []
  | [piece] => if piece.isEmpty then [] else [piece]
  | piece :: more => dropReturn piece :: ofPieces more

/-- The lines of a text, which are `ofPieces` of what stands between its line feeds. -/
def ofText (text : List Char) : List (List Char) := ofPieces (Text.pieces '\n' text)

/-- The line of a text with the given number, counted from one. -/
def nth? (text : List Char) : Nat → Option (List Char)
  | 0 => none
  | n + 1 => (ofText text)[n]?

end Modlet.Lines
