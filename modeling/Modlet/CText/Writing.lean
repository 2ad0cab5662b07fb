import Modlet.CText.Generate

/-!
# Writing C text step by step

A generator of C text has written some text and is told what to write next: a prototype, a
definition or a whole module. It writes one piece at a time and looks before each word at how the
text ends, also in the middle of what it was told to write.

* `Piece.put`: one piece, written behind a text.
* `append_eq_foldl`: pieces that are written behind a text are put there one after the other.
* `Request`: what a generator can be told to write.
* `writeAll`: the texts behind each of some requests.
-/

namespace Modlet.CText

/-- What sets a word off from a text before it: one space, unless the text is empty or ends in a
blank. -/
def spaceBehind (text : String) : String :=
  match text.toList.getLast? with
  | some c => if isBlank c then "" else " "
  | none => ""

/-- The text `before`, with the piece put behind it. -/
def Piece.put (before : String) : Piece → String
  | .word text => before ++ spaceBehind before ++ text
  | .raw text => before ++ text

/-- What a generator is told to write. -/
inductive Request
  /-- The prototype of a statement, if it has one. -/
  | prototype (statement : Stmt)
  /-- The definition of a statement. -/
  | definition (statement : Stmt)
  /-- A whole module, with its preamble. -/
  | file (program : Module)
deriving DecidableEq, Repr

namespace Request

/-- The pieces that are asked for, as `Generate` has them. -/
def pieces : Request → List Piece
  | .prototype statement => statement.prototype
  | .definition statement => statement.definition
  | .file program => program.pieces

/-- A text with what is asked for behind it, written by the function that the request names. -/
def write (text : String) : Request → String
  | .prototype statement => appendPrototype text statement
  | .definition statement => appendDefinition text statement
  | .file program => appendModule text program

/-- What is asked for is written as its `pieces`, whichever function writes it. -/
theorem write_eq_append (text : String) (request : Request) :
    request.write text = append text request.pieces := by
  cases request <;> rfl

end Request

/-- The texts behind each of some requests, which are written with `write` one after the other. -/
def writeAll (text : String) : List Request → List String
  | [] => []
  | request :: requests =>
    let next := request.write text
    next :: writeAll next requests

/-- The space behind a text is the `separator` that its last character asks for. -/
theorem toList_spaceBehind (text : String) :
    (spaceBehind text).toList = separator text.toList.getLast? := by
  rw [spaceBehind]
  split
  · next c hc =>
    rw [hc, separator]
    split <;> rfl
  · next hnone =>
    rw [hnone]
    rfl

/-- Writing one piece with `append` is `Piece.put`. -/
theorem append_singleton (before : String) (piece : Piece) :
    append before [piece] = piece.put before := by
  cases piece with
  | word text =>
    rw [← String.toList_inj]
    simp [append, layout, Piece.write, Piece.put, toList_spaceBehind]
  | raw text => simp [append, layout, Piece.write, Piece.put]

/-- Writing pieces with `append` is putting them behind the text one after the other, each with a
look at what stands before it by then. -/
theorem append_eq_foldl (text : String) (pieces : List Piece) :
    append text pieces = pieces.foldl Piece.put text := by
  induction pieces generalizing text with
  | nil => simp [append, layout]
  | cons piece pieces ih =>
    rw [List.foldl_cons, ← ih, ← append_singleton, append_append, List.singleton_append]

end Modlet.CText
