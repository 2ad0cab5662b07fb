import Modlet.Text.Blank

/-!
# Laying out C text

C text is written piece by piece. A word is kept apart from what stands before it by one space,
unless that ends in a blank or there is nothing before it; so words never run together. Other
pieces are written as they are. How a piece is laid out depends on the text before it only
through its last character.
-/

namespace Modlet.CText

/-- A piece of C text. -/
inductive Piece
  /-- A word of C, to be kept apart from what stands before it. -/
  | word (text : String)
  /-- A text that is written as it is. -/
  | raw (text : String)
deriving DecidableEq, Repr

/-- The end of a line. -/
def lineBreak : Piece := .raw "\n"

/-- What stands between a text with the character `last` at its end and a word behind it. -/
def separator : Option Char → List Char
  | none => []
  | some c => if isBlank c then [] else [' ']

/-- A piece as it is written behind a text with the character `last` at its end. -/
def Piece.write (last : Option Char) : Piece → List Char
  | .word text => separator last ++ text.toList
  | .raw text => text.toList

/-- Pieces as they are written in order behind a text with the character `last` at its end, each
with `Piece.write`. -/
def layout (last : Option Char) : List Piece → List Char
  | [] => []
  | piece :: pieces =>
    let text := piece.write last
    text ++ layout (text.getLast?.or last) pieces

/-- A text with pieces written behind it by `layout`. -/
def append (text : String) (pieces : List Piece) : String :=
  text ++ String.ofList (layout text.toList.getLast? pieces)

/-- Pieces can be laid out in two parts, of which the second sees the last character of the first.
This is what every statement about a part of a C text rests on. -/
theorem layout_append (last : Option Char) (pieces more : List Piece) :
    layout last (pieces ++ more) =
      layout last pieces ++ layout ((layout last pieces).getLast?.or last) more := by
  induction pieces generalizing last with
  | nil => simp [layout]
  | cons piece pieces ih =>
    simp only [List.cons_append, layout, ih, List.append_assoc, List.getLast?_append]
    rw [Option.or_assoc]

/-- Writing pieces with `append` and then more of them is writing them all. -/
theorem append_append (text : String) (pieces more : List Piece) :
    append (append text pieces) more = append text (pieces ++ more) := by
  simp [append, layout_append, List.getLast?_append, String.append_assoc]

end Modlet.CText
