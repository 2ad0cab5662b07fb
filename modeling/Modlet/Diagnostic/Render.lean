import Modlet.Diagnostic.Basic

/-!
# Showing a diagnostic

A diagnostic is shown as a line with its message and, if the line of the source is known, three
more: an empty one, the numbered line of the source, and one with a caret under the place. The
word in front and the caret stand out where the output can be coloured.
-/

namespace Modlet.Diagnostic

/-- How a part of the output stands out. -/
inductive Style
  | plain
  | alarm
deriving DecidableEq, Repr

/-- A part of the output in one style. -/
structure Span where
  /-- How it stands out. -/
  style : Style
  /-- What is written. -/
  text : String
deriving DecidableEq, Repr

/-- The characters that bring a caret under the given column of a line. Tabs are kept, so that
the caret is in the right place however wide they are drawn. -/
def padding (line : List Char) (col : Nat) : List Char :=
  (line.take (col - 1)).map fun c => if c = '\t' then '\t' else ' '

/-- A gutter with nothing in it, as wide as the number of a line. -/
def gutter (line : Nat) : String := String.ofList (List.replicate line.repr.length ' ')

/-- The parts of a diagnostic in order, which are the same with colours and without. -/
def spans (d : Diagnostic) : List Span :=
  [⟨.alarm, "error"⟩, ⟨.plain, ": " ++ d.message ++ "\n"⟩] ++
    match d.sourceLine with
    | none => []
    | some line =>
      [⟨.plain, gutter d.pos.line ++ " |\n"⟩,
        ⟨.plain, d.pos.line.repr ++ " | " ++ line ++ "\n"⟩,
        ⟨.plain, gutter d.pos.line ++ " | " ++ String.ofList (padding line.toList d.pos.col)⟩,
        ⟨.alarm, "^\n"⟩]

/-- A diagnostic without colours: the texts of its `spans`. -/
def plain (d : Diagnostic) : String := String.join (d.spans.map Span.text)

/-- The code that takes every style away. -/
def resetCode : String := "\x1b[0m"

/-- The code for bold red. -/
def alarmCode : String := resetCode ++ "\x1b[1m" ++ "\x1b[31m"

/-- A part of the output with the codes of its style around it. -/
def Span.coloured (s : Span) : String :=
  match s.style with
  | .plain => s.text
  | .alarm => alarmCode ++ s.text ++ resetCode

/-- A diagnostic with colours, for a terminal: its `spans` with their codes. -/
def coloured (d : Diagnostic) : String := String.join (d.spans.map Span.coloured)

/-- A diagnostic as it is shown, `coloured` or `plain`. -/
def shown (d : Diagnostic) (colours : Bool) : String := if colours then d.coloured else d.plain

end Modlet.Diagnostic
