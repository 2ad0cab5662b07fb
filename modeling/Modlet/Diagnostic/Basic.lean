import Modlet.Program.Fault
import Modlet.Source.Lines

/-!
# Diagnostics

A diagnostic is an error as it is shown to the user: its message with the place in front, and the
line of the source that it points at, if there is one.
-/

namespace Modlet

/-- An error together with the line of the source that it points at. -/
structure Diagnostic where
  /-- What is wrong, behind the file and the place. -/
  message : String
  /-- The place that is pointed at. -/
  pos : Position
  /-- The line of the source, if the source has it. -/
  sourceLine : Option String
deriving DecidableEq, Repr

namespace Diagnostic

/-- The diagnostic of an error in the given source, with the line that `Lines.nth?` finds there. -/
def ofError (e : SourceError) (source : String) : Diagnostic :=
  { message := e.toText
    pos := e.pos
    sourceLine := (Lines.nth? source.toList e.pos.line).map String.ofList }

end Diagnostic

end Modlet
