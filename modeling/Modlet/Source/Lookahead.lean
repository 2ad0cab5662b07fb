/-!
# Looking ahead in a text

The part of a text that is still to be read is the list of its characters. Looking at the
next character takes nothing away; eating takes the next character away if it is the
wanted one.
-/

namespace Modlet.Lookahead

/-- The next character, which stays in the text. -/
def peek (text : List Char) : Option Char := text.head?

/-- The next character and the text behind it. -/
def next (text : List Char) : Option Char × List Char := (text.head?, text.tail)

/-- Whether the next character is `c`, and the text behind it if so. -/
def eat (c : Char) (text : List Char) : Bool × List Char :=
  if peek text = some c then (true, text.tail) else (false, text)

/-- Whether no character is left. -/
def atEnd (text : List Char) : Bool := (peek text).isNone

end Modlet.Lookahead
