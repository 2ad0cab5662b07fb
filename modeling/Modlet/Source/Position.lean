/-!
# Places in a source text

A place is a line and a column, both counted from one. Columns count characters, and only
a line feed ends a line, so the place that a text leads to is a fold over its characters.
-/

namespace Modlet

/-- A line and a column of a source text, both counted from one. -/
structure Position where
  /-- The line, one more than the number of line feeds before the place. -/
  line : Nat := 1
  /-- The column, one more than the number of characters before the place on its line. -/
  col : Nat := 1
deriving DecidableEq, Repr, Inhabited

namespace Position

/-- The place where a text begins. -/
def start : Position := ⟨1, 1⟩

/-- The place behind the character `c` that stands at `p`: a line feed begins the next line, all
else takes one column. -/
def step (p : Position) (c : Char) : Position :=
  if c = '\n' then ⟨p.line + 1, 1⟩ else ⟨p.line, p.col + 1⟩

/-- The place behind a text that begins at `p`, one `step` for each character. -/
def after (p : Position) (text : List Char) : Position := text.foldl step p

/-- A place is written as its line and its column, joined by a colon. -/
def toText (p : Position) : String := s!"{p.line}:{p.col}"

instance : ToString Position := ⟨toText⟩

@[simp]
theorem after_nil (p : Position) : p.after [] = p := rfl

@[simp]
theorem after_cons (p : Position) (c : Char) (text : List Char) :
    p.after (c :: text) = (p.step c).after text := rfl

/-- Going on behind `text` and then behind `more` is going on behind both in order. -/
theorem after_append (p : Position) (text more : List Char) :
    p.after (text ++ more) = (p.after text).after more := by
  simp [after, List.foldl_append]

end Position

end Modlet
