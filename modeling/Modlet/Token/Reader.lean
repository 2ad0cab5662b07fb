import Modlet.Token.Cursor

/-!
# A window on the tokens of a source

The reader of a program sees the current token, has already read the one behind it, and
remembers every token that it has read. Its view is the list of the tokens that are still to be
consumed; consuming the current token takes the first one off that list.
-/

namespace Modlet

/-- A window of two tokens on a source, `current` and the one `ahead`, with the cursor behind
them. -/
structure Reader where
  /-- The token to be consumed next. -/
  current : Token
  /-- The token behind the current one. -/
  ahead : Token
  /-- What is left of the source behind the window. -/
  cursor : Cursor
  /-- Every token read off the source so far, the latest first. -/
  seen : List Token
deriving Repr

namespace Reader

/-- The window at the beginning of a source, for which two tokens are read. -/
def ofSource (source : String) : Reader :=
  let (first, cursor) := (Cursor.ofSource source).next
  let (second, cursor) := cursor.next
  { current := first, ahead := second, cursor, seen := [second, first] }

/-- Consumes the current token: the one `ahead` takes its place, and one more token is read. -/
def advance (r : Reader) : Reader :=
  let (token, cursor) := r.cursor.next
  { current := r.ahead, ahead := token, cursor, seen := token :: r.seen }

/-- The tokens that are still to be consumed, without the end of the file. Those of the window come
first, then `Cursor.tokens` of the rest. -/
def pending (r : Reader) : List Token :=
  if r.current.kind = .endOfFile then []
  else if r.ahead.kind = .endOfFile then [r.current]
  else r.current :: r.ahead :: r.cursor.tokens

/-- The number of tokens that are still to be consumed, which every loop of the parser makes
smaller. -/
def size (r : Reader) : Nat := r.pending.length

/-- The invalid tokens read so far, in the order of the source. -/
def invalid (r : Reader) : List Token := (r.seen.filter (·.kind = .invalid)).reverse

/-- Where `current` is the end of the file nothing is `pending`. -/
theorem pending_of_endOfFile {r : Reader} (h : r.current.kind = .endOfFile) :
    r.pending = [] := by
  simp [pending, h]

/-- Before the end of the file, `current` is the first of the `pending` tokens, and `advance` takes
it off them. -/
theorem pending_eq_cons {r : Reader} (h : r.current.kind ≠ .endOfFile) :
    r.pending = r.current :: r.advance.pending := by
  by_cases ahead : r.ahead.kind = .endOfFile
  · simp [pending, advance, h, ahead]
  · simp only [pending, advance, h, ahead, ↓reduceIte]
    rw [Cursor.tokens]
    split
    · next last => simp [last]
    · next last => simp [last]

/-- Before the end of the file, `advance` makes the `size` smaller. -/
theorem size_advance_lt {r : Reader} (h : r.current.kind ≠ .endOfFile) :
    r.advance.size < r.size := by
  simp [size, pending_eq_cons h]

/-- The `pending` tokens at the beginning are `tokensOf` the source. -/
theorem pending_ofSource (source : String) :
    (ofSource source).pending = tokensOf source := by
  have first := Cursor.tokens.eq_def (Cursor.ofSource source)
  have second := Cursor.tokens.eq_def (Cursor.ofSource source).next.2
  rw [tokensOf, first, second]
  by_cases h : (Cursor.ofSource source).next.1.kind = .endOfFile
  · simp [pending, ofSource, h]
  · by_cases h' : (Cursor.ofSource source).next.2.next.1.kind = .endOfFile <;>
      simp [pending, ofSource, h, h']

end Reader

end Modlet
