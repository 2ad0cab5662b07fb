import Modlet.Token.Lexeme

/-!
# Reading tokens off a source

A cursor is what is left of a source and the place where that begins. Each reading skips a gap
and takes the lexeme behind it; at the end of the source it gives the end of the file, again and
again. Every other token leaves less to be read than there was.
-/

namespace Modlet

/-- What is left of a source text. -/
structure Cursor where
  /-- The characters that are still to be read. -/
  rest : List Char
  /-- The place of the first of them. -/
  pos : Position := .start
deriving DecidableEq, Repr

namespace Cursor

/-- The cursor at the beginning of a source, at `Position.start`. -/
def ofSource (source : String) : Cursor := ⟨source.toList, .start⟩

/-- The next token and the cursor behind it. `splitGap` skips the gap, and `Lexeme.split` takes the
lexeme behind it. -/
def next (cursor : Cursor) : Token × Cursor :=
  let (gap, rest) := splitGap false cursor.rest
  let start := cursor.pos.after gap
  match rest with
  | [] => (Token.endAt start, ⟨[], start⟩)
  | c :: rest =>
    let (more, rest) := Lexeme.split c rest
    (Lexeme.toToken c more start, ⟨rest, start.after (c :: more)⟩)

/-- Where `splitGap` leaves nothing, `next` gives the end of the file behind the gap. -/
theorem next_eq_end {cursor : Cursor} {gap : List Char}
    (h : splitGap false cursor.rest = (gap, [])) :
    cursor.next = (Token.endAt (cursor.pos.after gap), ⟨[], cursor.pos.after gap⟩) := by
  simp [next, h]

/-- Where `splitGap` leaves `c :: rest`, `next` gives the token of the lexeme that `Lexeme.split`
takes from it. -/
theorem next_eq_lexeme {cursor : Cursor} {gap rest more behind : List Char} {c : Char}
    (hgap : splitGap false cursor.rest = (gap, c :: rest))
    (hlexeme : Lexeme.split c rest = (more, behind)) :
    cursor.next = (Lexeme.toToken c more (cursor.pos.after gap),
      ⟨behind, (cursor.pos.after gap).after (c :: more)⟩) := by
  simp [next, hgap, hlexeme]

/-- A token before the end of the file leaves less to be read. This is what lets `tokens`
recurse. -/
theorem next_length_lt {cursor : Cursor} (h : cursor.next.1.kind ≠ .endOfFile) :
    cursor.next.2.rest.length < cursor.rest.length := by
  have length := splitGap_length false cursor.rest
  rcases hgap : splitGap false cursor.rest with ⟨gap, behind⟩
  cases behind with
  | nil => simp [next_eq_end hgap, Token.endAt] at h
  | cons c rest =>
    rw [next_eq_lexeme hgap rfl]
    rw [hgap] at length
    exact Nat.lt_of_le_of_lt (Lexeme.split_length c rest) length

/-- The tokens before the end of the file, in order, each from `next` on the cursor that the one
before it left. -/
def tokens (cursor : Cursor) : List Token :=
  if cursor.next.1.kind = .endOfFile then [] else cursor.next.1 :: cursor.next.2.tokens
termination_by cursor.rest.length
decreasing_by exact next_length_lt ‹_›

end Cursor

/-- The tokens of a source, without the end of the file. -/
def tokensOf (source : String) : List Token := (Cursor.ofSource source).tokens

end Modlet
