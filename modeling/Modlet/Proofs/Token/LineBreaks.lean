import Modlet.Proofs.Token.Boundary

/-!
# Reading anew behind ends of lines

Nothing but the place is handed on from one token to the next. So what stands behind the end of a
line is read as if it were a source of its own, further down: the same kinds and texts, in the same
columns. The end of a line ends whatever lexeme or comment is open there, except for a string.

* `Position.moveDown`, `Token.moveDown`, `Cursor.moveDown`: the same, some lines further down.
* `Cursor.next_moveDown`: one reading further down; `Cursor.tokens_moveDown`: all of them.
* `EndsOpen`: sources that end in a string without its closing mark.
* `tokensOf_lineBreak`: the tokens of two sources with the end of a line between them.
-/

namespace Modlet

/-! ### The same, further down -/

/-- The place in the same column that is `n` lines further down. -/
def Position.moveDown (n : Nat) (p : Position) : Position := ⟨p.line + n, p.col⟩

/-- The same token, `n` lines further down. -/
def Token.moveDown (n : Nat) (t : Token) : Token := { t with pos := t.pos.moveDown n }

/-- The same rest of a source, `n` lines further down. -/
def Cursor.moveDown (n : Nat) (cursor : Cursor) : Cursor :=
  { cursor with pos := cursor.pos.moveDown n }

@[simp]
theorem Cursor.pos_moveDown (n : Nat) (cursor : Cursor) :
    (cursor.moveDown n).pos = cursor.pos.moveDown n := rfl

/-- Going on behind a character with `step` leads as far from further down. -/
theorem Position.step_moveDown (n : Nat) (p : Position) (c : Char) :
    (p.moveDown n).step c = (p.step c).moveDown n := by
  rw [step, step]
  split_ifs
  · rw [moveDown, moveDown, Nat.add_right_comm]
  · rfl

/-- Going on behind a text with `after` leads as far from further down. -/
theorem Position.after_moveDown (n : Nat) (p : Position) (text : List Char) :
    (p.moveDown n).after text = (p.after text).moveDown n := by
  induction text generalizing p with
  | nil => rfl
  | cons c text ih => rw [after_cons, step_moveDown, ih, after_cons]

/-- What `toToken` makes of a lexeme does not depend on where it stands, but for its place. -/
theorem Lexeme.toToken_moveDown (n : Nat) (c : Char) (more : List Char) (p : Position) :
    toToken c more (p.moveDown n) = (toToken c more p).moveDown n := by
  rw [toToken, toToken]
  cases read c more <;> rfl

/-- The token of `next` further down, and what is left behind it. -/
theorem Cursor.next_moveDown (n : Nat) (cursor : Cursor) :
    (cursor.moveDown n).next = (cursor.next.1.moveDown n, cursor.next.2.moveDown n) := by
  rcases hsplit : splitGap false cursor.rest with ⟨gap, behind⟩
  have hsplit' : splitGap false (cursor.moveDown n).rest = (gap, behind) := hsplit
  cases behind with
  | nil =>
    rw [next_eq_end hsplit, next_eq_end hsplit', pos_moveDown, Position.after_moveDown]
    rfl
  | cons c rest =>
    rw [next_eq_lexeme hsplit rfl, next_eq_lexeme hsplit' rfl, pos_moveDown,
      Position.after_moveDown, Position.after_moveDown, Lexeme.toToken_moveDown]
    rfl

/-- The tokens further down. -/
theorem Cursor.tokens_moveDown (n : Nat) (cursor : Cursor) :
    (cursor.moveDown n).tokens = cursor.tokens.map (Token.moveDown n) := by
  fun_induction tokens cursor with
  | case1 cursor hend => exact tokens_of_end (by rw [next_moveDown]; exact hend)
  | case2 cursor hkind ih =>
    rw [tokens_of_next (next_moveDown n cursor) hkind, ih, List.map_cons]

/-- The readings further down, the end of the file included. -/
theorem Cursor.reading_moveDown (n : Nat) (cursor : Cursor) (i : Nat) :
    (cursor.moveDown n).reading i = (cursor.reading i).moveDown n := by
  induction i generalizing cursor with
  | zero => rw [reading, reading, next_moveDown]
  | succ i ih => rw [reading, reading, next_moveDown, ih]

/-- Where the source begins that stands behind the end of a line: the lines that end in `text` are
what it is moved down by. -/
theorem Position.after_lineBreak (text : List Char) :
    start.after (text ++ ['\n']) = start.moveDown (1 + text.count '\n') := by
  rw [after_of_endsLine (by simp [EndsLine]), List.count_append, List.count_singleton_self,
    moveDown, Nat.add_comm (text.count '\n') 1]
  rfl

/-! ### Sources that end in a string -/

/-- Whether the last token of `tokensOf source` is a string without its closing mark. -/
def EndsOpen (source : String) : Prop :=
  ∃ t ∈ (tokensOf source).getLast?,
    t.content = (.invalid, LexicalError.unterminatedString.message)

/-- Every lexeme of a source `IsClosed`, unless the source ends in a string without its closing
mark. -/
theorem Decomposes.isClosed_of_not_endsOpen {source : String} {gap : List Char} {parts : List Part}
    (h : Decomposes source.toList parts gap) (hopen : ¬ EndsOpen source) :
    ∀ part ∈ parts, IsClosed part.lexeme := by
  have hmeans := (h.tokens .start).1
  rw [← Cursor.ofSource, ← tokensOf] at hmeans
  rcases List.eq_nil_or_concat' parts with rfl | ⟨before, last, rfl⟩
  · simp
  rw [List.forall_mem_append, List.forall_mem_singleton]
  refine ⟨h.isClosed_of_mem, fun body hbody => ?_⟩
  -- The last lexeme is what the last token means, so it is no string that nothing closes.
  by_contra hquote
  have hlength : (tokensOf source).length = before.length + 1 := by
    rw [← hmeans.length_eq, List.length_append, List.length_singleton]
  have hlast : before.length < (tokensOf source).length := hlength ▸ Nat.lt_succ_self _
  have htoken := hmeans.get (by simp) hlast
  simp only [List.get_eq_getElem, List.getElem_concat_length, hbody] at htoken
  refine hopen ⟨(tokensOf source)[before.length], ?_, htoken.unique (.unterminated hquote)⟩
  rw [List.getLast?_eq_getElem?, hlength, Nat.add_sub_cancel]
  exact List.getElem?_eq_getElem hlast

/-- Behind the end of a line reading begins anew. If not `EndsOpen a`, then `tokensOf` gives the
same tokens of `a` with more lines behind it, and then those of `b`, each with `Token.moveDown` as
many lines further down as `a` and its line break take, in the column that it had. Past the tokens
of `a` every `Cursor.reading` is one of `b` moved down, also those of the end of the file. -/
theorem tokensOf_lineBreak {a : String} (b : String) (h : ¬ EndsOpen a) :
    tokensOf (a ++ "\n" ++ b) =
        tokensOf a ++ (tokensOf b).map (Token.moveDown (1 + a.toList.count '\n'))
      ∧ ∀ i, (Cursor.ofSource (a ++ "\n" ++ b)).reading ((tokensOf a).length + i) =
          ((Cursor.ofSource b).reading i).moveDown (1 + a.toList.count '\n') := by
  obtain ⟨parts, gap, hcut⟩ := exists_decomposes a.toList
  have htext : (a ++ "\n" ++ b).toList = a.toList ++ '\n' :: b.toList := by simp
  -- What stands behind the end of the line is `b`, as many lines further down.
  have hbehind : (⟨b.toList, Position.start.after (a.toList ++ ['\n'])⟩ : Cursor) =
      (Cursor.ofSource b).moveDown (1 + a.toList.count '\n') := by
    rw [Position.after_lineBreak]
    rfl
  have htokens : tokensOf (a ++ "\n" ++ b) =
      tokensOf a ++ ((Cursor.ofSource b).moveDown (1 + a.toList.count '\n')).tokens := by
    rw [tokensOf, Cursor.ofSource, htext,
      hcut.tokens_lineBreak (hcut.isClosed_of_not_endsOpen h), hbehind]
    rfl
  refine ⟨by rw [htokens, Cursor.tokens_moveDown]; rfl, fun i => ?_⟩
  -- Behind the tokens of `a` stand those of `b`, and both sources end at one place.
  have hend : Position.start.after (a ++ "\n" ++ b).toList =
      (Position.start.after (a.toList ++ ['\n'])).after b.toList := by
    rw [htext, ← Position.after_append, List.append_assoc, List.singleton_append]
  rw [← Cursor.reading_moveDown, ← hbehind, Cursor.reading_eq, Cursor.reading_eq, ← tokensOf,
    htokens, hbehind, List.getElem?_append_right (Nat.le_add_right _ _), Nat.add_sub_cancel_left,
    ← hbehind, Cursor.ofSource, hend]

/-- A source that ends in a comment with a quotation mark in it, before one with a string over two
lines. -/
theorem tokensOf_lineBreak_comment :
    ¬ EndsOpen "x >\n/ // \""
      ∧ tokensOf ("x >\n/ // \"" ++ "\n" ++ "= \"//\né\" 12") =
          tokensOf "x >\n/ // \"" ++ (tokensOf "= \"//\né\" 12").map (Token.moveDown 2)
      ∧ ∀ i, (Cursor.ofSource ("x >\n/ // \"" ++ "\n" ++ "= \"//\né\" 12")).reading
            ((tokensOf "x >\n/ // \"").length + i) =
          ((Cursor.ofSource "= \"//\né\" 12").reading i).moveDown 2 := by
  have hclosed : ¬ EndsOpen "x >\n/ // \"" := by
    have htokens : tokensOf "x >\n/ // \"" =
        [⟨.identifier, "x", ⟨1, 1⟩⟩, ⟨.greater, ">", ⟨1, 3⟩⟩, ⟨.divide, "/", ⟨2, 1⟩⟩] := by
      cbv
    rw [EndsOpen, htokens]
    decide
  exact ⟨hclosed, tokensOf_lineBreak "= \"//\né\" 12" hclosed⟩

/-- The tokens of the two sources together. -/
example : tokensOf ("x >\n/ // \"" ++ "\n" ++ "= \"//\né\" 12") =
    [⟨.identifier, "x", ⟨1, 1⟩⟩, ⟨.greater, ">", ⟨1, 3⟩⟩, ⟨.divide, "/", ⟨2, 1⟩⟩,
      ⟨.assign, "=", ⟨3, 1⟩⟩, ⟨.string, "//\né", ⟨3, 3⟩⟩, ⟨.integer, "12", ⟨4, 4⟩⟩] := by
  cbv

end Modlet
