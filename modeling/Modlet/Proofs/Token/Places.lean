import Modlet.Proofs.Token.Locality

/-!
# Where tokens stand

A place is told by the text before it: its line by the line feeds in that text, and its column by
what stands behind the last of them. Longer texts lead to later places, so the tokens of a source
stand one behind the other, and the place of a token tells which token it is.

* `Position.Before`: an earlier line, or an earlier column of the same line.
* `Position.after_of_endsLine`: behind the end of a line stands the first column of the next one.
* `TokenAt`: a token of a text, with all that stands before it.
* `TokenAt.unique`: the place of a token tells which token it is.
* `Cursor.reading_before`: the readings of a source stand one behind the other.
* `Token.StandsAt`: a token as what its lexeme means, at the place where the lexeme begins.
* `Decomposes.standsAt_reading`: the reading with a number gives the token of that lexeme.
* `exists_tokenAt_reading`: what a reading gives is a token of the text.
-/

namespace Modlet

/-! ### Places -/

/-- Going on behind a text with `Position.after` leads to a later line, or to a later column of the
same line. -/
theorem Position.after_later (p : Position) (text : List Char) :
    p.line < (p.after text).line
      ∨ (p.line = (p.after text).line ∧ p.col + text.length = (p.after text).col) := by
  induction text generalizing p with
  | nil => exact .inr ⟨rfl, rfl⟩
  | cons c text ih =>
    have hstep := ih (p.step c)
    rw [Position.after_cons]
    by_cases hc : c = '\n'
    · subst hc
      simp only [Position.step, if_pos] at hstep ⊢
      omega
    · simp only [Position.step, if_neg hc] at hstep ⊢
      simp only [List.length_cons]
      omega

/-- Two beginnings of a text that lead to one place are the same, so the place tells how much of the
text stands before it. -/
theorem Position.after_injective {p : Position} {text front front' : List Char}
    (h : front <+: text) (h' : front' <+: text) (hpos : p.after front = p.after front') :
    front = front' := by
  -- One of the two is the beginning of the other, and what is missing leads nowhere.
  have hcases : ∀ {a b : List Char}, a <+: b → p.after a = p.after b → a = b := by
    rintro a _ ⟨more, rfl⟩ hsame
    rw [Position.after_append] at hsame
    have hlater := Position.after_later (p.after a) more
    rw [← hsame] at hlater
    have hnil : more = [] := List.length_eq_zero_iff.mp (by omega)
    rw [hnil, List.append_nil]
  rcases List.prefix_or_prefix_of_prefix h h' with hshort | hshort
  · exact hcases hshort hpos
  · exact (hcases hshort hpos.symm).symm

/-- Going on behind a text leads past as many lines as it has line feeds. -/
theorem Position.line_after (p : Position) (text : List Char) :
    (p.after text).line = p.line + text.count '\n' := by
  induction text generalizing p with
  | nil => rfl
  | cons c text ih =>
    rw [Position.after_cons, ih]
    by_cases hc : c = '\n'
    · subst hc
      rw [Position.step, if_pos rfl, List.count_cons_self]
      exact Nat.add_right_comm _ _ _
    · rw [Position.step, if_neg hc, List.count_cons_of_ne hc]

/-- On one line every character takes one column. -/
theorem Position.after_of_not_mem {text : List Char} (h : '\n' ∉ text) (p : Position) :
    p.after text = ⟨p.line, p.col + text.length⟩ := by
  induction text generalizing p with
  | nil => rfl
  | cons c text ih =>
    rw [List.mem_cons, not_or] at h
    rw [Position.after_cons, ih h.2, Position.step, if_neg (Ne.symm h.1), List.length_cons,
      Nat.add_right_comm, Nat.add_assoc]

/-- A text that is nothing or ends with a line feed. -/
def EndsLine (text : List Char) : Prop := ∀ c ∈ text.getLast?, c = '\n'

/-- Behind a text that `EndsLine` stands the first column of a line. -/
theorem Position.after_of_endsLine {text : List Char} (h : EndsLine text) :
    Position.start.after text = ⟨1 + text.count '\n', 1⟩ := by
  rcases List.eq_nil_or_concat text with rfl | ⟨front, c, rfl⟩
  · rfl
  · obtain rfl : c = '\n' := h c (by simp)
    have hline := Position.line_after .start front
    rw [List.concat_eq_append, Position.after_append, Position.after_cons, Position.after_nil,
      Position.step, if_pos rfl, hline, List.count_append, List.count_singleton_self]
    congr 1

/-- An earlier line, or an earlier column of the same line. -/
def Position.Before (p q : Position) : Prop := p.line < q.line ∨ (p.line = q.line ∧ p.col < q.col)

theorem Position.Before.trans {p q r : Position} (h : p.Before q) (h' : q.Before r) :
    p.Before r := by
  unfold Position.Before at *
  omega

/-- No place stands before itself. -/
theorem Position.Before.ne {p q : Position} (h : p.Before q) : p ≠ q := by
  rintro rfl
  unfold Position.Before at h
  omega

/-- Going on behind a text with a character in it leads to a later place, in the sense of
`Before`. -/
theorem Position.before_after (p : Position) {text : List Char} (h : text ≠ []) :
    p.Before (p.after text) := by
  have hlength := List.length_pos_of_ne_nil h
  have hlater := Position.after_later p text
  unfold Position.Before
  omega

/-! ### Tokens of a text -/

/-- A token of a text, as what stands before it and its lexeme in the cut that `Decomposes`
describes. The end of the file has no lexeme. -/
inductive TokenAt (text : List Char) : List Char → List Char → Prop
  | lexeme {before after : List Part} {part : Part} {gap : List Char} :
      Decomposes text (before ++ part :: after) gap →
      TokenAt text (before.flatMap Part.text ++ part.gap) part.lexeme
  | endOfFile : TokenAt text text []

/-- Every lexeme of a cut has a character. -/
theorem Decomposes.lexeme_ne_nil {text gap : List Char} {parts : List Part}
    (h : Decomposes text parts gap) : ∀ part ∈ parts, part.lexeme ≠ [] := by
  induction h with
  | last => simp
  | part _ hlexeme _ ih =>
    rw [List.forall_mem_cons]
    exact ⟨hlexeme.1.ne_nil, ih⟩

/-- No lexeme of a cut begins with a spacing character, which would lengthen the gap before it. -/
theorem Decomposes.isSpacing_lexeme {text gap : List Char} {parts : List Part}
    (h : Decomposes text parts gap) :
    ∀ part ∈ parts, ∀ c ∈ part.lexeme.head?, isSpacing c = false := by
  induction h with
  | last => simp
  | @part part behind _ _ hgap hlexeme _ ih =>
    rw [List.forall_mem_cons]
    refine ⟨?_, ih⟩
    obtain ⟨c, more, hpart, hsplit, -⟩ := split_of_part hgap hlexeme
    have hsolid := isSolid_splitGap false (part.text ++ behind)
    rw [hsplit] at hsolid
    rw [hpart]
    rintro _ ⟨⟩
    exact (hsolid c rfl).1

/-- Every gap before a lexeme of a cut has ended. -/
theorem Decomposes.isGap_of_mem {text gap : List Char} {parts : List Part}
    (h : Decomposes text parts gap) : ∀ part ∈ parts, IsGap part.gap := by
  induction h with
  | last => simp
  | part hgap hlexeme _ ih =>
    rw [List.forall_mem_cons]
    exact ⟨hgap.1.isGap (List.append_ne_nil_of_left_ne_nil hlexeme.1.ne_nil _), ih⟩

namespace TokenAt

variable {text front lexeme front' lexeme' : List Char}

/-- What stands before a token of `TokenAt` and its lexeme are the beginning of the text. -/
theorem isPrefix (h : TokenAt text front lexeme) : front ++ lexeme <+: text := by
  cases h with
  | endOfFile => simp
  | @lexeme before after part gap hcut =>
    refine ⟨after.flatMap Part.text ++ gap, ?_⟩
    rw [hcut.text_eq, List.flatMap_append, List.flatMap_cons, Part.text]
    simp

/-- Behind the beginning of a lexeme no other part begins. -/
theorem lexeme_eq_nil {before more : List Part} {part : Part} {gap : List Char}
    (h : before.flatMap Part.text ++ part.gap = (before ++ part :: more).flatMap Part.text ++ gap) :
    part.lexeme = [] := by
  rw [List.flatMap_append, List.flatMap_cons, List.append_assoc, List.append_cancel_left_eq,
    Part.text] at h
  have hlength := congrArg List.length h
  simp only [List.length_append] at hlength
  exact List.length_eq_zero_iff.mp (by omega)

/-- Behind the whole text there is only the end of the file. -/
theorem eq_nil_of_end (h : TokenAt text text lexeme) : lexeme = [] := by
  have hlength := h.isPrefix.length_le
  rw [List.length_append] at hlength
  exact List.length_eq_zero_iff.mp (by omega)

/-- Only the end of the file has no lexeme in `TokenAt`, and before it stands the whole text. -/
theorem front_eq (h : TokenAt text front []) : front = text := by
  generalize hnil : ([] : List Char) = lexeme at h
  cases h with
  | endOfFile => rfl
  | @lexeme before after part gap hcut =>
    exact absurd hnil.symm (hcut.lexeme_ne_nil part (by simp))

/-- No token begins with a spacing character. -/
theorem isSpacing_head (h : TokenAt text front lexeme) :
    ∀ c ∈ lexeme.head?, isSpacing c = false := by
  cases h with
  | endOfFile => simp
  | @lexeme before after part gap hcut => exact hcut.isSpacing_lexeme part (by simp)

/-- Where a token begins no other token begins: `TokenAt` has one lexeme at each `front`. -/
theorem lexeme_unique (h : TokenAt text front lexeme) (h' : TokenAt text front lexeme') :
    lexeme = lexeme' := by
  by_cases hend : front = text
  · subst hend
    rw [h.eq_nil_of_end, h'.eq_nil_of_end]
  cases h with
  | endOfFile => exact absurd rfl hend
  | @lexeme before after part gap hcut =>
    have hne := hcut.lexeme_ne_nil part (by simp)
    generalize hfront : before.flatMap Part.text ++ part.gap = front at h' hend
    cases h' with
    | endOfFile => exact absurd rfl hend
    | @lexeme before' after' part' gap' hcut' =>
      have hne' := hcut'.lexeme_ne_nil part' (by simp)
      -- Of two different parts of the one cut, the later one begins behind the earlier lexeme.
      rcases List.append_eq_append_iff.mp (hcut.unique hcut').1 with
        ⟨more, rfl, hmore⟩ | ⟨more, rfl, hmore⟩
      · cases more with
        | nil => rw [(List.cons.inj hmore).1]
        | cons first more =>
          obtain ⟨rfl, -⟩ := List.cons.inj hmore
          exact absurd (lexeme_eq_nil hfront) hne
      · cases more with
        | nil => rw [(List.cons.inj hmore).1]
        | cons first more =>
          obtain ⟨rfl, -⟩ := List.cons.inj hmore
          exact absurd (lexeme_eq_nil hfront.symm) hne'

/-- The place of a token tells which token it is, its front and its lexeme. -/
theorem unique (h : TokenAt text front lexeme) (h' : TokenAt text front' lexeme')
    (hpos : Position.start.after front = Position.start.after front') :
    front = front' ∧ lexeme = lexeme' := by
  have hfront : front <+: text := (List.prefix_append _ _).trans h.isPrefix
  have hfront' : front' <+: text := (List.prefix_append _ _).trans h'.isPrefix
  obtain rfl := Position.after_injective hfront hfront' hpos
  exact ⟨rfl, h.lexeme_unique h'⟩

end TokenAt

/-- The places `lexemePlaces` of more parts are those of the first ones, then those of the others
from behind them. -/
theorem lexemePlaces_append (start : Position) (before after : List Part) :
    lexemePlaces start (before ++ after) =
      lexemePlaces start before ++ lexemePlaces (start.after (before.flatMap Part.text)) after := by
  induction before generalizing start with
  | nil => rfl
  | cons part before ih =>
    rw [List.cons_append, lexemePlaces, lexemePlaces, ih, List.flatMap_cons, Position.after_append,
      List.cons_append]

theorem length_lexemePlaces (start : Position) (parts : List Part) :
    (lexemePlaces start parts).length = parts.length := by
  induction parts generalizing start with
  | nil => rfl
  | cons part parts ih => simp [lexemePlaces, ih]

/-! ### Places of readings -/

namespace Cursor

/-- The token of `Cursor.next` stands behind a gap. -/
theorem exists_pos_next (cursor : Cursor) :
    ∃ gap : List Char, cursor.next.1.pos = cursor.pos.after gap := by
  rcases hsplit : splitGap false cursor.rest with ⟨gap, behind⟩
  refine ⟨gap, ?_⟩
  cases behind with
  | nil => rw [next_eq_end hsplit, Token.endAt]
  | cons c rest => rw [next_eq_lexeme hsplit rfl, Lexeme.toToken_pos]

/-- A token stands `Before` the next one, unless it is the end of the file. -/
theorem next_before {cursor : Cursor} (h : cursor.next.1.kind ≠ .endOfFile) :
    cursor.next.1.pos.Before cursor.next.2.next.1.pos := by
  rcases hsplit : splitGap false cursor.rest with ⟨gap, behind⟩
  cases behind with
  | nil =>
    rw [next_eq_end hsplit] at h
    exact absurd rfl h
  | cons c rest =>
    -- Between the two places stand the lexeme and the gap behind it.
    obtain ⟨more, hmore⟩ := exists_pos_next cursor.next.2
    rw [hmore, next_eq_lexeme hsplit rfl, Lexeme.toToken_pos, ← Position.after_append]
    exact Position.before_after _ (by simp)

/-- A reading of a token stands `Before` the next reading, the first one of the end of the file
included. -/
theorem reading_before_succ {cursor : Cursor} {i : Nat} (h : i < cursor.tokens.length) :
    (cursor.reading i).pos.Before (cursor.reading (i + 1)).pos := by
  induction i generalizing cursor with
  | zero =>
    refine next_before fun hend => ?_
    rw [tokens_of_end hend] at h
    exact absurd h (Nat.not_lt_zero 0)
  | succ i ih =>
    rw [tokens] at h
    split_ifs at h with hend
    · exact absurd h (Nat.not_lt_zero _)
    · exact ih (Nat.lt_of_succ_lt_succ h)

/-- Readings stand one behind the other, up to the first one of the end of the file. The induction
is on the distance, with `reading_before_succ` for one step. -/
theorem reading_before {cursor : Cursor} {i j : Nat} (hij : i < j)
    (hj : j ≤ cursor.tokens.length) : (cursor.reading i).pos.Before (cursor.reading j).pos := by
  induction j, hij using Nat.le_induction with
  | base => exact reading_before_succ hj
  | succ j _ ih => exact (ih (Nat.le_of_succ_le hj)).trans (reading_before_succ hj)

/-- Up to the first one of the end of the file, the place of a `Cursor.reading` tells its number. -/
theorem reading_pos_injective {cursor : Cursor} {i j : Nat} (hi : i ≤ cursor.tokens.length)
    (hj : j ≤ cursor.tokens.length) (h : (cursor.reading i).pos = (cursor.reading j).pos) :
    i = j := by
  rcases Nat.lt_trichotomy i j with hlt | heq | hgt
  · exact absurd h (reading_before hlt hj).ne
  · exact heq
  · exact absurd h.symm (reading_before hgt hi).ne

end Cursor

/-! ### Readings and lexemes -/

/-- What stands before the lexeme with the number `i`, counted from zero. Behind the last lexeme it
is the whole text. -/
def frontOf (parts : List Part) (gap : List Char) (i : Nat) : List Char :=
  (parts.take i).flatMap Part.text ++ (parts[i]?.map Part.gap).getD gap

/-- The lexeme with the number `i`. Behind the last lexeme there is only the end of the file, and it
is empty. -/
def lexemeOf (parts : List Part) (i : Nat) : List Char := (parts[i]?.map Part.lexeme).getD []

/-- The entry `i` of `lexemePlaces` is the place behind the parts before it and its own gap. -/
theorem getElem?_lexemePlaces (start : Position) (parts : List Part) (i : Nat) :
    (lexemePlaces start parts)[i]? =
      parts[i]?.map fun part => start.after ((parts.take i).flatMap Part.text ++ part.gap) := by
  induction parts generalizing start i with
  | nil => rfl
  | cons part parts ih =>
    cases i with
    | zero => rfl
    | succ i => simp [lexemePlaces, ih, Position.after_append]

/-- A token of a text, with what stands before it: what its lexeme `Means`, at the place where the
lexeme begins. The end of the file has no lexeme. -/
structure Token.StandsAt (t : Token) (text front lexeme : List Char) : Prop where
  /-- The lexeme is one of the text. -/
  tokenAt : TokenAt text front lexeme
  /-- The place of the token is that behind all that stands before it. -/
  pos_eq : t.pos = Position.start.after front
  /-- The token is what the lexeme means. -/
  means : lexeme ≠ [] → Means lexeme t.content
  /-- Where no lexeme is, the file ends. -/
  endOfFile : lexeme = [] → t.content = (.endOfFile, "")

/-- The reading with the number `i` gives the token of the lexeme with that number: it stands at
`frontOf` with `lexemeOf` as its lexeme. -/
theorem Decomposes.standsAt_reading {text gap : List Char} {parts : List Part}
    (h : Decomposes text parts gap) (i : Nat) :
    (Cursor.reading ⟨text, .start⟩ i).StandsAt text (frontOf parts gap i) (lexemeOf parts i) := by
  obtain ⟨hmeans, hplaces⟩ := h.tokens .start
  rw [Cursor.reading_eq, frontOf, lexemeOf]
  by_cases hi : i < parts.length
  · have hlt : i < (Cursor.tokens ⟨text, .start⟩).length := hmeans.length_eq ▸ hi
    have hplace := congrArg (·[i]?) hplaces
    simp only [List.getElem?_map, getElem?_lexemePlaces, List.getElem?_eq_getElem hlt,
      List.getElem?_eq_getElem hi, Option.map_some, Option.some.injEq] at hplace
    -- The part with the number `i` stands between those before it and those behind it.
    have hparts : parts = parts.take i ++ parts[i] :: parts.drop (i + 1) := by
      rw [List.getElem_cons_drop, List.take_append_drop]
    simp only [List.getElem?_eq_getElem hlt, List.getElem?_eq_getElem hi, Option.map_some,
      Option.getD_some]
    refine ⟨.lexeme (hparts ▸ h), hplace, fun _ => hmeans.get hi hlt, fun hnil => ?_⟩
    exact absurd hnil (h.lexeme_ne_nil _ (List.getElem_mem hi))
  · -- All parts stand before the end of the file, with the last gap behind them.
    have hle : parts.length ≤ i := Nat.le_of_not_lt hi
    have hnone : (Cursor.tokens ⟨text, .start⟩).length ≤ i := hmeans.length_eq ▸ hle
    simp only [List.getElem?_eq_none hle, List.getElem?_eq_none hnone, List.take_of_length_le hle,
      Option.map_none, Option.getD_none, ← h.text_eq]
    exact ⟨.endOfFile, rfl, fun hne => absurd rfl hne, fun _ => rfl⟩

/-- What `Cursor.reading` gives is a token of the text in the sense of `TokenAt`: it stands where a
lexeme begins, or at the end of the text. -/
theorem exists_tokenAt_reading {text : List Char} {i : Nat}
    (hi : i ≤ (Cursor.tokens ⟨text, .start⟩).length) :
    ∃ front lexeme, TokenAt text front lexeme
      ∧ Position.start.after front = (Cursor.reading ⟨text, .start⟩ i).pos
      ∧ (lexeme = [] ↔ i = (Cursor.tokens ⟨text, .start⟩).length) := by
  obtain ⟨parts, gap, hcut⟩ := exists_decomposes text
  have hstands := hcut.standsAt_reading i
  rw [← (hcut.tokens .start).1.length_eq] at hi ⊢
  refine ⟨_, _, hstands.tokenAt, hstands.pos_eq.symm, ?_⟩
  rcases Nat.lt_or_eq_of_le hi with hlt | heq
  · rw [lexemeOf, List.getElem?_eq_getElem hlt]
    exact iff_of_false (hcut.lexeme_ne_nil _ (List.getElem_mem hlt)) hlt.ne
  · rw [lexemeOf, List.getElem?_eq_none heq.ge]
    exact iff_of_true rfl heq

end Modlet
