import Modlet.Proofs.Token.Places
import Modlet.Source.Counters

/-!
# Places are exact

The place of a token is counted along with reading. Here it is told from the text before the token
alone: its line by the line feeds in that text, and its column by the characters behind the last of
them. Counting in 32 bits comes to the same places, as long as the source is not huge.

* `Position.after_eq`: the place behind a text, from the characters of the text.
* `reading_pos_exact`: the place of every token of a source, and of the end of the file.
-/

namespace Modlet

/-- The place behind a text, without the recursion of `Position.after`. Its line is told by the line
feeds in the text, its column by the characters behind the last of them. -/
theorem Position.after_eq (text : List Char) :
    start.after text = ⟨1 + text.count '\n', 1 + (text.rtakeWhile (· ≠ '\n')).length⟩ := by
  induction text using List.reverseRecOn with
  | nil => rfl
  | append_singleton text c ih =>
    rw [after_append, ih, after_cons, after_nil, step, List.rtakeWhile_concat, List.count_append]
    by_cases hc : c = '\n'
    · subst hc
      simp [Nat.add_assoc]
    · simp [hc, Nat.add_assoc]

/-- Every beginning of a source that is not huge is counted in 32 bits: `after?` meets no overflow,
and its counters have the `Position.after` of that text as their place. -/
theorem Counters.after?_start {text : List Char} (h : text.length < 2 ^ 32 - 1) :
    ∃ last, start.after? text = some last ∧ last.place = Position.start.after text := by
  refine exists_after?_eq (k := start) (by decide) (by decide) ?_
  have hplace : start.place.line + start.place.col = 2 := rfl
  have hsize : UInt32.size = 2 ^ 32 := rfl
  omega

/-- Behind the last lexeme `frontOf` is the whole text. -/
theorem Decomposes.frontOf_of_le {text gap : List Char} {parts : List Part}
    (h : Decomposes text parts gap) {i : Nat} (hi : parts.length ≤ i) :
    frontOf parts gap i = text := by
  rw [frontOf, List.take_of_length_le hi, List.getElem?_eq_none hi, Option.map_none,
    Option.getD_none, h.text_eq]

/-- A cut of a source tells the places of all that `Cursor.reading` gives, one reading after the
other. -/
structure TellsPlaces (source : String) (parts : List Part) (gap : List Char) : Prop where
  /-- The source is cut into the longest pieces. -/
  cut : Decomposes source.toList parts gap
  /-- The reading with a number gives the token of the lexeme with that number. -/
  token : ∀ i, ((Cursor.ofSource source).reading i).StandsAt source.toList
    (frontOf parts gap i) (lexemeOf parts i)
  /-- Its line is told by the line feeds before the lexeme, its column by the characters behind the
  last of them. -/
  place : ∀ i, ((Cursor.ofSource source).reading i).pos =
    ⟨1 + (frontOf parts gap i).count '\n',
      1 + ((frontOf parts gap i).rtakeWhile (· ≠ '\n')).length⟩
  /-- Behind the last token stands the end of the file, again and again, with the whole source
  before it. -/
  endOfFile : ∀ i, (tokensOf source).length ≤ i →
    ((Cursor.ofSource source).reading i).kind = .endOfFile ∧ frontOf parts gap i = source.toList
  /-- No addition overflows 32 bits anywhere in the source. -/
  counted : ∀ front, front <+: source.toList →
    ∃ last, Counters.start.after? front = some last ∧ last.place = Position.start.after front
  /-- Each token stands behind those before it. -/
  ordered : ∀ i j, i < j → j < (tokensOf source).length →
    ((Cursor.ofSource source).reading i).pos.Before ((Cursor.ofSource source).reading j).pos

/-- Places are exact. Every source below 2³² - 1 characters has a cut in the sense of `Decomposes`
that `TellsPlaces`: `Cursor.reading` number `i` gives the token of the lexeme with the number `i`,
or behind the last lexeme the end of the file. Its place is told by the text before it alone, and
the 32 bits of `Counters` hold it. -/
theorem reading_pos_exact {source : String} (h : source.length < 2 ^ 32 - 1) :
    ∃ parts gap, TellsPlaces source parts gap := by
  obtain ⟨parts, gap, hcut⟩ := exists_decomposes source.toList
  have hlength : parts.length = (tokensOf source).length := (hcut.tokens .start).1.length_eq
  have hstands := fun i => hcut.standsAt_reading i
  refine ⟨parts, gap, hcut, hstands, fun i => ?_, fun i hi => ⟨?_, ?_⟩, fun front hfront => ?_,
    fun i j hij hj => Cursor.reading_before hij hj.le⟩
  · rw [← Position.after_eq]
    exact (hstands i).pos_eq
  · rw [Cursor.reading_eq, ← tokensOf, List.getElem?_eq_none hi]
    rfl
  · exact hcut.frontOf_of_le (hlength ▸ hi)
  · refine Counters.after?_start (Nat.lt_of_le_of_lt hfront.length_le ?_)
    rwa [String.length_toList]

/-- A string over two lines, a tab, and a comment that the end of the file ends. -/
theorem reading_pos_exact_lines :
    "let \"a\né\" x\t>=\r\n// \"".length < 2 ^ 32 - 1
      ∧ ∃ parts gap, TellsPlaces "let \"a\né\" x\t>=\r\n// \"" parts gap := by
  have hlength : "let \"a\né\" x\t>=\r\n// \"".length < 2 ^ 32 - 1 := by cbv
  exact ⟨hlength, reading_pos_exact hlength⟩

/-- The places in that source. -/
example : (tokensOf "let \"a\né\" x\t>=\r\n// \"").map Token.pos =
    [⟨1, 1⟩, ⟨1, 5⟩, ⟨2, 4⟩, ⟨2, 6⟩] := by
  cbv

end Modlet
