import Modlet.Diagnostic.Render
import Modlet.Proofs.Program.Contents
import Modlet.Proofs.Source.Lines

/-!
# Carets point at tokens

The line that a diagnostic shows is the one around the token at fault, and the caret under it stands
below the first character of that token. No line is shown for the end of a file that has no
character on its last line.

* `Diagnostic.IsDrawn`: what a shown line looks like, with a caret under a place of it.
* `Diagnostic.exists_isDrawn`: every diagnostic with a line is drawn like that.
* `Diagnostic.PointsAt`: a diagnostic points at a token of the source.
* `diagnostic_pointsAt`: the diagnostic of an error points at the token at fault.
-/

namespace Modlet

open Token

namespace Diagnostic

/-! ### What is drawn -/

/-- Under its message a diagnostic shows a line of the source in three rows, which all have a bar in
the same column `bar` and leave one more column free behind that. The line itself stands in the
second row, and in the third one a caret stands under the place of the diagnostic. -/
structure IsDrawn (d : Diagnostic) (line top middle bottom : String) (bar : Nat) : Prop where
  /-- The rows stand under the message. -/
  plain_eq : d.plain =
    "error: " ++ d.message ++ "\n" ++ top ++ "\n" ++ middle ++ "\n" ++ bottom ++ "\n"
  /-- Each is a single row, and its first bar is in the same column. -/
  bars : ∀ row ∈ [top, middle, bottom], '\n' ∉ row.toList ∧ row.toList.idxOf? '|' = some bar
  /-- The second row shows the line. -/
  shown : ∀ i, middle.toList[bar + 2 + i]? = line.toList[i]?
  /-- The caret stands under the place. -/
  caret : bottom.toList[bar + 2 + (d.pos.col - 1)]? = some '^'
  /-- Nothing stands behind the caret. -/
  caret_last : bottom.toList.length = bar + 2 + d.pos.col
  /-- Under the characters before the place there are spaces, and tabs under tabs. -/
  before : ∀ i < d.pos.col - 1, bottom.toList[bar + 2 + i]? =
    line.toList[i]?.map fun c => if c = '\t' then '\t' else ' '

/-- A diagnostic with a line is shown by `plain` in parts, one for each row. -/
theorem plain_eq {d : Diagnostic} {line : String} (h : d.sourceLine = some line) :
    d.plain =
      "error: " ++ d.message ++ "\n" ++ (gutter d.pos.line ++ " |") ++ "\n"
        ++ (d.pos.line.repr ++ " | " ++ line) ++ "\n"
        ++ (gutter d.pos.line ++ " | " ++ String.ofList (padding line.toList d.pos.col) ++ "^")
        ++ "\n" := by
  have herror : "error" ++ ": " = "error: " := rfl
  rw [← herror]
  simp only [plain, spans, h, String.join, List.cons_append, List.nil_append, List.map_cons,
    List.map_nil, List.foldl_cons, List.foldl_nil, String.empty_append, String.append_assoc]
  rfl

/-- A row of what is shown: a margin, a bar behind a space, and what stands behind the bar. -/
def row (margin behind : List Char) : List Char := margin ++ [' '] ++ '|' :: behind

/-- A margin is made of spaces and digits. -/
def IsMargin (margin : List Char) : Prop := ∀ c ∈ margin, c = ' ' ∨ c.isDigit = true

theorem isMargin_gutter (n : Nat) : IsMargin (gutter n).toList := by
  intro c hc
  rw [gutter, String.toList_ofList] at hc
  exact .inl (List.eq_of_mem_replicate hc)

theorem isMargin_repr (n : Nat) : IsMargin n.repr.toList := by
  intro c hc
  rw [Nat.toList_repr] at hc
  exact .inr (Nat.isDigit_of_mem_toDigits (by decide) (by decide) hc)

/-- The number of a line is as wide as the `gutter` of the rows around it. -/
theorem length_gutter (n : Nat) : (gutter n).toList.length = n.repr.toList.length := by
  rw [gutter, String.toList_ofList, List.length_replicate, String.length_toList]

/-- The first bar of a `row` stands behind its margin. -/
theorem idxOf?_row {margin : List Char} (h : IsMargin margin) (behind : List Char) :
    (row margin behind).idxOf? '|' = some (margin.length + 1) := by
  rw [List.idxOf?_eq_some_iff]
  refine ⟨by simp [row], by simp [row], fun j hj hbar => ?_⟩
  have hmargin : j < (margin ++ [' ']).length := by simpa using hj
  have hsome : (row margin behind)[j]? = some '|' := hbar ▸ List.getElem?_eq_getElem _
  rw [row, List.getElem?_append_left hmargin] at hsome
  rcases List.mem_append.mp (List.mem_of_getElem? hsome) with hmem | hmem
  · exact absurd (h '|' hmem) (by decide)
  · exact absurd (List.mem_singleton.mp hmem) (by decide)

/-- A `row` is a single one if what stands behind its bar is. -/
theorem not_mem_row {margin behind : List Char} (h : IsMargin margin) (hbehind : '\n' ∉ behind) :
    '\n' ∉ row margin behind := by
  have hmargin : '\n' ∉ margin := fun hmem => absurd (h '\n' hmem) (by decide)
  simp [row, hmargin, hbehind]

/-- One column behind the bar stands the text of the `row`. -/
theorem getElem?_row (margin text : List Char) (i : Nat) :
    (row margin (' ' :: text))[margin.length + 1 + 2 + i]? = text[i]? := by
  rw [row, List.getElem?_append_right (by simp; omega)]
  have hindex : margin.length + 1 + 2 + i - (margin ++ [' ']).length = i + 2 := by
    simp
    omega
  rw [hindex, List.getElem?_cons_succ, List.getElem?_cons_succ]

/-- Under the characters of a line `padding` has spaces and tabs. -/
theorem not_mem_padding (text : List Char) (col : Nat) : '\n' ∉ padding text col := by
  rw [padding, List.mem_map]
  rintro ⟨c, -, hc⟩
  split at hc <;> cases hc

/-- A diagnostic with a line `IsDrawn` with a caret under its place, if that is on the line or
directly behind it. -/
theorem exists_isDrawn {d : Diagnostic} {line : String} (h : d.sourceLine = some line)
    (hline : '\n' ∉ line.toList) (hpos : 1 ≤ d.pos.col)
    (hcol : d.pos.col - 1 ≤ line.toList.length) :
    ∃ top middle bottom bar, d.IsDrawn line top middle bottom bar := by
  have hlength : (padding line.toList d.pos.col).length = d.pos.col - 1 := by
    simp [padding, hcol]
  have hgutter := isMargin_gutter d.pos.line
  have hnumber := isMargin_repr d.pos.line
  have hwidth := length_gutter d.pos.line
  -- Each of the three rows is a `row` whose margin is as wide as the number of the line.
  have htop : (gutter d.pos.line ++ " |").toList = row (gutter d.pos.line).toList [] := by
    simp [row]
  have hmiddle : (d.pos.line.repr ++ " | " ++ line).toList =
      row d.pos.line.repr.toList (' ' :: line.toList) := by
    simp [row]
  have hbottom : (gutter d.pos.line ++ " | "
        ++ String.ofList (padding line.toList d.pos.col) ++ "^").toList =
      row (gutter d.pos.line).toList (' ' :: (padding line.toList d.pos.col ++ ['^'])) := by
    simp [row]
  refine ⟨_, _, _, (gutter d.pos.line).toList.length + 1, plain_eq h, ?_, fun i => ?_, ?_, ?_,
    fun i hi => ?_⟩
  · rw [List.forall_mem_cons, List.forall_mem_cons, List.forall_mem_singleton, htop, hmiddle,
      hbottom]
    refine ⟨⟨not_mem_row hgutter (by simp), idxOf?_row hgutter _⟩,
      ⟨not_mem_row hnumber (by simp [hline]), ?_⟩,
      ⟨not_mem_row hgutter (by simp [not_mem_padding]), idxOf?_row hgutter _⟩⟩
    rw [hwidth]
    exact idxOf?_row hnumber _
  · rw [hmiddle, hwidth, getElem?_row]
  · -- The caret stands behind as many characters as there are before the place.
    rw [hbottom, getElem?_row, List.getElem?_append_right hlength.le, hlength, Nat.sub_self]
    rfl
  · rw [hbottom]
    simp [row, hlength]
    omega
  · rw [hbottom, getElem?_row, List.getElem?_append_left (hlength ▸ hi), padding,
      List.getElem?_map, List.getElem?_take_of_lt hi]

/-! ### What is pointed at -/

/-- A diagnostic shows a line of a text with a caret under the given token, of which what stands
before it and its lexeme are given. The rows of `IsDrawn` say where that is. -/
structure Shows (d : Diagnostic) (text front lexeme : List Char) (line : String) : Prop where
  /-- The line is the one around the place where the token begins. -/
  around : Lines.IsLineAround text front line.toList
  /-- Columns are counted from one. -/
  col_pos : 1 ≤ d.pos.col
  /-- The place is on the line, or directly behind it. -/
  col_le : d.pos.col - 1 ≤ line.toList.length
  /-- The first character of the token stands there. -/
  first : line.toList[d.pos.col - 1]? = lexeme.head?
  /-- The end of the file stands behind the line. -/
  behind : lexeme = [] → d.pos.col - 1 = line.toList.length
  /-- The line is drawn with a caret under the place. -/
  drawn : ∃ top middle bottom bar, d.IsDrawn line top middle bottom bar

/-- A diagnostic points at a token of a source, of which what stands before it and its lexeme are
given: the line that it `Shows` is the one around the token, if there is one. -/
structure PointsAt (d : Diagnostic) (source : String) (front lexeme : List Char) : Prop where
  /-- The token is one of the source, or the end of the file. -/
  token : TokenAt source.toList front lexeme
  /-- It begins at the place of the diagnostic. -/
  place : Position.start.after front = d.pos
  /-- No other token begins there. -/
  unique : ∀ front' lexeme', TokenAt source.toList front' lexeme' →
    Position.start.after front' = d.pos → front' = front ∧ lexeme' = lexeme
  /-- There is no line to be shown if and only if the token is the end of the file, and the file is
  empty or ends with a line feed. -/
  absent : d.sourceLine = none ↔ lexeme = [] ∧ EndsLine source.toList
  /-- The line that is shown has a caret under the token. -/
  shows : ∀ line, d.sourceLine = some line → d.Shows source.toList front lexeme line

/-- The line of `ofError` is the one that `IsCutAround` its place leaves. -/
theorem sourceLine_eq {e : SourceError} {source : String} {above head tail below : List Char}
    (hcut : IsCutAround above head tail below)
    (htext : source.toList = above ++ (head ++ tail ++ below))
    (hpos : e.pos = ⟨1 + above.count '\n', 1 + head.length⟩) :
    (ofError e source).sourceLine =
      (if below = [] then (if head ++ tail = [] then none else some (head ++ tail))
        else some (Lines.dropReturn (head ++ tail))).map String.ofList := by
  rw [ofError, htext, hpos, hcut.nth?_eq]

/-- The line that `IsCutAround` leaves is shown with a caret at the cut. -/
theorem shows_of_cut {e : SourceError} {source line : String} {above head tail below : List Char}
    (hcut : IsCutAround above head tail below)
    (htext : source.toList = above ++ (head ++ tail ++ below))
    (hpos : e.pos = ⟨1 + above.count '\n', 1 + head.length⟩)
    (hline : line.toList = if below = [] then head ++ tail else Lines.dropReturn (head ++ tail))
    (hsome : (ofError e source).sourceLine = some line) {lexeme : List Char}
    (hle : head.length ≤ line.toList.length) (hfirst : line.toList[head.length]? = lexeme.head?) :
    (ofError e source).Shows source.toList (above ++ head) lexeme line := by
  -- The column counts from one, so `head` is what stands before it.
  have hcol : (ofError e source).pos.col - 1 = head.length := by
    rw [ofError, hpos]
    exact Nat.add_sub_cancel_left 1 head.length
  have hcol_pos : 1 ≤ (ofError e source).pos.col := by
    rw [ofError, hpos]
    exact Nat.le_add_right 1 head.length
  -- No line feed stands on either side of the cut.
  have hfeed : '\n' ∉ line.toList := by
    have hwhole : '\n' ∉ head ++ tail := by simp [hcut.head_line, hcut.tail_line]
    rw [hline]
    split
    · exact hwhole
    · exact fun hmem => hwhole (Lines.mem_of_mem_dropReturn hmem)
  refine ⟨⟨above, head, tail, below, hcut, htext, rfl, hline⟩, hcol_pos, ?_, ?_, ?_,
    exists_isDrawn hsome hfeed hcol_pos ?_⟩
  · rwa [hcol]
  · rwa [hcol]
  · rintro rfl
    rw [hcol]
    exact Nat.le_antisymm hle (List.getElem?_eq_none_iff.mp hfirst)
  · rwa [hcol]

/-- Where the end of the file is at fault, there is a line unless the file `EndsLine`, and the place
is directly behind it. -/
theorem shows_endOfFile {e : SourceError} {source : String}
    (hpos : Position.start.after source.toList = e.pos) :
    ((ofError e source).sourceLine = none ↔ EndsLine source.toList)
      ∧ ∀ line, (ofError e source).sourceLine = some line →
          (ofError e source).Shows source.toList source.toList [] line := by
  -- Nothing stands behind the place, so the cut has only what is above it and before it.
  obtain ⟨above, head, tail, below, hcut, hfront, hbehind⟩ := exists_isCutAround source.toList []
  obtain ⟨rfl, rfl⟩ := List.append_eq_nil_iff.mp hbehind.symm
  have htext : source.toList = above ++ (head ++ [] ++ []) := by simpa using hfront
  have hplace : e.pos = ⟨1 + above.count '\n', 1 + head.length⟩ := by
    rw [← hpos, hfront, hcut.after_eq]
  have hsource := sourceLine_eq hcut htext hplace
  rw [if_pos rfl, List.append_nil] at hsource
  -- A line is shown unless nothing stands on it.
  by_cases hhead : head = []
  · rw [if_pos hhead] at hsource
    refine ⟨iff_of_true hsource ?_, fun line hline => ?_⟩
    · rw [hfront, hhead, List.append_nil]
      exact hcut.above_ends
    · rw [hsource] at hline
      cases hline
  · rw [if_neg hhead] at hsource
    refine ⟨iff_of_false (by simp [hsource]) fun hends => ?_, fun line hline => ?_⟩
    · -- The last character would be a line feed on the line of the place.
      have hlast := List.getLast?_eq_some_getLast hhead
      have hmem : head.getLast hhead = '\n' := hends _ (by
        rw [hfront, List.getLast?_append, hlast]
        rfl)
      exact hcut.head_line (hmem ▸ List.getLast_mem hhead)
    · obtain rfl : String.ofList head = line := by simpa [hsource] using hline
      have hshows := @shows_of_cut _ _ _ _ _ _ _ hcut htext hplace (by simp) hline [] (by simp)
        (by simp)
      rwa [← hfront] at hshows

/-- Where a lexeme is at fault, there is a line that the diagnostic `Shows`, and the lexeme begins
at the place. -/
theorem shows_lexeme {e : SourceError} {source : String} {front more rest : List Char} {c : Char}
    (htext : source.toList = front ++ (c :: more ++ rest)) (hc : isSpacing c = false)
    (hpos : Position.start.after front = e.pos) :
    ∃ line, (ofError e source).sourceLine = some line
      ∧ (ofError e source).Shows source.toList front (c :: more) line := by
  obtain ⟨above, head, tail, below, hcut, rfl, hbehind⟩ :=
    exists_isCutAround front (c :: more ++ rest)
  have hne : c ≠ '\n' ∧ c ≠ '\r' := by
    constructor <;> (rintro rfl; exact absurd hc (by decide))
  -- The character is no line feed, so it is on the line and not below it.
  obtain ⟨tail, rfl⟩ : ∃ others, tail = c :: others := by
    cases tail with
    | nil =>
      rw [List.nil_append] at hbehind
      exact absurd (hcut.below_begins c (by rw [← hbehind]; rfl)) hne.1
    | cons d tail =>
      obtain ⟨rfl, -⟩ := List.cons.inj hbehind
      exact ⟨tail, rfl⟩
  have hsplit : source.toList = above ++ (head ++ c :: tail ++ below) := by
    rw [htext, hbehind, List.append_assoc, List.append_assoc]
  have hplace : e.pos = ⟨1 + above.count '\n', 1 + head.length⟩ := by
    rw [← hpos, hcut.after_eq]
  have hchar : (head ++ c :: tail)[head.length]? = some c := by simp
  generalize hshown : (if below = [] then head ++ c :: tail
    else Lines.dropReturn (head ++ c :: tail)) = shown
  -- A carriage return that the line loses is not the character that the lexeme begins with.
  have hfirst : shown[head.length]? = some c := by
    rw [← hshown]
    split
    · exact hchar
    · exact Lines.getElem?_dropReturn hchar hne.2
  have hsome : (ofError e source).sourceLine = some (String.ofList shown) := by
    rw [sourceLine_eq hcut hsplit hplace, ← hshown]
    split <;> simp
  refine ⟨String.ofList shown, hsome, shows_of_cut hcut hsplit hplace ?_ hsome ?_ ?_⟩
  · rw [String.toList_ofList, hshown]
  · rw [String.toList_ofList]
    exact (List.getElem?_eq_some_iff.mp hfirst).1.le
  · rw [String.toList_ofList, hfirst]
    rfl

end Diagnostic

/-- The diagnostic of an error of `Module.parse` points at the token at fault: for that token it
`PointsAt` the line and the column, or tells that there is no line. -/
theorem diagnostic_pointsAt {file source : String} {e : SourceError}
    (h : Module.parse file source = .error e) :
    ∃ front lexeme, (Diagnostic.ofError e source).PointsAt source front lexeme := by
  obtain ⟨i, hi, hpos⟩ : ∃ i ≤ (tokensOf source).length,
      ((Cursor.ofSource source).reading i).pos = e.pos := by
    rw [Module.parse] at h
    cases hread : Module.read source with
    | ok program stop => simp [hread] at h
    | error fault stop =>
      rw [hread] at h
      obtain ⟨i, hi, htoken⟩ := Module.exists_reading_of_fault hread
      refine ⟨i, by omega, ?_⟩
      rw [← htoken, ← Except.error.inj h, SourceError.ofFault]
  obtain ⟨front, lexeme, hat, hfront, -⟩ := exists_tokenAt_reading hi
  have hplace : Position.start.after front = e.pos := hfront.trans hpos
  have hunique : ∀ front' lexeme', TokenAt source.toList front' lexeme' →
      Position.start.after front' = e.pos → front' = front ∧ lexeme' = lexeme :=
    fun _ _ hat' hpos' => hat'.unique hat (hpos'.trans hplace.symm)
  -- The end of the file is the only token without a character, and there may be no line for it.
  cases lexeme with
  | nil =>
    obtain rfl := hat.front_eq
    obtain ⟨habsent, hshows⟩ := Diagnostic.shows_endOfFile hplace
    exact ⟨_, _, hat, hplace, hunique, by simpa using habsent, hshows⟩
  | cons c more =>
    obtain ⟨rest, htext⟩ := hat.isPrefix
    obtain ⟨line, hsome, hshows⟩ := Diagnostic.shows_lexeme
      (by rw [← htext, List.append_assoc]) (hat.isSpacing_head c rfl) hplace
    refine ⟨_, _, hat, hplace, hunique, by simp [hsome], fun line' hline' => ?_⟩
    rw [hsome] at hline'
    cases hline'
    exact hshows

/-- A comma is missing on a line that begins with a tab and ends with a carriage return. -/
theorem diagnostic_pointsAt_tab :
    Module.parse "m" "module a;\r\n\tf(1 2);\r\n" =
        .error ⟨"expected `)`, found integer `2`", "m", ⟨2, 6⟩⟩
      ∧ ∃ front lexeme,
        (Diagnostic.ofError ⟨"expected `)`, found integer `2`", "m", ⟨2, 6⟩⟩
          "module a;\r\n\tf(1 2);\r\n").PointsAt "module a;\r\n\tf(1 2);\r\n" front lexeme := by
  have herror : Module.parse "m" "module a;\r\n\tf(1 2);\r\n" =
      .error ⟨"expected `)`, found integer `2`", "m", ⟨2, 6⟩⟩ := by cbv
  exact ⟨herror, diagnostic_pointsAt herror⟩

/-- What is drawn for that error. -/
example : (Diagnostic.ofError ⟨"expected `)`, found integer `2`", "m", ⟨2, 6⟩⟩
    "module a;\r\n\tf(1 2);\r\n").plain =
      "error: m:2:6 expected `)`, found integer `2`\n  |\n2 | \tf(1 2);\n  | \t    ^\n" := by
  cbv

end Modlet
