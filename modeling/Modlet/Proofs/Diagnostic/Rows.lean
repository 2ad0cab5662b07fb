import Modlet.Proofs.Diagnostic.Caret

/-!
# The rows of a diagnostic

A diagnostic is shown in one row, or in four if there is a line of the source to be shown. This is
so unless the token at fault is a string over several lines: what was found is told with the text of
the string as it is, so the row of the message is broken where the string is.

* `Text.IsInRows`: a text is rows, each of which ends with a line feed.
* `Diagnostic.IsShownInRows`: a diagnostic is one row with its message, or that and three more.
* `Token.StandsAt.count_describe`: only strings are described with line feeds.
* `diagnostic_rows_iff`: which diagnostics are shown in rows, and how many line feeds the others
  have.
-/

namespace Modlet

open Token

/-! ### Rows -/

/-- A text is made of rows: each ends with a line feed and has none in it. -/
def Text.IsInRows (text : String) (rows : List String) : Prop :=
  text = String.join (rows.map (· ++ "\n")) ∧ ∀ row ∈ rows, '\n' ∉ row.toList

/-- A diagnostic is shown by `plain` in rows. The first has the message. If there is a line of the
source, three more stand under it: an empty one up to a bar, one with the number and the line, and
one with a caret behind spaces and tabs. -/
structure Diagnostic.IsShownInRows (d : Diagnostic) : Prop where
  /-- Without a line there is one row. -/
  alone : d.sourceLine = none → Text.IsInRows d.plain ["error: " ++ d.message]
  /-- With a line there are four rows. -/
  framed : ∀ line, d.sourceLine = some line → ∃ margin padding : String,
    (∀ c ∈ margin.toList, c = ' ') ∧ (∀ c ∈ padding.toList, c = ' ' ∨ c = '\t')
      ∧ Text.IsInRows d.plain ["error: " ++ d.message, margin ++ " |",
        d.pos.line.repr ++ " | " ++ line, margin ++ " | " ++ padding ++ "^"]

/-! ### Texts without line feeds -/

theorem Text.lineFeed_not_mem_codePoint (c : Char) : '\n' ∉ codePoint c := by
  rw [codePoint]
  -- The digits are taken off from behind.
  induction c.toNat using Nat.strong_induction_on with
  | _ n ih =>
  rw [Nat.toDigits_eq_if (by decide)]
  split
  · rw [List.mem_singleton]
    exact (Nat.digitChar_ne '\n' rfl).symm
  · next hbig =>
    rw [List.mem_append, List.mem_singleton, not_or]
    exact ⟨ih (n / 16) (by omega), (Nat.digitChar_ne '\n' rfl).symm⟩

/-- What `quotedChar` writes has no line feed, not even if the character is one. -/
theorem Text.lineFeed_not_mem_quotedChar (c : Char) : '\n' ∉ (quotedChar c).toList := by
  have hchar : '\n' ∉ quoteChar '\'' c := by
    unfold quoteChar
    split_ifs with _ _ _ hfeed
    any_goals decide
    · simp [lineFeed_not_mem_codePoint]
    · rw [List.mem_singleton]
      exact Ne.symm hfeed
  simp [quotedChar, quote, hchar]

theorem Expectation.lineFeed_not_mem_name (wanted : Expectation) : '\n' ∉ wanted.name.toList := by
  cases wanted with
  | token kind =>
    cases kind with
    | keyword word => cases word <;> decide
    | _ => decide
  | _ => decide

theorem Position.lineFeed_not_mem_toText (p : Position) : '\n' ∉ p.toText.toList := by
  have hdigits : ∀ n : Nat, '\n' ∉ n.repr.toList := fun n hmem =>
    absurd (Diagnostic.isMargin_repr n '\n' hmem) (by decide)
  have htext : p.toText = p.line.repr ++ ":" ++ p.col.repr := rfl
  rw [htext, String.toList_append, String.toList_append, List.mem_append, List.mem_append, not_or,
    not_or]
  exact ⟨⟨hdigits _, by decide⟩, hdigits _⟩

/-- No line that `nth?` finds has a line feed. -/
theorem Lines.lineFeed_not_mem {text line : List Char} {n : Nat} (h : nth? text n = some line) :
    '\n' ∉ line := by
  -- Lines are pieces between line feeds, some without their last character.
  have hpieces : ∀ pieces : List (List Char), (∀ piece ∈ pieces, '\n' ∉ piece) →
      ∀ line ∈ ofPieces pieces, '\n' ∉ line := by
    intro pieces
    induction pieces using ofPieces.induct with
    | case1 => simp [ofPieces]
    | case2 piece hempty => simp [ofPieces, hempty]
    | case3 piece hfull => simp [ofPieces, hfull]
    | case4 piece more hmore ih =>
      intro hall
      rw [List.forall_mem_cons] at hall
      rw [ofPieces, List.forall_mem_cons]
      · exact ⟨fun hmem => hall.1 (mem_of_mem_dropReturn hmem), ih hall.2⟩
      · exact hmore
  cases n with
  | zero => cases h
  | succ n =>
    exact hpieces _ (fun _ => Text.not_mem_of_mem_pieces) line (List.mem_of_getElem? h)

/-! ### What was found -/

/-- Only strings have line feeds in what they `Means`. Messages on what is invalid quote what they
tell. -/
theorem Means.lineFeed_not_mem {lexeme : List Char} {t : Content} (h : Means lexeme t)
    (hstring : t.1 ≠ .string) : '\n' ∉ t.2.toList := by
  have hdigits : ∀ {text : List Char}, text.all Char.isDigit = true → '\n' ∉ text :=
    fun hall hmem => absurd (List.all_eq_true.mp hall _ hmem) (by decide)
  -- Marks and keywords are finitely many, and words and digits have no line feed. What is left are
  -- the messages on invalid lexemes.
  cases h with
  | @mark kind hmark =>
    revert kind
    decide
  | keyword word => cases word <;> decide
  | identifier hname =>
    intro hmem
    exact absurd (isWordPart_of_isWord hname.1 _ hmem) (by decide)
  | integer _ hall _ =>
    rw [String.toList_ofList]
    exact hdigits hall
  | string => exact absurd rfl hstring
  | outOfRange hall _ =>
    show '\n' ∉ ("integer literal " ++ String.ofList lexeme ++ " out of range").toList
    simp [hdigits hall]
  | unterminated => decide
  | @unexpected c _ =>
    show '\n' ∉ ("unexpected character " ++ Text.quotedChar c).toList
    simp [Text.lineFeed_not_mem_quotedChar c]

/-- A token is told by `describe` with as many line feeds as it has if it is a string, and with none
if it is anything else. -/
theorem Token.StandsAt.count_describe {t : Token} {text front lexeme : List Char}
    (h : t.StandsAt text front lexeme) :
    t.describe.toList.count '\n' = if t.kind = .string then t.text.toList.count '\n' else 0 := by
  have hname : ∀ kind : Kind, kind.name.toList.count '\n' = 0 := fun kind =>
    List.count_eq_zero_of_not_mem (Expectation.token kind).lineFeed_not_mem_name
  by_cases hstring : t.kind = .string
  · simp [describe, hstring]
  · have hwritten : t.text.toList.count '\n' = 0 := by
      refine List.count_eq_zero_of_not_mem ?_
      by_cases hlexeme : lexeme = []
      · have htext : t.text = "" := congrArg Prod.snd (h.endOfFile hlexeme)
        simp [htext]
      · exact (h.means hlexeme).lineFeed_not_mem hstring
    rw [if_neg hstring, describe]
    split <;> simp_all

/-! ### What is shown -/

/-- The line feeds of rows are those at their ends and those in them. -/
theorem Text.count_join (rows : List String) :
    (String.join (rows.map (· ++ "\n"))).toList.count '\n' =
      (rows.map fun row => row.toList.count '\n').sum + rows.length := by
  induction rows with
  | nil => rfl
  | cons row rows ih =>
    have hend : "\n".toList.count '\n' = 1 := rfl
    simp only [List.map_cons, String.join_cons, String.toList_append, List.count_append, hend, ih,
      List.sum_cons, List.length_cons]
    omega

namespace Diagnostic

variable {d : Diagnostic} {line : String}

/-- The rows under the message in `plain`. -/
def rowsUnder (d : Diagnostic) : List String :=
  match d.sourceLine with
  | none => []
  | some line =>
    [gutter d.pos.line ++ " |", d.pos.line.repr ++ " | " ++ line,
      gutter d.pos.line ++ " | " ++ String.ofList (padding line.toList d.pos.col) ++ "^"]

/-- What `plain` shows are a row with the message and `rowsUnder` it, whatever is in them. -/
theorem plain_eq_join (d : Diagnostic) :
    d.plain = String.join ((("error: " ++ d.message) :: d.rowsUnder).map (· ++ "\n")) := by
  cases hline : d.sourceLine with
  | none =>
    have hword : "error: " = "error" ++ ": " := rfl
    simp only [plain, spans, rowsUnder, hline, hword, String.join, List.append_nil, List.map_cons,
      List.map_nil, List.foldl_cons, List.foldl_nil, String.empty_append, String.append_assoc]
  | some line => simp [plain_eq hline, rowsUnder, hline, String.join, String.append_assoc]

/-- None of `rowsUnder` the message has a line feed. -/
theorem lineFeed_not_mem_rowsUnder (hline : ∀ line ∈ d.sourceLine, '\n' ∉ line.toList) :
    ∀ row ∈ d.rowsUnder, '\n' ∉ row.toList := by
  rw [rowsUnder]
  cases hsource : d.sourceLine with
  | none => simp
  | some line =>
    -- Margins are made of spaces and digits.
    have hgutter : '\n' ∉ (gutter d.pos.line).toList := fun hmem =>
      absurd (isMargin_gutter _ _ hmem) (by decide)
    have hnumber : '\n' ∉ d.pos.line.repr.toList := fun hmem =>
      absurd (isMargin_repr _ _ hmem) (by decide)
    have hfeed := hline line hsource
    dsimp only
    rw [List.forall_mem_cons, List.forall_mem_cons, List.forall_mem_singleton]
    simp only [String.toList_append, String.toList_ofList, List.mem_append, not_or]
    exact ⟨⟨hgutter, by decide⟩, ⟨⟨hnumber, by decide⟩, hfeed⟩,
      ⟨⟨hgutter, by decide⟩, not_mem_padding _ _⟩, by decide⟩

/-- What `plain` shows has a line feed behind each of its rows, and those of its message. -/
theorem count_plain (hline : ∀ line ∈ d.sourceLine, '\n' ∉ line.toList) :
    d.plain.toList.count '\n' =
      d.message.toList.count '\n' + if d.sourceLine.isSome then 4 else 1 := by
  have hunder : (d.rowsUnder.map fun row => row.toList.count '\n').sum = 0 := by
    refine List.sum_eq_zero fun n hn => ?_
    obtain ⟨row, hrow, rfl⟩ := List.mem_map.mp hn
    exact List.count_eq_zero_of_not_mem (lineFeed_not_mem_rowsUnder hline row hrow)
  have hlength : d.rowsUnder.length + 1 = if d.sourceLine.isSome then 4 else 1 := by
    rw [rowsUnder]
    cases d.sourceLine <;> rfl
  have hword : "error: ".toList.count '\n' = 0 := rfl
  rw [plain_eq_join, Text.count_join, List.map_cons, List.sum_cons, hunder, List.length_cons,
    hlength, String.toList_append, List.count_append, hword]
  omega

/-- A diagnostic `IsShownInRows` exactly if its message has no line feed. -/
theorem isShownInRows_iff (hline : ∀ line ∈ d.sourceLine, '\n' ∉ line.toList) :
    d.IsShownInRows ↔ '\n' ∉ d.message.toList := by
  -- The first row adds only a word without line feeds to the message.
  have hfirst : '\n' ∉ ("error: " ++ d.message).toList ↔ '\n' ∉ d.message.toList := by
    rw [String.toList_append, List.mem_append]
    exact not_congr (or_iff_right (by decide))
  constructor
  · intro h
    rw [← hfirst]
    cases hsource : d.sourceLine with
    | none => exact (h.alone hsource).2 _ List.mem_cons_self
    | some line =>
      obtain ⟨_, _, -, -, hrows⟩ := h.framed line hsource
      exact hrows.2 _ List.mem_cons_self
  · intro hmessage
    have hrows : Text.IsInRows d.plain (("error: " ++ d.message) :: d.rowsUnder) :=
      ⟨plain_eq_join d, List.forall_mem_cons.mpr
        ⟨hfirst.mpr hmessage, lineFeed_not_mem_rowsUnder hline⟩⟩
    refine ⟨fun hsource => ?_, fun line hsource => ?_⟩
    · rwa [rowsUnder, hsource] at hrows
    · rw [rowsUnder, hsource] at hrows
      refine ⟨_, _, fun c hc => ?_, fun c hc => ?_, hrows⟩
      · rw [gutter, String.toList_ofList] at hc
        exact List.eq_of_mem_replicate hc
      · rw [String.toList_ofList, padding, List.mem_map] at hc
        obtain ⟨b, -, rfl⟩ := hc
        by_cases htab : b = '\t' <;> simp [htab]

/-- The line of the source that `ofError` keeps has no line feed. -/
theorem lineFeed_not_mem_sourceLine (e : SourceError) (source : String) :
    ∀ line ∈ (ofError e source).sourceLine, '\n' ∉ line.toList := by
  intro line hline
  obtain ⟨text, htext, rfl⟩ := Option.map_eq_some_iff.mp (Option.mem_def.mp hline)
  rw [String.toList_ofList]
  exact Lines.lineFeed_not_mem htext

end Diagnostic

/-- The message of an error tells of the token at fault, and has the line feeds of `describe`. -/
theorem exists_found_of_error {file source : String} {e : SourceError}
    (h : Module.parse file source = .error e) :
    e.file = file ∧ ∃ (front lexeme : List Char) (found : Token),
      found.StandsAt source.toList front lexeme
      ∧ e.pos = found.pos
      ∧ e.message.toList.count '\n' = found.describe.toList.count '\n' := by
  obtain ⟨ts, last, hread, ⟨program, hok, -⟩ | ⟨wanted, hfault, -⟩⟩ := Module.read_cases source
  · rw [Module.parse, hok] at h
    cases h
  · rw [Module.parse, hfault] at h
    obtain rfl := Except.error.inj h
    obtain ⟨parts, gap, hcut⟩ := exists_decomposes source.toList
    have hcurrent := hread.passes.current_eq_reading (Reader.shows_ofSource source)
    refine ⟨rfl, _, _, last.current, hcurrent ▸ hcut.standsAt_reading ts.length, rfl, ?_⟩
    -- What is around the description of the token has no line feeds.
    have hwanted := List.count_eq_zero_of_not_mem wanted.lineFeed_not_mem_name
    have hbefore : "expected ".toList.count '\n' = 0 := rfl
    have hbetween : ", found ".toList.count '\n' = 0 := rfl
    rw [SourceError.ofFault, Fault.message_unexpected]
    simp only [String.toList_append, List.count_append, hwanted, hbefore, hbetween, Nat.zero_add]

/-- The diagnostic of an error that `Module.parse` gives is shown as `IsShownInRows` says exactly if
the token at fault is no string with a line feed: in one row, with the file, the place and the
message, if there is no line of the source, and else in four. Each line feed of such a string breaks
the first row once more. -/
theorem diagnostic_rows_iff {file source : String} {e : SourceError} (hfile : '\n' ∉ file.toList)
    (h : Module.parse file source = .error e) :
    (Diagnostic.ofError e source).message =
        file ++ ":" ++ e.pos.line.repr ++ ":" ++ e.pos.col.repr ++ " " ++ e.message
      ∧ ∃ (front lexeme : List Char) (found : Token),
        found.StandsAt source.toList front lexeme
        ∧ e.pos = found.pos
        ∧ ((Diagnostic.ofError e source).IsShownInRows ↔
            (found.kind = .string → '\n' ∉ found.text.toList))
        ∧ (Diagnostic.ofError e source).plain.toList.count '\n' =
            (if found.kind = .string then found.text.toList.count '\n' else 0)
              + if (Diagnostic.ofError e source).sourceLine.isSome then 4 else 1 := by
  obtain ⟨rfl, front, lexeme, found, hstands, hpos, hcount⟩ := exists_found_of_error h
  have hmessage : (Diagnostic.ofError e source).message =
      e.file ++ ":" ++ e.pos.toText ++ " " ++ e.message := rfl
  have hline := Diagnostic.lineFeed_not_mem_sourceLine e source
  -- The file and the place have no line feeds, so those of the message are those of its last part.
  have hfeeds : (Diagnostic.ofError e source).message.toList.count '\n' =
      if found.kind = .string then found.text.toList.count '\n' else 0 := by
    have hplace := List.count_eq_zero_of_not_mem e.pos.lineFeed_not_mem_toText
    have hcolon : ":".toList.count '\n' = 0 := rfl
    have hspace : " ".toList.count '\n' = 0 := rfl
    rw [← hstands.count_describe, ← hcount, hmessage]
    simp only [String.toList_append, List.count_append, List.count_eq_zero_of_not_mem hfile,
      hplace, hcolon, hspace, Nat.zero_add]
  refine ⟨?_, front, lexeme, found, hstands, hpos, ?_, ?_⟩
  · have hplace : e.pos.toText = e.pos.line.repr ++ ":" ++ e.pos.col.repr := rfl
    rw [hmessage, hplace]
    simp only [String.append_assoc]
  · rw [Diagnostic.isShownInRows_iff hline, ← List.count_eq_zero, hfeeds]
    split
    · next hstring => rw [List.count_eq_zero, imp_iff_right hstring]
    · next hstring => exact iff_of_true rfl fun hfound => absurd hfound hstring
  · rw [Diagnostic.count_plain hline, hfeeds]

/-- A string is found where a comma is missing, on a line of its own. -/
theorem diagnostic_rows_iff_string :
    '\n' ∉ "m".toList
      ∧ Module.parse "m" "module a;\nf(1\n\"b\");" =
        .error ⟨"expected `)`, found string \"b\"", "m", ⟨3, 1⟩⟩
      ∧ ∃ (front lexeme : List Char) (found : Token),
        found.StandsAt "module a;\nf(1\n\"b\");".toList front lexeme
        ∧ ⟨3, 1⟩ = found.pos
        ∧ ((Diagnostic.ofError ⟨"expected `)`, found string \"b\"", "m", ⟨3, 1⟩⟩
            "module a;\nf(1\n\"b\");").IsShownInRows ↔
          (found.kind = .string → '\n' ∉ found.text.toList)) := by
  have herror : Module.parse "m" "module a;\nf(1\n\"b\");" =
      .error ⟨"expected `)`, found string \"b\"", "m", ⟨3, 1⟩⟩ := by cbv
  obtain ⟨-, front, lexeme, found, hstands, hpos, hrows, -⟩ :=
    diagnostic_rows_iff (by decide) herror
  exact ⟨by decide, herror, front, lexeme, found, hstands, hpos, hrows⟩

/-- A string over two lines in the place of a name is shown in five rows. -/
theorem diagnostic_broken_row :
    Module.parse "m" "module \"a\nb\";" =
        .error ⟨"expected identifier, found string \"a\nb\"", "m", ⟨1, 8⟩⟩
      ∧ (Diagnostic.ofError ⟨"expected identifier, found string \"a\nb\"", "m", ⟨1, 8⟩⟩
          "module \"a\nb\";").plain =
        "error: m:1:8 expected identifier, found string \"a\nb\"\n"
          ++ "  |\n1 | module \"a\n  |        ^\n"
      ∧ ¬(Diagnostic.ofError ⟨"expected identifier, found string \"a\nb\"", "m", ⟨1, 8⟩⟩
          "module \"a\nb\";").IsShownInRows := by
  refine ⟨by cbv, by cbv, ?_⟩
  rw [Diagnostic.isShownInRows_iff (Diagnostic.lineFeed_not_mem_sourceLine _ _), not_not]
  decide

end Modlet
