import Modlet.CText.Generate
import Modlet.Proofs.Token.Scanning

/-!
# Laid-out words stay apart

The words of a C text are written with blanks between them, and no word holds a blank or a quotation
mark, unless it is a string, which ends with its second mark. So the text tells where its words
begin and end, and that holds whatever strings contain.

* `IsWhole`: words that end by themselves or with the next blank.
* `Piece.IsPlain`: whole words and ends of lines.
* `layout_injective`: plain pieces are told by the text that they are laid out as.
* `IsSpaced`: spaces stand one by one between characters that are no blanks, unless in a string.
* `isSpaced_layout`: plain pieces are laid out in this way.
* `ofModule_eq`: the C text of a module is its banner and what is laid out behind it.
-/

namespace Modlet.CText

/-! ### Whole words -/

/-- A word without blanks and quotation marks, or a string. Such a word can be found again in what
`layout` makes of it. -/
inductive IsWhole : List Char → Prop
  | solid {text : List Char} :
      text ≠ [] → (∀ c ∈ text, isBlank c = false ∧ c ≠ '"') → IsWhole text
  | quoted {body : List Char} : '"' ∉ body → IsWhole ('"' :: body ++ ['"'])

/-- What only separates tokens is blank: `isSpacing` implies `isBlank`. -/
theorem isBlank_of_isSpacing {c : Char} (h : isSpacing c = true) : isBlank c = true := by
  simp only [isSpacing, Bool.or_eq_true, decide_eq_true_eq] at h
  rcases h with ((rfl | rfl) | rfl) | rfl <;> decide

namespace IsWhole

variable {text text' behind behind' : List Char}

/-- Whether a text without blanks and quotation marks `IsWhole` can be decided. -/
theorem of_all (hne : text ≠ [])
    (h : text.all (fun c => !isBlank c && decide (c ≠ '"')) = true) : IsWhole text := by
  refine .solid hne fun c hc => ?_
  simpa using List.all_eq_true.mp h c hc

theorem ne_nil (h : IsWhole text) : text ≠ [] := by
  cases h with
  | solid hne _ => exact hne
  | quoted => simp

/-- A whole word begins with no blank. -/
theorem isBlank_head (h : IsWhole text) : ∃ c ∈ text.head?, isBlank c = false := by
  cases h with
  | solid hne hsolid =>
    obtain ⟨c, rest, rfl⟩ := List.exists_cons_of_ne_nil hne
    exact ⟨c, rfl, (hsolid c (by simp)).1⟩
  | quoted => exact ⟨'"', rfl, by decide⟩

/-- A whole word ends with no blank. -/
theorem isBlank_last (h : IsWhole text) : ∃ c ∈ text.getLast?, isBlank c = false := by
  cases h with
  | solid hne hsolid =>
    exact ⟨text.getLast hne, List.getLast?_eq_some_getLast hne,
      (hsolid _ (List.getLast_mem hne)).1⟩
  | quoted => exact ⟨'"', List.getLast?_concat, by decide⟩

/-- Whole words before blanks are told by the text: they end with the first blank or with the second
quotation mark, so `IsWhole` allows one only. -/
theorem unique (h : IsWhole text) (h' : IsWhole text')
    (hbehind : ∀ c ∈ behind.head?, isBlank c = true)
    (hbehind' : ∀ c ∈ behind'.head?, isBlank c = true) (heq : text ++ behind = text' ++ behind') :
    text = text' ∧ behind = behind' := by
  -- A word ends at the first blank and a string at its second mark; the first character tells which
  -- of them it is.
  cases h with
  | solid hne hsolid =>
    cases h' with
    | solid hne' hsolid' =>
      exact run_unique (p := fun c => !isBlank c) (fun c hc => by simp [(hsolid c hc).1])
        (fun c hc => by simp [hbehind c hc]) (fun c hc => by simp [(hsolid' c hc).1])
        (fun c hc => by simp [hbehind' c hc]) heq
    | quoted =>
      obtain ⟨c, rest, rfl⟩ := List.exists_cons_of_ne_nil hne
      exact absurd (List.cons.inj heq).1 (hsolid c (by simp)).2
  | quoted hbody =>
    cases h' with
    | solid hne' hsolid' =>
      obtain ⟨c, rest, rfl⟩ := List.exists_cons_of_ne_nil hne'
      exact absurd (List.cons.inj heq).1.symm (hsolid' c (by simp)).2
    | quoted hbody' =>
      simp only [List.cons_append, List.append_assoc, List.cons.injEq, true_and] at heq
      obtain ⟨rfl, hrest⟩ := run_unique (p := (· ≠ '"'))
        (fun c hc => by simpa using ne_of_mem_of_not_mem hc hbody) (by simp)
        (fun c hc => by simpa using ne_of_mem_of_not_mem hc hbody') (by simp) heq
      exact ⟨rfl, (List.cons.inj hrest).2⟩

end IsWhole

/-! ### Plain pieces -/

/-- A word that `IsWhole`, or the end of a line. -/
def Piece.IsPlain : Piece → Prop
  | .word text => IsWhole text.toList
  | .raw text => text = "\n"

theorem isPlain_lineBreak : lineBreak.IsPlain := rfl

variable {last : Option Char} {pieces : List Piece}

/-- Before a word stands nothing or a space, by the two cases of `separator`. -/
theorem separator_cases (last : Option Char) :
    separator last = [] ∨ (separator last = [' '] ∧ ∃ c ∈ last, isBlank c = false) := by
  cases last with
  | none => exact .inl rfl
  | some c =>
    cases hc : isBlank c with
    | true => exact .inl (by simp [separator, hc])
    | false => exact .inr ⟨by simp [separator, hc], c, rfl, hc⟩

/-- What `layout` gives behind a word begins with a space or a line feed. -/
theorem isSpacing_head_layout (hlast : ∃ c ∈ last, isBlank c = false)
    (hpieces : ∀ piece ∈ pieces, piece.IsPlain) :
    ∀ c ∈ (layout last pieces).head?, isSpacing c = true := by
  obtain ⟨d, rfl, hd⟩ := hlast
  cases pieces with
  | nil => simp [layout]
  | cons piece pieces =>
    cases piece with
    | word text =>
      rw [layout, Piece.write, separator, if_neg (by simp [hd])]
      rintro _ ⟨⟩
      rfl
    | raw text =>
      obtain rfl : text = "\n" := hpieces (.raw text) (by simp)
      rintro _ ⟨⟩
      rfl

/-- Behind a word that `IsWhole` stands its last character. -/
theorem getLast?_write {text : String} (h : IsWhole text.toList) (last : Option Char) :
    ((Piece.word text).write last).getLast?.or last = text.toList.getLast? := by
  obtain ⟨c, hc, -⟩ := h.isBlank_last
  simp [Piece.write, List.getLast?_append, Option.mem_def.mp hc]

/-- A piece that `IsPlain` is written with some character. -/
theorem Piece.IsPlain.write_ne_nil {piece : Piece} (h : piece.IsPlain) (last : Option Char) :
    piece.write last ≠ [] := by
  cases piece with
  | word text => exact List.append_ne_nil_of_right_ne_nil _ (IsWhole.ne_nil h)
  | raw text =>
    obtain rfl : text = "\n" := h
    exact List.cons_ne_nil _ _

/-- No word begins with the end of a line. -/
theorem head?_write_word {text : String} (h : IsWhole text.toList) (last : Option Char)
    (behind : List Char) : ((Piece.word text).write last ++ behind).head? ≠ some '\n' := by
  rcases separator_cases last with hnone | ⟨hspace, -⟩
  · obtain ⟨c, hc, hblank⟩ := h.isBlank_head
    rw [Piece.write, hnone, List.nil_append, List.head?_append, Option.mem_def.mp hc,
      Option.some_or]
    rintro ⟨⟩
    exact absurd hblank (by decide)
  · simp [Piece.write, hspace]

/-- The first of some pieces that are plain is told by their `layout`, whether it is a word or the
end of a line. -/
theorem layout_head_unique {piece piece' : Piece} {pieces' : List Piece}
    (hpiece : piece.IsPlain) (hpiece' : piece'.IsPlain) (hrest : ∀ p ∈ pieces, p.IsPlain)
    (hrest' : ∀ p ∈ pieces', p.IsPlain)
    (h : layout last (piece :: pieces) = layout last (piece' :: pieces')) : piece = piece' := by
  rw [layout, layout] at h
  cases piece with
  | word text =>
    cases piece' with
    | word text' =>
      rw [getLast?_write hpiece, getLast?_write hpiece', Piece.write, Piece.write,
        List.append_assoc, List.append_assoc, List.append_cancel_left_eq] at h
      -- Behind both words stands a blank or nothing.
      have hspacing := isSpacing_head_layout (IsWhole.isBlank_last hpiece) hrest
      have hspacing' := isSpacing_head_layout (IsWhole.isBlank_last hpiece') hrest'
      have htext := (IsWhole.unique hpiece hpiece'
        (fun c hc => isBlank_of_isSpacing (hspacing c hc))
        (fun c hc => isBlank_of_isSpacing (hspacing' c hc)) h).1
      rw [String.toList_inj.mp htext]
    | raw text' =>
      obtain rfl : text' = "\n" := hpiece'
      exact absurd (congrArg List.head? h) (head?_write_word hpiece last _)
  | raw text =>
    obtain rfl : text = "\n" := hpiece
    cases piece' with
    | word text' => exact absurd (congrArg List.head? h).symm (head?_write_word hpiece' last _)
    | raw text' =>
      obtain rfl : text' = "\n" := hpiece'
      rfl

/-- Pieces that are plain are told by their `layout`. The induction is on both lists, with
`layout_head_unique` for the first pieces. -/
theorem layout_injective {pieces' : List Piece} (hpieces : ∀ p ∈ pieces, p.IsPlain)
    (hpieces' : ∀ p ∈ pieces', p.IsPlain) (h : layout last pieces = layout last pieces') :
    pieces = pieces' := by
  -- No plain piece is written as nothing, so both lists end together.
  induction pieces generalizing last pieces' with
  | nil =>
    cases pieces' with
    | nil => rfl
    | cons piece' pieces' =>
      exact absurd (List.append_eq_nil_iff.mp h.symm).1
        ((hpieces' piece' (by simp)).write_ne_nil last)
  | cons piece pieces ih =>
    cases pieces' with
    | nil =>
      exact absurd (List.append_eq_nil_iff.mp h).1 ((hpieces piece (by simp)).write_ne_nil last)
    | cons piece' pieces' =>
      obtain ⟨hpiece, hrest⟩ := List.forall_mem_cons.mp hpieces
      obtain ⟨hpiece', hrest'⟩ := List.forall_mem_cons.mp hpieces'
      obtain rfl := layout_head_unique hpiece hpiece' hrest hrest' h
      rw [ih hrest hrest' (List.append_cancel_left h)]

/-! ### Spaces -/

/-- Behind a text with the character `last` at its end, every space stands alone between two
characters that are no blanks. Spaces in strings do not count: before a place in a string stands an
odd number of quotation marks. -/
def IsSpaced (last : Option Char) (text : List Char) : Prop :=
  ∀ before after, text = before ++ ' ' :: after → Even (before.count '"') →
    (∃ c ∈ before.getLast?.or last, isBlank c = false) ∧ ∃ c ∈ after.head?, isBlank c = false

/-- A text that `IsSpaced` and has no open string can go on with one that `IsSpaced` behind it. -/
theorem IsSpaced.append {text more : List Char} (h : IsSpaced last text)
    (hclosed : Even (text.count '"')) (hmore : IsSpaced (text.getLast?.or last) more) :
    IsSpaced last (text ++ more) := by
  intro before after heq heven
  -- The space stands in one of the texts. In the first it may be its last character, behind which
  -- the second text begins.
  rcases List.append_eq_append_iff.mp heq with ⟨front, rfl, hmore'⟩ | ⟨rest, rfl, hrest⟩
  · -- The space stands in the second text.
    rw [List.count_append, Nat.even_add] at heven
    have hspace := hmore front after hmore' (heven.mp hclosed)
    rwa [← Option.or_assoc, ← List.getLast?_append] at hspace
  · cases rest with
    | nil =>
      rw [List.append_nil] at hmore
      exact hmore [] after hrest.symm (by simp)
    | cons c rest =>
      obtain ⟨rfl, rfl⟩ := List.cons.inj hrest
      obtain ⟨hbefore, c, hc, hblank⟩ := h before rest rfl heven
      exact ⟨hbefore, c, by simp [Option.mem_def.mp hc], hblank⟩

/-- A text that `IsSpaced` behind a blank does not begin with a space, so it is spaced alone. -/
theorem IsSpaced.of_isBlank {text : List Char} {blank : Char} (hblank : isBlank blank = true)
    (h : IsSpaced (some blank) text) : IsSpaced none text := by
  intro before after heq heven
  obtain ⟨⟨c, hc, hsolid⟩, hafter⟩ := h before after heq heven
  cases hlast : before.getLast? with
  | none =>
    rw [hlast, Option.none_or] at hc
    obtain rfl := Option.mem_some_iff.mp hc
    rw [hblank] at hsolid
    cases hsolid
  | some d =>
    rw [hlast] at hc
    exact ⟨⟨c, hc, hsolid⟩, hafter⟩

namespace IsWhole

variable {text : List Char}

/-- A whole word leaves no string open. -/
theorem even_count (h : IsWhole text) : Even (text.count '"') := by
  cases h with
  | solid _ hsolid =>
    rw [List.count_eq_zero_of_not_mem fun hmem => (hsolid _ hmem).2 rfl]
    exact Even.zero
  | quoted hbody =>
    rw [List.cons_append, List.count_cons_self, List.count_append,
      List.count_eq_zero_of_not_mem hbody]
    decide

/-- In a word that `IsWhole` spaces only stand in strings. -/
theorem not_even_count {before after : List Char} (h : IsWhole text)
    (heq : text = before ++ ' ' :: after) : ¬ Even (before.count '"') := by
  cases h with
  | solid _ hsolid => exact absurd (hsolid ' ' (by simp [heq])).1 (by decide)
  | @quoted body hbody =>
    cases before with
    | nil => exact absurd (List.cons.inj heq).1 (by decide)
    | cons c before =>
      obtain ⟨rfl, hrest⟩ := List.cons.inj heq
      -- What stands before the space in the string holds no further mark.
      have hmark : '"' ∉ before := by
        rcases List.append_eq_append_iff.mp hrest with ⟨more, rfl, hmore⟩ | ⟨more, rfl, -⟩
        · exact absurd hmore (by cases more <;> simp)
        · exact fun hmem => hbody (List.mem_append_left _ hmem)
      rw [List.count_cons_self, List.count_eq_zero_of_not_mem hmark]
      decide

end IsWhole

/-- A piece that `IsPlain` leaves no string open. -/
theorem Piece.IsPlain.even_count {piece : Piece} (h : piece.IsPlain) (last : Option Char) :
    Even ((piece.write last).count '"') := by
  cases piece with
  | word text =>
    have hseparator : (separator last).count '"' = 0 := by
      rcases separator_cases last with hnone | ⟨hspace, -⟩
      · simp [hnone]
      · simp [hspace]
    rw [Piece.write, List.count_append, hseparator, Nat.zero_add]
    exact IsWhole.even_count h
  | raw text =>
    obtain rfl : text = "\n" := h
    exact Even.zero

/-- A piece that `IsPlain` is spaced behind everything. -/
theorem Piece.IsPlain.isSpaced {piece : Piece} (h : piece.IsPlain) (last : Option Char) :
    IsSpaced last (piece.write last) := by
  intro before after heq heven
  cases piece with
  | word text =>
    -- The only space that counts is the one before the word.
    rcases separator_cases last with hnone | ⟨hspace, hlast⟩
    · rw [Piece.write, hnone, List.nil_append] at heq
      exact absurd heven (IsWhole.not_even_count h heq)
    · rw [Piece.write, hspace, List.singleton_append] at heq
      cases before with
      | nil =>
        obtain ⟨-, rfl⟩ := List.cons.inj heq
        exact ⟨hlast, IsWhole.isBlank_head h⟩
      | cons c before =>
        obtain ⟨rfl, hrest⟩ := List.cons.inj heq
        rw [List.count_cons_of_ne (by decide)] at heven
        exact absurd heven (IsWhole.not_even_count h hrest)
  | raw text =>
    obtain rfl : text = "\n" := h
    change "\n".toList = before ++ ' ' :: after at heq
    have hmem : ' ' ∈ "\n".toList := heq ▸ List.mem_append_right before List.mem_cons_self
    exact absurd hmem (by decide)

/-- Pieces that are plain have a `layout` with spaces one by one, and none that is not needed. -/
theorem isSpaced_layout (hpieces : ∀ piece ∈ pieces, piece.IsPlain) :
    IsSpaced last (layout last pieces) := by
  induction pieces generalizing last with
  | nil =>
    intro before after heq _
    exact absurd heq (by simp [layout])
  | cons piece pieces ih =>
    obtain ⟨hpiece, hpieces⟩ := List.forall_mem_cons.mp hpieces
    exact (hpiece.isSpaced last).append (hpiece.even_count last) (ih hpieces)

/-! ### The text of a module -/

/-- The pieces behind the banner of a module: its prototypes, an empty line, and its definitions. -/
def bodyPieces (program : Module) : List Piece :=
  program.prototypes ++ lineBreak :: program.definitions

/-- The text behind the banner of a module. -/
def body (program : Module) : List Char := layout (some '\n') (bodyPieces program)

/-- The C text of a module is `preamble`, the line with its name, and the `body` behind that. -/
theorem ofModule_eq (program : Module) :
    ofModule program =
      preamble ++ ("/* module: " ++ program.name ++ " */\n") ++ String.ofList (body program) := by
  have hpieces : program.pieces = program.banner ++ bodyPieces program := by
    simp [Module.pieces, bodyPieces]
  have hbanner : layout none program.banner =
      (preamble ++ ("/* module: " ++ program.name ++ " */\n")).toList := by
    -- The preamble ends with its line, so nothing is put between it and the banner.
    simp [Module.banner, layout, Piece.write, lineBreak, separator, preamble, isBlank]
  have hlast : (layout none program.banner).getLast?.or none = some '\n' := by
    rw [hbanner, String.toList_append, String.toList_append, List.getLast?_append,
      List.getLast?_append]
    rfl
  rw [ofModule, appendModule, append, hpieces, String.toList_empty, List.getLast?_nil,
    layout_append, hlast, hbanner, String.empty_append, String.ofList_append, String.ofList_toList]
  rfl

end Modlet.CText
