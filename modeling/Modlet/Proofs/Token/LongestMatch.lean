import Modlet.Proofs.Token.Scanning

/-!
# Reading takes the longest pieces

A source has one cut into gaps and lexemes that are each as long as they can be, and reading tokens
off the source follows that cut: the token with number `i` is what the lexeme with number `i` means,
it stands where that lexeme begins, and behind the last lexeme there is only the end of the file.

* `longest_splitGap` and `longest_split`: the pieces that are split off are the longest ones.
* `Means.unique`: a lexeme has one meaning.
* `Decomposes.unique` and `exists_decomposes`: every text has exactly one cut.
* `tokens_longest`: the tokens of a source are those of its cut.
-/

namespace Modlet

/-! ### The longest piece -/

/-- Two `Longest` pieces at the front of one text are the same. -/
theorem Longest.unique {P : List Char → List Char → Prop} {a b behind behind' : List Char}
    (ha : Longest P a behind) (hb : Longest P b behind') (h : a ++ behind = b ++ behind') :
    a = b ∧ behind = behind' := by
  -- One of the two pieces is the other one with more behind it, and there cannot be more.
  rcases List.append_eq_append_iff.mp h with ⟨more, rfl, hmore⟩ | ⟨more, rfl, hmore⟩
  · have hnil : more = [] := by_contra fun hne => ha.2 more behind' hmore hne hb.1
    simp_all
  · have hnil : more = [] := by_contra fun hne => hb.2 more behind hmore hne ha.1
    simp_all

/-- A gap goes on with a spacing character before it. -/
theorem IsGapBefore.spacing {c : Char} {gap behind : List Char} (hc : isSpacing c = true)
    (h : IsGapBefore gap behind) : IsGapBefore (c :: gap) behind := by
  cases h with
  | closed _ hgap => exact .closed behind (.spacing hc hgap)
  | trailing hgap hbody => exact .trailing (.spacing hc hgap) hbody

/-- A gap goes on with a comment before it. -/
theorem IsGapBefore.comment {body gap behind : List Char} (hbody : '\n' ∉ body)
    (h : IsGapBefore gap behind) : IsGapBefore ('/' :: '/' :: body ++ '\n' :: gap) behind := by
  cases h with
  | closed _ hgap => exact .closed behind (.comment hbody hgap)
  | @trailing gap rest hgap hrest =>
    simpa using IsGapBefore.trailing (.comment hbody hgap) hrest

/-- What `splitGap` gives first is a gap, also from inside a comment that has begun with `body`. -/
theorem isGapBefore_splitGap : ∀ text : List Char,
    IsGapBefore (splitGap false text).1 (splitGap false text).2 ∧
      ∀ body, '\n' ∉ body →
        IsGapBefore ('/' :: '/' :: body ++ (splitGap true text).1) (splitGap true text).2
  | [] => ⟨.closed _ .nil, fun body hbody => by
      simpa [splitGap] using IsGapBefore.trailing .nil hbody⟩
  | c :: rest => by
      have hrest := isGapBefore_splitGap rest
      constructor
      · -- Outside of a comment only a spacing character or two slashes belong to a gap.
        by_cases hspacing : isSpacing c = true
        · rw [splitGap_spacing hspacing]
          exact hrest.1.spacing hspacing
        by_cases hslash : c = '/' ∧ rest.head? = some '/'
        · obtain ⟨rfl, hnext⟩ := hslash
          obtain ⟨behind, rfl⟩ := List.head?_eq_some_iff.mp hnext
          rw [splitGap_slashes]
          exact (isGapBefore_splitGap behind).2 [] (by simp)
        · rw [splitGap_of_isSolid]
          · exact .closed _ .nil
          · rintro _ ⟨⟩
            exact ⟨by simpa using hspacing, hslash⟩
      · -- The comment goes on with `c`, unless `c` ends it and the gap goes on behind its line.
        intro body hbody
        rw [splitGap_inside]
        by_cases hc : c = '\n'
        · subst hc
          exact hrest.1.comment hbody
        · have hmore := hrest.2 (body ++ [c]) (by simp [hbody, Ne.symm hc])
          simpa [hc] using hmore

/-- Every `IsGapBefore` at the front of a text is a beginning of what `splitGap` gives. -/
theorem splitGap_of_isGapBefore {gap behind : List Char} (h : IsGapBefore gap behind) :
    gap <+: (splitGap false (gap ++ behind)).1 := by
  cases h with
  | closed _ hgap =>
    rw [splitGap_of_isGap hgap]
    exact List.prefix_append _ _
  | @trailing gap body hgap hbody =>
    have hcomment := splitGap_comment hbody []
    rw [List.append_nil, splitGap_of_isGap hgap, splitGap_slashes]
    simp only [List.append_nil] at hcomment
    rw [hcomment]
    simp [splitGap]

/-- The gap of `splitGap` is the `Longest` one. -/
theorem longest_splitGap (text : List Char) :
    Longest IsGapBefore (splitGap false text).1 (splitGap false text).2 := by
  refine ⟨(isGapBefore_splitGap text).1, ?_⟩
  intro more rest hbehind hne hlonger
  -- A longer gap would be the front of what is split off, and so have no more than that.
  have hprefix := splitGap_of_isGapBefore hlonger
  rw [List.append_assoc, ← hbehind, splitGap_append] at hprefix
  exact hne (List.prefix_append_right_inj _ |>.mp (by simpa using hprefix) |> List.prefix_nil.mp)

/-- The lexeme of `Lexeme.split` is the `Longest` one. -/
theorem longest_split {c : Char} (hc : isSpacing c = false) (rest : List Char) :
    Longest IsLexemeBefore (c :: (Lexeme.split c rest).1) (Lexeme.split c rest).2 := by
  refine ⟨Lexeme.isLexemeBefore_split hc rest, ?_⟩
  intro more behind hbehind hne hlonger
  change IsLexemeBefore (c :: ((Lexeme.split c rest).1 ++ more)) behind at hlonger
  have hprefix := Lexeme.split_of_isLexemeBefore hlonger
  rw [List.append_assoc, ← hbehind, Lexeme.split_append] at hprefix
  exact hne (List.prefix_append_right_inj _ |>.mp (by simpa using hprefix) |> List.prefix_nil.mp)

/-! ### What lexemes mean -/

namespace Lexeme

/-- A closed string means its contents: `read` leaves its marks out. -/
theorem read_string {body : List Char} :
    read '"' (body ++ ['"']) = .ok (.string, String.ofList body) := by
  simp [read]

/-- A string without a closing mark is refused by `read`. -/
theorem read_unterminated {body : List Char} (hbody : '"' ∉ body) :
    read '"' body = .error .unterminatedString := by
  have hlast : body.getLast? ≠ some '"' := fun h => hbody (List.mem_of_getLast? h)
  simp [read, hlast]

/-- Digits mean a numeral if their `Numeral.value` is in range. -/
theorem read_digits {c : Char} {more : List Char} (hdigits : (c :: more).all Char.isDigit = true) :
    read c more =
      if Numeral.value (c :: more) ≤ Numeral.greatest then
        .ok (.integer, String.ofList (c :: more))
      else .error (.integerOutOfRange (String.ofList (c :: more))) := by
  have hc : c.isDigit = true := List.all_eq_true.mp hdigits c (by simp)
  have hquote : c ≠ '"' := (ne_of_isWordPart (isWordPart_of_isDigit hc)).1
  rw [read, if_neg hquote, if_pos hc, Numeral.read?_of_digits (by simp) hdigits]
  by_cases hrange : Numeral.value (c :: more) ≤ Numeral.greatest <;> simp [hrange]

/-- A word means what `ofWord` says, a keyword or an identifier. -/
theorem read_word {c : Char} {more : List Char} (hc : isWordStart c = true) :
    read c more = .ok (ofWord (String.ofList (c :: more))) := by
  have hquote : c ≠ '"' := (ne_of_isWordPart (isWordPart_of_isWordStart hc)).1
  simp [read, hquote, isDigit_of_isWordStart hc, hc]

/-- A mark means itself. -/
theorem read_mark {kind : Token.Kind} {c : Char} {more : List Char}
    (hkind : kind ∈ Token.Kind.marks) (h : kind.spelling.toList = c :: more) :
    read c more = .ok kind.fixed := by
  have hread : Token.Kind.ofMark? (c :: more) = some kind := by
    rw [← h, Token.Kind.ofMark?_spelling hkind]
  have hwritten : String.ofList (c :: more) = kind.spelling := by rw [← h, String.ofList_toList]
  have hfirst : c ≠ '"' ∧ c.isDigit = false ∧ isWordStart c = false := by
    rcases mark_cases hkind with ⟨-, htwo⟩ | ⟨d, hone, hquote, hpart, -⟩
    · obtain ⟨rfl, -⟩ := List.cons.inj (h.symm.trans htwo)
      decide
    · obtain ⟨rfl, -⟩ := List.cons.inj (h.symm.trans hone)
      exact ⟨hquote, of_isWordPart_eq_false hpart⟩
  simp [read, hfirst, hread, hwritten, Token.Kind.fixed]

/-- A character that belongs nowhere is at fault. -/
theorem read_stray {c : Char} (h : IsStray c) : read c [] = .error (.unexpectedCharacter c) := by
  obtain ⟨hword, hdigit, hquote, -, hmark⟩ := h
  simp [read, hword, hdigit, hquote, hmark]

end Lexeme

/-- The `spelling` of a keyword is a word. -/
theorem isWord_spelling (word : Keyword) : isWord word.spelling.toList = true := by
  cases word <;> decide

/-- Every lexeme `Means` something. -/
theorem exists_means {lexeme behind : List Char} (h : IsLexemeBefore lexeme behind) :
    ∃ t, Means lexeme t := by
  cases h with
  | mark _ hkind => exact ⟨_, .mark hkind⟩
  | word _ hword =>
    -- Whether a word is a keyword is asked of its text as a string.
    have hwritten := String.toList_ofList (l := lexeme)
    cases hkeyword : Keyword.ofWord? (String.ofList lexeme) with
    | some word =>
      rw [← hwritten, ← Keyword.spelling_of_ofWord? hkeyword]
      exact ⟨_, .keyword word⟩
    | none =>
      rw [← hwritten] at hword ⊢
      exact ⟨_, .identifier ⟨hword, hkeyword⟩⟩
  | digits _ hne hdigits =>
    by_cases hrange : Numeral.value lexeme ≤ Numeral.greatest
    · exact ⟨_, .integer hne hdigits hrange⟩
    · exact ⟨_, .outOfRange hdigits (Nat.not_le.mp hrange)⟩
  | string _ hbody => exact ⟨_, .string hbody⟩
  | unterminated hbody => exact ⟨_, .unterminated hbody⟩
  | stray _ hc => exact ⟨_, .unexpected hc⟩

/-- The token that `Lexeme.toToken` makes of a lexeme is what the lexeme `Means`. -/
theorem Means.content_toToken {c : Char} {more : List Char} {t : Token.Content}
    (h : Means (c :: more) t) (pos : Position) : (Lexeme.toToken c more pos).content = t := by
  generalize htext : c :: more = text at h
  -- Every rule for what a lexeme means has its law of `Lexeme.read`.
  cases h with
  | mark hkind => simp [Lexeme.toToken, Lexeme.read_mark hkind htext.symm, Token.content]
  | keyword word =>
    have hword := isWord_spelling word
    rw [← htext, isWord, Bool.and_eq_true] at hword
    have hwritten : String.ofList (c :: more) = word.spelling := by
      rw [htext, String.ofList_toList]
    simp [Lexeme.toToken, Lexeme.read_word hword.1, Lexeme.ofWord, hwritten, Token.content,
      Token.Kind.fixed, Token.Kind.spelling]
  | @identifier name hname =>
    obtain ⟨hword, hkeyword⟩ := hname
    rw [← htext, isWord, Bool.and_eq_true] at hword
    have hwritten : String.ofList (c :: more) = name := by rw [htext, String.ofList_toList]
    simp [Lexeme.toToken, Lexeme.read_word hword.1, Lexeme.ofWord, hwritten, hkeyword,
      Token.content]
  | integer _ hdigits hrange =>
    subst htext
    simp [Lexeme.toToken, Lexeme.read_digits hdigits, hrange, Token.content]
  | string hbody =>
    obtain ⟨rfl, rfl⟩ := List.cons.inj htext
    simp [Lexeme.toToken, Lexeme.read_string, Token.content]
  | outOfRange hdigits hrange =>
    subst htext
    simp [Lexeme.toToken, Lexeme.read_digits hdigits, Nat.not_le.mpr hrange, Token.content]
  | unterminated hbody =>
    obtain ⟨rfl, rfl⟩ := List.cons.inj htext
    simp [Lexeme.toToken, Lexeme.read_unterminated hbody, Token.content]
  | unexpected hc =>
    obtain ⟨rfl, rfl⟩ := List.cons.inj htext
    simp [Lexeme.toToken, Lexeme.read_stray hc, Token.content]

/-- What means something has a character. -/
theorem Means.ne_nil {lexeme : List Char} {t : Token.Content} (h : Means lexeme t) :
    lexeme ≠ [] := by
  cases h with
  | mark hkind => exact Lexeme.mark_ne_nil hkind
  | keyword word => cases word <;> decide
  | identifier hname =>
    intro h
    simp [IsIdentifier, h, isWord] at hname
  | integer hne => exact hne
  | outOfRange _ hrange =>
    rintro rfl
    exact absurd hrange (by decide)
  | string | unterminated | unexpected => simp

/-- A lexeme has one meaning: `Means` is a function. -/
theorem Means.unique {lexeme : List Char} {t u : Token.Content} (ht : Means lexeme t)
    (hu : Means lexeme u) : t = u := by
  obtain ⟨c, more, rfl⟩ := List.exists_cons_of_ne_nil ht.ne_nil
  exact (ht.content_toToken .start).symm.trans (hu.content_toToken .start)

/-! ### The cut of a text -/

/-- A lexeme has a character. -/
theorem IsLexemeBefore.ne_nil {lexeme behind : List Char} (h : IsLexemeBefore lexeme behind) :
    lexeme ≠ [] := by
  cases h with
  | mark _ hkind => exact Lexeme.mark_ne_nil hkind
  | word _ hword => rintro rfl; simp [isWord] at hword
  | digits _ hne => exact hne
  | string | unterminated | stray => simp

/-- There is no second cut of a text: `Decomposes` determines the parts and the last gap. -/
theorem Decomposes.unique {text gap gap' : List Char} {parts parts' : List Part}
    (h : Decomposes text parts gap) (h' : Decomposes text parts' gap') :
    parts = parts' ∧ gap = gap' := by
  -- Along the first cut, the pieces of the second one are the same, since all are longest.
  induction h generalizing parts' gap' with
  | @last gap hgap =>
    generalize htext : gap = text at h'
    cases h' with
    | last => exact ⟨rfl, rfl⟩
    | @part part behind _ _ hgap' hlexeme' _ =>
      -- The gap goes on to the end, where nothing is left for a lexeme.
      have hend := (hgap.unique hgap' (by rw [htext, Part.text]; simp)).2
      exact absurd (List.append_eq_nil_iff.mp hend.symm).1 hlexeme'.1.ne_nil
  | @part part behind gap parts hgap hlexeme _ ih =>
    generalize htext : part.text ++ behind = text at h'
    cases h' with
    | last hgap' =>
      have hend := (hgap.unique hgap' (by rw [← htext, Part.text]; simp)).2
      exact absurd (List.append_eq_nil_iff.mp hend).1 hlexeme.1.ne_nil
    | @part part' behind' _ _ hgap' hlexeme' hrest =>
      obtain ⟨hsame, hend⟩ := hgap.unique hgap' (by simpa [Part.text] using htext)
      obtain ⟨hsame', rfl⟩ := hlexeme.unique hlexeme' hend
      obtain ⟨rfl, rfl⟩ := ih hrest
      have hpart : part = part' := by
        rw [show part = ⟨part.gap, part.lexeme⟩ from rfl, hsame, hsame']
      exact ⟨by rw [hpart], rfl⟩

/-- Every text has a cut, the one that `splitGap` and `Lexeme.split` make. -/
theorem exists_decomposes (text : List Char) : ∃ parts gap, Decomposes text parts gap := by
  rcases hsplit : splitGap false text with ⟨gap, rest⟩
  have hgap := longest_splitGap text
  have hsolid := isSolid_splitGap false text
  have hwhole := splitGap_append false text
  simp only [hsplit] at hgap hsolid hwhole
  cases rest with
  | nil =>
    rw [List.append_nil] at hwhole
    exact ⟨[], gap, hwhole ▸ .last hgap⟩
  | cons c rest =>
    rcases hmore : Lexeme.split c rest with ⟨more, behind⟩
    have hlexeme := longest_split (hsolid c rfl).1 rest
    have hrest := Lexeme.split_append c rest
    simp only [hmore] at hlexeme hrest
    subst hrest
    -- A lexeme has a character, so what is left behind it is shorter.
    have hshorter : behind.length < text.length := by
      rw [← hwhole]
      simp
      omega
    obtain ⟨parts, last, hparts⟩ := exists_decomposes behind
    refine ⟨⟨gap, c :: more⟩ :: parts, last, ?_⟩
    have hcut : Decomposes (Part.text ⟨gap, c :: more⟩ ++ behind) (⟨gap, c :: more⟩ :: parts)
        last := .part hgap hlexeme hparts
    simpa [Part.text, hwhole] using hcut
termination_by text.length

/-! ### The tokens of a text -/

namespace Cursor

/-- A token of `next` that is not the end of the file comes before the tokens behind it. -/
theorem tokens_of_next {cursor behind : Cursor} {t : Token} (h : cursor.next = (t, behind))
    (ht : t.kind ≠ .endOfFile) : cursor.tokens = t :: behind.tokens := by
  rw [tokens, h, if_neg ht]

/-- Where `next` gives the end of the file there are no tokens. -/
theorem tokens_of_end {cursor : Cursor} (h : cursor.next.1.kind = .endOfFile) :
    cursor.tokens = [] := by
  rw [tokens, if_pos h]

/-- Where nothing is left there are no tokens. -/
@[simp]
theorem tokens_nil (pos : Position) : tokens ⟨[], pos⟩ = [] := tokens_of_end (by rfl)

/-- The end of the file is read by `next` behind all that is left. -/
theorem next_of_endOfFile {cursor : Cursor} (h : cursor.next.1.kind = .endOfFile) :
    cursor.next =
      (Token.endAt (cursor.pos.after cursor.rest), ⟨[], cursor.pos.after cursor.rest⟩) := by
  rcases hsplit : splitGap false cursor.rest with ⟨gap, behind⟩
  cases behind with
  | nil =>
    have hwhole := splitGap_append false cursor.rest
    simp only [hsplit, List.append_nil] at hwhole
    rw [next_eq_end hsplit, hwhole]
  | cons c rest =>
    rw [next_eq_lexeme hsplit rfl] at h
    exact absurd h (Lexeme.toToken_kind_ne c _ _)

/-- Reading a token with `next` does not change where the source ends. -/
theorem next_after (cursor : Cursor) :
    cursor.next.2.pos.after cursor.next.2.rest = cursor.pos.after cursor.rest := by
  rcases hsplit : splitGap false cursor.rest with ⟨gap, behind⟩
  have hwhole := splitGap_append false cursor.rest
  rw [hsplit] at hwhole
  cases behind with
  | nil => simp [next_eq_end hsplit, ← hwhole]
  | cons c rest =>
    rcases hmore : Lexeme.split c rest with ⟨more, behind⟩
    have hrest := Lexeme.split_append c rest
    rw [hmore] at hrest
    simp only [next_eq_lexeme hsplit hmore, ← hwhole, ← hrest, Position.after_append,
      Position.after_cons]

/-- The token of reading number `n`, counted from zero: that of `next` behind `n` others. -/
def reading (cursor : Cursor) : Nat → Token
  | 0 => cursor.next.1
  | n + 1 => cursor.next.2.reading n

/-- Where nothing is left, every `reading` gives the end of the file. -/
theorem reading_of_nil (pos : Position) (n : Nat) : reading ⟨[], pos⟩ n = Token.endAt pos := by
  have hsplit : splitGap false (Cursor.rest ⟨[], pos⟩) = ([], []) := rfl
  have hnext : next ⟨[], pos⟩ = (Token.endAt pos, ⟨[], pos⟩) := next_eq_end hsplit
  induction n with
  | zero => rw [reading, hnext]
  | succ n ih => rw [reading, hnext, ih]

/-- The readings give the `tokens` one by one, and behind them the end of the file again and
again. -/
theorem reading_eq (cursor : Cursor) (n : Nat) :
    cursor.reading n =
      cursor.tokens[n]?.getD (Token.endAt (cursor.pos.after cursor.rest)) := by
  -- The place at which the source ends is the same from every cursor on it.
  fun_induction tokens cursor generalizing n with
  | case1 cursor h =>
    have hnext := next_of_endOfFile h
    cases n with
    | zero => simp [reading, hnext]
    | succ n => simp [reading, hnext, reading_of_nil]
  | case2 cursor h ih =>
    cases n with
    | zero => simp [reading]
    | succ n => simp [reading, ih, next_after]

/-- None of the `tokens` is the end of the file. -/
theorem kind_ne_of_mem {cursor : Cursor} {t : Token} (ht : t ∈ cursor.tokens) :
    t.kind ≠ .endOfFile := by
  fun_induction tokens cursor with
  | case1 cursor h => cases ht
  | case2 cursor h ih =>
    rcases List.mem_cons.mp ht with rfl | hmem
    · exact h
    · exact ih hmem

/-- A `reading` gives the end of the file as soon as all `tokens` have been read, and not before. -/
theorem kind_reading_iff {cursor : Cursor} {n : Nat} :
    (cursor.reading n).kind = .endOfFile ↔ cursor.tokens.length ≤ n := by
  rw [reading_eq]
  constructor
  · intro h
    by_contra hmore
    have hless := Nat.lt_of_not_le hmore
    rw [List.getElem?_eq_getElem hless, Option.getD_some] at h
    exact kind_ne_of_mem (List.getElem_mem hless) h
  · intro h
    rw [List.getElem?_eq_none h]
    rfl

end Cursor

/-- A last gap that is the `Longest` one is followed by the end of the file. -/
theorem next_of_last {gap : List Char} (h : Longest IsGapBefore gap []) (pos : Position) :
    Cursor.next ⟨gap, pos⟩ = (Token.endAt (pos.after gap), ⟨[], pos.after gap⟩) := by
  obtain ⟨hgap, hrest⟩ := (longest_splitGap gap).unique h (by simp [splitGap_append])
  exact Cursor.next_eq_end (Prod.ext hgap hrest)

/-- A `Longest` gap and a `Longest` lexeme behind it are what `splitGap` and `Lexeme.split` give. -/
theorem split_of_part {part : Part} {behind : List Char}
    (hgap : Longest IsGapBefore part.gap (part.lexeme ++ behind))
    (hlexeme : Longest IsLexemeBefore part.lexeme behind) :
    ∃ c more, part.lexeme = c :: more
      ∧ splitGap false (part.text ++ behind) = (part.gap, c :: more ++ behind)
      ∧ Lexeme.split c (more ++ behind) = (more, behind) := by
  obtain ⟨c, more, hpart⟩ := List.exists_cons_of_ne_nil hlexeme.1.ne_nil
  -- What is split off is longest as well, first the gap and then the lexeme.
  obtain ⟨hfirst, hsecond⟩ := (longest_splitGap (part.text ++ behind)).unique hgap
    (by simp [splitGap_append, Part.text])
  rw [hpart] at hsecond hlexeme
  have hsolid := isSolid_splitGap false (part.text ++ behind)
  rw [hsecond] at hsolid
  obtain ⟨hmore, hbehind⟩ := (longest_split (hsolid c rfl).1 (more ++ behind)).unique hlexeme
    (by simp [Lexeme.split_append])
  exact ⟨c, more, hpart, Prod.ext hfirst hsecond, Prod.ext (List.cons.inj hmore).2 hbehind⟩

/-- A part at the front of a text is read as a token by `next`: it is what the lexeme `Means`, and
it stands where the lexeme begins. -/
theorem next_of_part {part : Part} {behind : List Char}
    (hgap : Longest IsGapBefore part.gap (part.lexeme ++ behind))
    (hlexeme : Longest IsLexemeBefore part.lexeme behind) (pos : Position) :
    ∃ t, Cursor.next ⟨part.text ++ behind, pos⟩ = (t, ⟨behind, pos.after part.text⟩)
      ∧ t.kind ≠ .endOfFile ∧ Means part.lexeme t.content ∧ t.pos = pos.after part.gap := by
  obtain ⟨c, more, hpart, hsplit, hmore⟩ := split_of_part hgap hlexeme
  refine ⟨Lexeme.toToken c more (pos.after part.gap), ?_, Lexeme.toToken_kind_ne c more _, ?_,
    Lexeme.toToken_pos c more _⟩
  · rw [Cursor.next_eq_lexeme hsplit hmore, Part.text, Position.after_append, hpart]
  · obtain ⟨t, ht⟩ := exists_means hlexeme.1
    rw [hpart] at ht ⊢
    rwa [ht.content_toToken]

/-- The `Cursor.tokens` of a text are what the lexemes of its cut mean, in order, and the places
where they stand are `lexemePlaces`. -/
theorem Decomposes.tokens {text gap : List Char} {parts : List Part}
    (h : Decomposes text parts gap) (pos : Position) :
    List.Forall₂ (fun part t => Means part.lexeme t.content) parts (Cursor.tokens ⟨text, pos⟩)
      ∧ (Cursor.tokens ⟨text, pos⟩).map Token.pos = lexemePlaces pos parts := by
  induction h generalizing pos with
  | last hgap =>
    rw [Cursor.tokens_of_end (by rw [next_of_last hgap]; rfl)]
    exact ⟨.nil, rfl⟩
  | part hgap hlexeme _ ih =>
    obtain ⟨t, hnext, hkind, hmeans, hpos⟩ := next_of_part hgap hlexeme pos
    obtain ⟨hrest, hplaces⟩ := ih (pos.after _)
    rw [Cursor.tokens_of_next hnext hkind]
    exact ⟨.cons hmeans hrest, by rw [List.map_cons, hpos, hplaces, lexemePlaces]⟩

/-- Every token is what some lexeme `Means`. -/
theorem Cursor.exists_means_of_mem {cursor : Cursor} {t : Token} (ht : t ∈ cursor.tokens) :
    ∃ lexeme, Means lexeme t.content := by
  obtain ⟨parts, gap, hcut⟩ := exists_decomposes cursor.rest
  have hmeans := (hcut.tokens cursor.pos).1
  obtain ⟨i, hi, rfl⟩ := List.mem_iff_getElem.mp ht
  exact ⟨_, hmeans.get (hmeans.length_eq ▸ hi) hi⟩

/-- Tokens are the longest pieces of a source. Every source has one cut in the sense of `Decomposes`
into gaps and lexemes that are each the `Longest` there, of which nothing is lost and nothing is
read twice. The `tokensOf` the source are what its lexemes mean by `Means`, and nothing else, each
at its place in `lexemePlaces`; `Cursor.reading` gives them one by one, and from then on the end of
the file at the end of the source. -/
theorem tokens_longest (source : String) :
    ∃ parts gap, Decomposes source.toList parts gap
      ∧ (∀ parts' gap', Decomposes source.toList parts' gap' → parts' = parts ∧ gap' = gap)
      ∧ source.toList = parts.flatMap Part.text ++ gap
      ∧ List.Forall₂ (fun part t => ∀ content, Means part.lexeme content ↔ t.content = content)
          parts (tokensOf source)
      ∧ (tokensOf source).map Token.pos = lexemePlaces .start parts
      ∧ ∀ i, (Cursor.ofSource source).reading i =
          (tokensOf source)[i]?.getD (Token.endAt (Position.start.after source.toList)) := by
  obtain ⟨parts, gap, hcut⟩ := exists_decomposes source.toList
  obtain ⟨hmeans, hplaces⟩ := hcut.tokens .start
  refine ⟨parts, gap, hcut, fun _ _ h => h.unique hcut, hcut.text_eq, ?_, hplaces,
    Cursor.reading_eq _⟩
  exact hmeans.imp fun part t ht content => ⟨ht.unique, fun h => h ▸ ht⟩

end Modlet
