import Modlet.Proofs.Token.Locality
import Modlet.Token.Layout

/-!
# Tokens are read back from their spellings

A token that is spelled in a source is read back from there, if what stands behind it does not go on
with it. Gaps that keep tokens apart see to that, so every text that spells tokens in order is read
as these tokens.

* `Token.Kind.goesOn`: the characters with which a token of a kind would go on.
* `Cursor.next_of_means`: a token is read from its spelling.
* `Token.KeptApart.contents_tokens`: tokens are read from their spellings with gaps between them.
* `Token.Spells.contents_tokens`: tokens are read from every text that spells them.
-/

namespace Modlet

open Token Lexeme

/-! ### Kinds of tokens -/

namespace Token

/-- Whether all tokens of a kind are spelled alike: keywords and marks are. -/
def Kind.isFixed : Kind → Bool
  | .endOfFile | .invalid | .identifier | .integer | .string => false
  | _ => true

/-- A keyword or a mark `IsWritten` in one way only, as `Kind.fixed`. -/
theorem isWritten_iff_of_isFixed {t : Content} (h : t.1.isFixed = true) :
    IsWritten t ↔ t = t.1.fixed := by
  obtain ⟨kind, text⟩ := t
  cases kind <;> simp_all [Kind.isFixed, IsWritten, Kind.fixed]

/-- A keyword or a mark `IsWritten` as `Kind.fixed`. -/
theorem isWritten_fixed {kind : Kind} (h : kind.isFixed = true) : IsWritten kind.fixed :=
  (isWritten_iff_of_isFixed h).mpr rfl

/-- An integer `IsWritten` if its text is digits and their `Numeral.value` is in range. -/
theorem isWritten_integer {text : String} :
    IsWritten (.integer, text) ↔ text.toList ≠ [] ∧ text.toList.all Char.isDigit = true
      ∧ Numeral.value text.toList ≤ Numeral.greatest := by
  simp only [IsWritten, Numeral.read?]
  split <;> simp_all

/-- What is `spelled` for a keyword or a mark has at most six characters. -/
theorem length_spelled_fixed {kind : Kind} (h : kind.isFixed = true) :
    (spelled kind.fixed).length ≤ 6 := by
  cases kind with
  | keyword word => cases word <;> decide
  | endOfFile | invalid | identifier | integer | string => cases h
  | _ => decide

/-- Whether a token of the given kind goes on with a character, or a comment begins there. -/
def Kind.goesOn : Kind → Char → Bool
  | .identifier, c | .keyword _, c => isWordPart c
  | .integer, c => c.isDigit
  | .greater, c => c = '='
  | .divide, c => c = '/'
  | _, _ => false

/-- Only words, integers and two marks go on with anything, so `Kind.goesOn` is false where these
four cases are ruled out. -/
theorem Kind.goesOn_eq_false {kind : Kind} {c : Char}
    (hword : kind.isWordLike = true → isWordPart c = false)
    (hinteger : kind = .integer → c.isDigit = false) (hgreater : kind = .greater → c ≠ '=')
    (hdivide : kind = .divide → c ≠ '/') : kind.goesOn c = false := by
  cases kind <;> simp_all [goesOn, isWordLike]

/-- No token goes on with a spacing character (`Kind.goesOn`). -/
theorem Kind.goesOn_of_isSpacing (kind : Kind) {c : Char} (hc : isSpacing c = true) :
    kind.goesOn c = false := by
  have hmarks : c ≠ '=' ∧ c ≠ '/' := by
    constructor <;> (rintro rfl; revert hc; decide)
  exact goesOn_eq_false (fun _ => isWordPart_of_isSpacing hc) (fun _ => isDigit_of_isSpacing hc)
    (fun _ => hmarks.1) fun _ => hmarks.2

end Token

/-! ### Reading a spelled token -/

/-- An `IsIdentifier` can be written as the text of an identifier. -/
theorem IsIdentifier.isWritten {name : String} (h : IsIdentifier name) :
    IsWritten (.identifier, name) := by
  obtain ⟨hword, hkeyword⟩ := h
  cases htext : name.toList with
  | nil => simp [htext, isWord] at hword
  | cons c rest =>
    rw [htext, isWord, Bool.and_eq_true] at hword
    exact ⟨c, rest, htext, hword.1, hword.2, hkeyword⟩

/-- The text of an identifier that `IsWritten` is a word and no keyword. -/
theorem isIdentifier_of_isWritten {name : String} (h : IsWritten (.identifier, name)) :
    IsIdentifier name := by
  obtain ⟨c, rest, htext, hc, hrest, hkeyword⟩ := h
  exact ⟨by simp [htext, isWord, hc, hrest], hkeyword⟩

/-- What is `spelled` for a token that `IsWritten` means that token. -/
theorem means_spelled {t : Content} (h : IsWritten t) : Means (spelled t) t := by
  obtain ⟨kind, text⟩ := t
  -- Only keywords and marks are left to the last case, and their text is their spelling.
  cases kind with
  | endOfFile | invalid => exact h.elim
  | identifier => exact .identifier (isIdentifier_of_isWritten h)
  | integer =>
    obtain ⟨hne, hdigits, hrange⟩ := isWritten_integer.mp h
    simpa [spelled] using Means.integer hne hdigits hrange
  | string => simpa [spelled] using @Means.string text.toList h
  | keyword word =>
    obtain rfl : text = word.spelling := h
    exact .keyword word
  | _ =>
    rw [(isWritten_iff_of_isFixed rfl).mp h]
    exact .mark (by simp [Kind.marks])

/-- What `Means` an identifier or a keyword is a word. -/
theorem Means.isWord {lexeme : List Char} {t : Content} (h : Means lexeme t)
    (hkind : t.1.isWordLike = true) : isWord lexeme = true := by
  cases h with
  | @mark kind hmark =>
    revert hmark hkind
    cases kind <;> simp [Kind.marks, Kind.isWordLike, Kind.fixed]
  | keyword word => exact isWord_spelling word
  | identifier hname => exact hname.1
  | integer | string | outOfRange | unterminated | unexpected => cases hkind

/-- All characters of a word `isWordPart`. -/
theorem isWordPart_of_isWord {text : List Char} (h : isWord text = true) :
    ∀ c ∈ text, isWordPart c = true := by
  cases text with
  | nil => simp
  | cons c rest =>
    rw [isWord, Bool.and_eq_true, List.all_eq_true] at h
    rw [List.forall_mem_cons]
    exact ⟨isWordPart_of_isWordStart h.1, h.2⟩

/-- What is `spelled` for an integer is digits. -/
theorem isDigit_of_isWritten {t : Content} (h : IsWritten t) (hkind : t.1 = .integer) :
    ∀ c ∈ spelled t, c.isDigit = true := by
  obtain ⟨_, text⟩ := t
  obtain rfl := hkind
  exact List.all_eq_true.mp (isWritten_integer.mp h).2.1

/-- What is `spelled` for an identifier, a keyword or an integer belongs to words. -/
theorem isWordPart_of_isWritten {t : Content} (h : IsWritten t)
    (hkind : t.1.isWordLike = true ∨ t.1 = .integer) : ∀ c ∈ spelled t, isWordPart c = true := by
  rcases hkind with hword | hinteger
  · exact isWordPart_of_isWord ((means_spelled h).isWord hword)
  · exact fun c hc => isWordPart_of_isDigit (isDigit_of_isWritten h hinteger c hc)

/-- A text that begins with the beginning of a word or a digit `IsSolid`. -/
theorem isSolid_of_isWordPart {c : Char} (hc : isWordPart c = true) (rest : List Char) :
    IsSolid (c :: rest) := by
  rintro _ ⟨⟩
  refine ⟨?_, ?_⟩
  · rw [← Bool.not_eq_true]
    exact fun hspacing => absurd hc (by simp [isWordPart_of_isSpacing hspacing])
  · rintro ⟨rfl, -⟩
    exact absurd hc (by decide)

/-- A word is taken by `Lexeme.split` as it is, if what stands behind it does not belong to
words. -/
theorem split_of_isWord {c : Char} {more behind : List Char} (h : isWord (c :: more) = true)
    (hbehind : ∀ d ∈ behind.head?, isWordPart d = false) :
    IsSolid (c :: more ++ behind) ∧ Lexeme.split c (more ++ behind) = (more, behind) := by
  simp only [isWord, Bool.and_eq_true, List.all_eq_true] at h
  exact ⟨isSolid_of_isWordPart (isWordPart_of_isWordStart h.1) _,
    Lexeme.split_word h.1 h.2 hbehind⟩

/-- A valid lexeme is taken by `Lexeme.split` as it is, if `Kind.goesOn` is false of what stands
behind it. -/
theorem Means.split_eq {lexeme : List Char} {c : Char} {more behind : List Char} {t : Content}
    (h : Means lexeme t) (htext : c :: more = lexeme) (hvalid : t.1 ≠ .invalid)
    (hbehind : ∀ d ∈ behind.head?, t.1.goesOn d = false) :
    IsSolid (c :: more ++ behind) ∧ Lexeme.split c (more ++ behind) = (more, behind) := by
  -- Marks, words and digits end because their kind does not go on with what stands behind them. A
  -- string ends by itself.
  cases h with
  | @mark kind hkind =>
    refine ⟨?_, Lexeme.split_mark hkind htext.symm ?_⟩
    · -- A slash begins a comment only if another slash stands behind it.
      rintro _ ⟨⟩
      rcases mark_cases hkind with ⟨-, htwo⟩ | ⟨d, hone, -, -, hspacing, -, -, hslash⟩
      · obtain ⟨rfl, rfl⟩ := List.cons.inj (htext.trans htwo)
        exact ⟨by decide, by simp⟩
      · obtain ⟨rfl, rfl⟩ := List.cons.inj (htext.trans hone)
        refine ⟨hspacing, ?_⟩
        rintro ⟨hc, hnext⟩
        obtain rfl := hslash hc
        exact absurd (hbehind '/' hnext) (by decide)
    · rintro rfl hnext
      exact absurd (hbehind '=' hnext) (by decide)
  | keyword word => exact split_of_isWord (htext ▸ isWord_spelling word) hbehind
  | identifier hname => exact split_of_isWord (htext ▸ hname.1) hbehind
  | integer _ hdigits _ =>
    subst htext
    simp only [List.all_cons, Bool.and_eq_true, List.all_eq_true] at hdigits
    exact ⟨isSolid_of_isWordPart (isWordPart_of_isDigit hdigits.1) _,
      Lexeme.split_digits hdigits.1 hdigits.2 hbehind⟩
  | @string body hbody =>
    obtain ⟨rfl, rfl⟩ := List.cons.inj htext
    refine ⟨by rintro _ ⟨⟩; exact ⟨by decide, by simp⟩, ?_⟩
    simpa using! Lexeme.split_string hbody behind
  | outOfRange | unterminated | unexpected => exact absurd rfl hvalid

/-- A valid lexeme is read by `next` as what it `Means`, if its kind does not go on with what stands
behind it. -/
theorem Cursor.next_of_means {lexeme behind : List Char} {t : Content} (h : Means lexeme t)
    (hvalid : t.1 ≠ .invalid) (hbehind : ∀ c ∈ behind.head?, t.1.goesOn c = false)
    (pos : Position) :
    next ⟨lexeme ++ behind, pos⟩ = (⟨t.1, t.2, pos⟩, ⟨behind, pos.after lexeme⟩) := by
  obtain ⟨c, more, rfl⟩ := List.exists_cons_of_ne_nil h.ne_nil
  obtain ⟨hsolid, hsplit⟩ := h.split_eq rfl hvalid hbehind
  have htoken : Lexeme.toToken c more pos = ⟨t.1, t.2, pos⟩ :=
    Token.eq_of_content (h.content_toToken pos) (Lexeme.toToken_pos c more pos)
  have hgap : splitGap false (Cursor.rest ⟨c :: more ++ behind, pos⟩) = ([], c :: more ++ behind) :=
    splitGap_of_isSolid hsolid
  rw [next_eq_lexeme hgap hsplit]
  simp [htoken]

/-- A token that `IsWritten` is valid, and it is not the end of the file. -/
theorem Token.IsWritten.kind_ne {t : Content} (h : IsWritten t) :
    t.1 ≠ .invalid ∧ t.1 ≠ .endOfFile := by
  obtain ⟨kind, text⟩ := t
  constructor
  · rintro rfl
    exact h.elim
  · rintro rfl
    exact h.elim

/-- A `spelled` token comes before the tokens behind it, if `Kind.goesOn` is false of what stands
there. -/
theorem Cursor.tokens_spelled {t : Content} (h : IsWritten t) {behind : List Char}
    (hbehind : ∀ c ∈ behind.head?, t.1.goesOn c = false) (pos : Position) :
    tokens ⟨spelled t ++ behind, pos⟩ =
      ⟨t.1, t.2, pos⟩ :: tokens ⟨behind, pos.after (spelled t)⟩ :=
  tokens_of_next (next_of_means (means_spelled h) h.kind_ne.1 hbehind pos) h.kind_ne.2

/-- A spelled token alone. -/
theorem Cursor.tokens_spelled_alone {t : Content} (h : IsWritten t) (pos : Position) :
    tokens ⟨spelled t, pos⟩ = [⟨t.1, t.2, pos⟩] := by
  have hfirst := @tokens_spelled t h [] (by simp) pos
  rwa [List.append_nil, tokens_nil] at hfirst

/-! ### Tokens that are kept apart -/

namespace Token

/-- No word begins with what an integer or a mark goes on with. -/
theorem Kind.goesOn_of_isWordStart {kind : Kind} (hkind : kind.isWordLike = false) {c : Char}
    (hc : isWordStart c = true) : kind.goesOn c = false := by
  have hmarks := (ne_of_isWordPart (isWordPart_of_isWordStart hc)).2
  refine goesOn_eq_false (fun hword => ?_) (fun _ => isDigit_of_isWordStart hc)
    (fun _ => hmarks.1) fun _ => hmarks.2
  rw [hkind] at hword
  cases hword

/-- With what marks begin. -/
theorem Kind.mark_head {kind : Kind} (h : kind ∈ marks) {c : Char}
    (hc : c ∈ kind.spelling.toList.head?) :
    isWordPart c = false ∧ (c = '=' → kind = .assign) ∧ (c = '/' → kind = .divide) := by
  rcases mark_cases h with ⟨rfl, htwo⟩ | ⟨d, hone, -, hpart, -, -, hassign, hdivide⟩
  · rw [htwo] at hc
    obtain rfl := Option.mem_some_iff.mp hc
    decide
  · rw [hone] at hc
    obtain rfl := Option.mem_some_iff.mp hc
    exact ⟨hpart, hassign, hdivide⟩

/-- No token goes on with the beginning of what is `spelled` for one that it does not run together
with. -/
theorem Kind.goesOn_spelled {left : Kind} {right : Content} (hright : IsWritten right)
    (hfuses : ¬ Fuses left right.1) (hslash : left = .divide → right.1 ≠ .divide) :
    ∀ c ∈ (spelled right).head?, left.goesOn c = false := by
  intro c hc
  obtain ⟨kind, text⟩ := right
  cases kind with
  | endOfFile | invalid => exact hright.elim
  | identifier =>
    -- Only words go on with the beginning of a word, and those would run together with it.
    obtain ⟨d, rest, htext, hd, -, -⟩ := hright
    obtain rfl : d = c := by simpa [spelled, htext] using hc
    exact goesOn_of_isWordStart (by simpa [Fuses, isWordLike] using hfuses) hd
  | keyword word =>
    obtain rfl : text = word.spelling := hright
    refine goesOn_of_isWordStart (by simpa [Fuses, isWordLike] using hfuses) ?_
    cases word <;> (obtain rfl := Option.mem_some_iff.mp hc; decide)
  | integer =>
    have hdigit := isDigit_of_isWritten hright rfl c (List.mem_of_head? hc)
    have hmarks := (ne_of_isWordPart (isWordPart_of_isDigit hdigit)).2
    -- Words and integers run together with it.
    exact goesOn_eq_false (fun hword => (hfuses (.inl ⟨hword, .inr rfl⟩)).elim)
      (fun hinteger => (hfuses (.inr (.inl ⟨hinteger, rfl⟩))).elim) (fun _ => hmarks.1)
      fun _ => hmarks.2
  | string =>
    obtain rfl : '"' = c := by simpa [spelled] using hc
    cases left <;> rfl
  | _ =>
    rw [(isWritten_iff_of_isFixed rfl).mp hright] at hc
    obtain ⟨hword, hassign, hdivide⟩ := mark_head (by simp [marks]) hc
    exact goesOn_eq_false (fun _ => hword) (fun _ => (of_isWordPart_eq_false hword).1)
      (fun hgreater heq => hfuses (.inr (.inr ⟨hgreater, hassign heq⟩)))
      fun hleft heq => hslash hleft (hdivide heq)

/-- No token goes on with an `IsGap`, unless a comment begins directly behind a slash. -/
theorem Kind.goesOn_of_isGap {kind : Kind} {gap : List Char} (hgap : IsGap gap)
    (hslash : kind = .divide → ∀ c ∈ gap.head?, isSpacing c = true) :
    ∀ c ∈ gap.head?, kind.goesOn c = false := by
  intro c hc
  by_cases hspacing : isSpacing c = true
  · exact kind.goesOn_of_isSpacing hspacing
  · -- The gap begins with a comment, and only a slash goes on with a slash.
    obtain rfl : c = '/' := by
      cases hgap with
      | nil => cases hc
      | spacing hd _ =>
        cases hc
        exact absurd hd hspacing
      | comment =>
        cases hc
        rfl
    have hkind : kind ≠ .divide := fun h => hspacing (hslash h '/' hc)
    cases kind <;> first | rfl | exact absurd rfl hkind

/-- What keeps two tokens `Apart` begins with nothing that `Kind.goesOn` allows behind the first. -/
theorem Apart.goesOn {left right : Content} {gap : List Char} (h : Apart left gap right)
    (hgap : IsGap gap) (hright : IsWritten right) (rest : List Char) :
    ∀ c ∈ (gap ++ (spelled right ++ rest)).head?, left.1.goesOn c = false := by
  intro c hc
  obtain ⟨hfuses, hslash⟩ := h
  cases gap with
  | nil =>
    -- The second token stands directly behind the first.
    obtain ⟨d, more, htext⟩ := List.exists_cons_of_ne_nil (means_spelled hright).ne_nil
    refine Kind.goesOn_spelled hright (fun hfuse => hfuses hfuse rfl) (fun hleft hsame => ?_) c ?_
    · obtain ⟨d, hd, -⟩ := hslash hleft (.inr hsame)
      cases hd
    · simpa [htext] using hc
  | cons d gap =>
    refine Kind.goesOn_of_isGap hgap (fun hleft c hc => ?_) c hc
    obtain ⟨d, hd, hspacing⟩ := hslash hleft (.inl (List.cons_ne_nil _ _))
    rwa [Option.mem_unique hc hd]

/-- Tokens that gaps keep apart are read from their spellings with these gaps behind them. The
induction is on the list of `KeptApart`, with `Apart.goesOn` where one token ends. -/
theorem KeptApart.contents_tokens {items : List Spaced} (h : KeptApart items) (pos : Position) :
    (Cursor.tokens ⟨items.flatMap Spaced.text, pos⟩).map content = items.map Spaced.content := by
  induction items generalizing pos with
  | nil => simp
  | cons item items ih =>
    obtain ⟨hapart, hitems⟩ := h
    -- Neither the gap nor what comes behind it goes on with the token.
    have hbehind : ∀ c ∈ (item.gap ++ items.flatMap Spaced.text).head?,
        item.content.1.goesOn c = false := by
      cases items with
      | nil =>
        rw [List.flatMap_nil, List.append_nil]
        refine Kind.goesOn_of_isGap item.isGap fun hdivide c hc => ?_
        obtain ⟨d, hd, hspacing⟩ := hapart.2 hdivide (.inl (by rintro hnil; simp [hnil] at hc))
        rwa [Option.mem_unique hc hd]
      | cons next items =>
        rw [List.flatMap_cons, Spaced.text, List.append_assoc]
        exact hapart.goesOn item.isGap next.isWritten _
    rw [List.flatMap_cons, Spaced.text, List.append_assoc,
      Cursor.tokens_spelled item.isWritten hbehind, Cursor.tokens_of_isGap item.isGap,
      List.map_cons, ih hitems]
    rfl

/-- Nothing runs together with the end of the file, and no comment begins behind a token that is not
a slash: any gap keeps them `Apart`. -/
theorem apart_endOfFile {t : Content} (h : t.1 ≠ .divide) (gap : List Char) :
    Apart t gap (.endOfFile, "") :=
  ⟨fun hfuses => absurd hfuses (by simp [Fuses, Kind.isWordLike]), fun hdivide => absurd hdivide h⟩

/-- What `SpellsFrom` spells in order are these tokens with gaps behind them that are `KeptApart`.
The last one may not be a slash, since a comment could begin there. -/
theorem SpellsFrom.exists_keptApart {ts : List Content} {text : List Char}
    (h : SpellsFrom Apart ts text) (hwritten : ∀ t ∈ ts, IsWritten t)
    (hlast : ∀ t ∈ ts.getLast?, t.1 ≠ .divide) :
    ∃ items, KeptApart items ∧ items.map Spaced.content = ts
      ∧ items.flatMap Spaced.text = text := by
  -- The gaps are those of the derivation, from the last token to the first.
  induction h with
  | @one gap t hgap =>
    exact ⟨[⟨t, gap, hwritten t (by simp), hgap⟩], ⟨apart_endOfFile (hlast t rfl) gap, trivial⟩,
      rfl, List.append_nil _⟩
  | @cons gap text t u ts hgap hapart _ ih =>
    rw [List.forall_mem_cons] at hwritten
    obtain ⟨items, hitems, hcontents, rfl⟩ := ih hwritten.2 (by simpa using hlast)
    refine ⟨⟨t, gap, hwritten.1, hgap⟩ :: items, ⟨?_, hitems⟩, by rw [List.map_cons, hcontents],
      rfl⟩
    have hfirst : Spaced.first items = u := by
      rw [Spaced.first, ← List.head?_map, hcontents]
      rfl
    exact hfirst ▸ hapart

/-- Every text that spells tokens in order from the first of them on (`SpellsFrom`) is read as these
tokens. The last one may not be a slash, since a comment could begin there. -/
theorem SpellsFrom.contents_tokens {ts : List Content} {text : List Char}
    (h : SpellsFrom Apart ts text) (hwritten : ∀ t ∈ ts, IsWritten t)
    (hlast : ∀ t ∈ ts.getLast?, t.1 ≠ .divide) (pos : Position) :
    (Cursor.tokens ⟨text, pos⟩).map content = ts := by
  obtain ⟨items, hitems, rfl, rfl⟩ := h.exists_keptApart hwritten hlast
  exact hitems.contents_tokens pos

/-- Every text that `Spells` relates to tokens is read as these tokens. -/
theorem Spells.contents_tokens {ts : List Content} {text : List Char} (h : Spells Apart ts text)
    (hwritten : ∀ t ∈ ts, IsWritten t) (hlast : ∀ t ∈ ts.getLast?, t.1 ≠ .divide)
    (pos : Position) : (Cursor.tokens ⟨text, pos⟩).map content = ts := by
  cases h with
  | none hgap =>
    rw [Cursor.tokens_of_end (by rw [next_of_last hgap.longest]; rfl)]
    rfl
  | some hgap hfrom =>
    rw [Cursor.tokens_of_isGap hgap]
    exact hfrom.contents_tokens hwritten hlast _

end Token

end Modlet
