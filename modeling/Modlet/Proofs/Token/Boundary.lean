import Modlet.Proofs.Token.Places

/-!
# Gaps between tokens

At the beginning of a source, behind each of its tokens and at its end, a gap can be put in that
begins with a spacing character. Such a gap ends no comment and opens no string, so it moves the
tokens behind it, and changes nothing else about them.

* `IsBoundary`: a place of a text at which no lexeme is left open.
* `Decomposes.tokens_swap`: behind closed lexemes every text is read as if it stood alone.
* `IsBoundary.contents_tokens`: a gap that is put in changes the kind and the text of no token.
-/

namespace Modlet

open Token

/-- A place of a text at which no lexeme is left open: the beginning of the text, the place behind a
lexeme that `IsClosed`, or the end of a text without a string that lacks its closing mark. The text
is given by what stands before the place and what stands behind it. -/
inductive IsBoundary : List Char → List Char → Prop
  | start (behind : List Char) : IsBoundary [] behind
  | lexeme {before after : List Part} {part : Part} {behind gap : List Char} :
      Decomposes (before.flatMap Part.text ++ part.text ++ behind) (before ++ part :: after) gap →
      IsClosed part.lexeme → IsBoundary (before.flatMap Part.text ++ part.text) behind
  | endOfFile {text gap : List Char} {parts : List Part} :
      Decomposes text parts gap → (∀ part ∈ parts, IsClosed part.lexeme) → IsBoundary text []

/-- No lexeme is left open behind the first token of a text, as `splitGap` and `Lexeme.split` take
it off. -/
theorem IsBoundary.behind_first {gap more behind : List Char} {c : Char}
    (hgap : splitGap false (gap ++ c :: more ++ behind) = (gap, c :: more ++ behind))
    (hlexeme : Lexeme.split c (more ++ behind) = (more, behind)) (hclosed : IsClosed (c :: more)) :
    IsBoundary (gap ++ c :: more) behind := by
  have hsolid := isSolid_splitGap false (gap ++ c :: more ++ behind)
  have hlongestGap := longest_splitGap (gap ++ c :: more ++ behind)
  rw [hgap] at hsolid hlongestGap
  have hlongest := longest_split (hsolid c rfl).1 (more ++ behind)
  rw [hlexeme] at hlongest
  obtain ⟨parts, last, hparts⟩ := exists_decomposes behind
  exact @lexeme [] parts ⟨gap, c :: more⟩ behind last (.part hlongestGap hlongest hparts) hclosed

/-! ### Texts that begin alike -/

theorem BeginsLike.refl (text : List Char) : BeginsLike text text := fun _ hc => .inr hc

/-- Behind the same text, texts that `BeginsLike` relates are still related. -/
theorem BeginsLike.append_left {other behind : List Char} (h : BeginsLike other behind)
    (front : List Char) : BeginsLike (front ++ other) (front ++ behind) := by
  cases front with
  | nil => exact h
  | cons c front => exact fun _ hc => .inr hc

/-- A text with a spacing character before it begins like everything, in the sense of
`BeginsLike`. -/
theorem beginsLike_of_isSpacing {gap : List Char} (h : ∃ c ∈ gap.head?, isSpacing c = true)
    (rest behind : List Char) : BeginsLike (gap ++ rest) behind := by
  obtain ⟨c, hc, hspacing⟩ := h
  obtain ⟨more, rfl⟩ := List.head?_eq_some_iff.mp hc
  rintro _ ⟨⟩
  exact .inl hspacing

/-! ### Contents and places -/

/-- Lexemes tell the `content` of their tokens: two lists that the same lexemes `Means` agree in
it. -/
theorem contents_eq_of_means {parts : List Part} {ts us : List Token}
    (hts : List.Forall₂ (fun part t => Means part.lexeme t.content) parts ts)
    (hus : List.Forall₂ (fun part t => Means part.lexeme t.content) parts us) :
    ts.map content = us.map content := by
  induction hts generalizing us with
  | nil =>
    cases hus
    rfl
  | cons ht _ ih =>
    cases hus with
    | cons hu hus => rw [List.map_cons, List.map_cons, ht.unique hu, ih hus]

/-- Where a text stands makes no difference to the `content` of its tokens. -/
theorem Cursor.contents_tokens_pos (text : List Char) (pos pos' : Position) :
    (tokens ⟨text, pos⟩).map content = (tokens ⟨text, pos'⟩).map content := by
  obtain ⟨parts, gap, hcut⟩ := exists_decomposes text
  exact contents_eq_of_means (hcut.tokens pos).1 (hcut.tokens pos').1

/-- Behind the end of a line reading begins anew, if no token before it is invalid: `content` by
`content` the tokens are those of the two texts. -/
theorem Cursor.contents_tokens_lineBreak {front : List Char} {pos : Position}
    (hvalid : ∀ t ∈ tokens ⟨front, pos⟩, t.kind ≠ .invalid) (rest : List Char)
    (pos' pos'' : Position) :
    (tokens ⟨front ++ '\n' :: rest, pos'⟩).map content =
      (tokens ⟨front, pos⟩).map content ++ (tokens ⟨rest, pos''⟩).map content := by
  obtain ⟨parts, gap, hcut⟩ := exists_decomposes front
  have hclosed := isClosed_of_forall_means (hcut.tokens pos).1 hvalid
  rw [hcut.tokens_lineBreak hclosed rest pos', List.map_append, contents_tokens_pos front _ pos,
    contents_tokens_pos rest _ pos'']

/-! ### Reading behind closed lexemes -/

/-- A lexeme that something stands behind `IsClosed`, since an open string goes on to the end. -/
theorem IsLexemeBefore.isClosed {lexeme behind : List Char} (h : IsLexemeBefore lexeme behind)
    (hbehind : behind ≠ []) : IsClosed lexeme := by
  rintro body rfl
  generalize htext : '"' :: body = lexeme at h
  cases h with
  | string => simp [(List.cons.inj htext).2]
  | unterminated => exact absurd rfl hbehind
  -- No other lexeme begins with a quotation mark.
  | mark _ hkind =>
    rcases Lexeme.mark_cases hkind with ⟨-, htwo⟩ | ⟨c, hone, hquote, -⟩
    · exact absurd (htext.trans htwo) (by simp)
    · exact absurd (List.cons.inj (htext.trans hone)).1 (Ne.symm hquote)
  | word _ hword =>
    subst htext
    exact absurd hword (by simp [isWord, isWordStart])
  | digits _ _ hdigits =>
    subst htext
    exact absurd hdigits (by simp)
  | stray _ hc => exact absurd (List.cons.inj htext).1 (Ne.symm hc.2.2.1)

/-- Every lexeme that another one stands behind is closed. -/
theorem Decomposes.isClosed_of_mem {text gap : List Char} {before after : List Part} {part : Part}
    (h : Decomposes text (before ++ part :: after) gap) : ∀ p ∈ before, IsClosed p.lexeme := by
  induction before generalizing text with
  | nil => simp
  | cons first before ih =>
    cases h with
    | @part _ behind _ _ _ hlexeme hrest =>
      change Decomposes behind (before ++ part :: after) gap at hrest
      rw [List.forall_mem_cons]
      refine ⟨hlexeme.1.isClosed ?_, ih hrest⟩
      -- The last of these parts has a lexeme, which stands behind the first one.
      rintro rfl
      have hne := hrest.lexeme_ne_nil part (by simp)
      have hnone := hrest.text_eq
      simp_all [Part.text]

/-- Behind closed lexemes every text that `BeginsLike` relates to what stands there is read as if it
stood alone. -/
theorem Decomposes.tokens_swap {text gap other : List Char} {before after : List Part}
    (h : Decomposes text (before ++ after) gap) (hclosed : ∀ part ∈ before, IsClosed part.lexeme)
    (hother : BeginsLike other (after.flatMap Part.text ++ gap)) (pos : Position) :
    Cursor.tokens ⟨before.flatMap Part.text ++ other, pos⟩ =
      (Cursor.tokens ⟨text, pos⟩).take before.length
        ++ Cursor.tokens ⟨other, pos.after (before.flatMap Part.text)⟩ := by
  -- The induction is on the parts before: each is read as it was, since what stands behind it
  -- begins alike, with the next part or with the other text.
  induction before generalizing text pos with
  | nil => rfl
  | cons part before ih =>
    obtain ⟨hpart, hclosed⟩ := List.forall_mem_cons.mp hclosed
    cases h with
    | @part _ behind _ _ hgap hlexeme hrest =>
      change Decomposes behind (before ++ after) gap at hrest
      have hbegins : BeginsLike (before.flatMap Part.text ++ other) behind := by
        rw [hrest.text_eq, List.flatMap_append, List.append_assoc]
        exact hother.append_left _
      obtain ⟨hgap', hlexeme'⟩ := longest_swap hgap hlexeme hpart hbegins
      obtain ⟨t, hnext, hnext', hkind⟩ := next_of_same_part hgap hlexeme hgap' hlexeme' pos
      rw [List.flatMap_cons, List.append_assoc, Cursor.tokens_of_next hnext hkind,
        Cursor.tokens_of_next hnext' hkind, ih hrest hclosed, List.length_cons,
        List.take_succ_cons, List.cons_append, Position.after_append]

/-- Behind closed lexemes, a text with the same tokens as what stands there can take its place
without a change of any `content`. -/
theorem Decomposes.contents_tokens_swap {text gap other : List Char} {before after : List Part}
    (h : Decomposes text (before ++ after) gap) (hclosed : ∀ part ∈ before, IsClosed part.lexeme)
    (hother : BeginsLike other (after.flatMap Part.text ++ gap))
    (hsame : ∀ pos pos', (Cursor.tokens ⟨other, pos⟩).map content =
      (Cursor.tokens ⟨after.flatMap Part.text ++ gap, pos'⟩).map content) (pos : Position) :
    (Cursor.tokens ⟨before.flatMap Part.text ++ other, pos⟩).map content =
      (Cursor.tokens ⟨text, pos⟩).map content := by
  have htext : text = before.flatMap Part.text ++ (after.flatMap Part.text ++ gap) := by
    rw [← List.append_assoc, ← List.flatMap_append]
    exact h.text_eq
  have hself := h.tokens_swap hclosed (.refl _) pos
  rw [← htext] at hself
  rw [h.tokens_swap hclosed hother pos, List.map_append, hsame _ _, ← List.map_append]
  exact (congrArg _ hself).symm

/-! ### Gaps that are put in -/

/-- A gap before `behind` stays one with an `IsGap` in front of it. -/
theorem IsGap.append_before {front gap behind : List Char} (hfront : IsGap front)
    (h : IsGapBefore gap behind) : IsGapBefore (front ++ gap) behind := by
  induction hfront with
  | nil => exact h
  | spacing hc _ ih => exact ih.spacing hc
  | comment hbody _ ih => simpa using! ih.comment hbody

/-- At the end of a text, a gap behind an open comment goes on with it. Its first line feed ends the
comment, if it has one. -/
theorem IsGap.behind_comment {gap : List Char} (hgap : IsGap gap) {body : List Char}
    (hbody : '\n' ∉ body) : IsGapBefore ('/' :: '/' :: body ++ gap) [] := by
  induction hgap generalizing body with
  | nil => simpa using IsGapBefore.trailing .nil hbody
  | @spacing c gap _ hgap ih =>
    by_cases hfeed : c = '\n'
    · subst hfeed
      exact .closed _ (.comment hbody hgap)
    · have hmore := @ih (body ++ [c]) (by simp [hbody, Ne.symm hfeed])
      simpa using hmore
  | @comment inner gap hinner hgap _ =>
    have hopen : '\n' ∉ body ++ '/' :: '/' :: inner := by simp [hbody, hinner]
    simpa using! IsGapBefore.closed [] (.comment hopen hgap)

/-- At the end of a text a gap goes on with every gap behind it. -/
theorem IsGapBefore.append {last gap : List Char} (h : IsGapBefore last []) (hgap : IsGap gap) :
    IsGapBefore (last ++ gap) [] := by
  generalize hend : ([] : List Char) = behind at h
  cases h with
  | closed _ hlast => exact .closed _ (hlast.append hgap)
  | trailing hfront hbody =>
    rw [List.append_assoc]
    exact hfront.append_before (hgap.behind_comment hbody)

/-- Where only a gap is left, `Cursor.tokens` is empty. -/
theorem IsGapBefore.tokens_eq_nil {gap : List Char} (h : IsGapBefore gap []) (pos : Position) :
    Cursor.tokens ⟨gap, pos⟩ = [] := by
  have hlast : Longest IsGapBefore gap [] :=
    ⟨h, fun _ _ hnil hne _ => hne (List.append_eq_nil_iff.mp hnil.symm).1⟩
  exact Cursor.tokens_of_end (by rw [next_of_last hlast]; rfl)

/-- The last gap of a cut is an `IsGapBefore` the end of the text. -/
theorem Decomposes.isGapBefore_last {text gap : List Char} {parts : List Part}
    (h : Decomposes text parts gap) : IsGapBefore gap [] := by
  induction h with
  | last hgap => exact hgap.1
  | part _ _ _ ih => exact ih

/-- A gap that begins with a spacing character can be put in at every `IsBoundary`. It changes the
`content` of no token. -/
theorem IsBoundary.contents_tokens {front behind gap : List Char} (h : IsBoundary front behind)
    (hgap : IsGap gap) (hspacing : ∃ c ∈ gap.head?, isSpacing c = true) (pos : Position) :
    (Cursor.tokens ⟨front ++ gap ++ behind, pos⟩).map content =
      (Cursor.tokens ⟨front ++ behind, pos⟩).map content := by
  -- Before the place the tokens are the same, and behind it they only stand elsewhere.
  cases h with
  | start =>
    rw [List.nil_append, List.nil_append, Cursor.tokens_of_isGap hgap]
    exact Cursor.contents_tokens_pos behind _ _
  | @lexeme before after part _ last hcut hclosed =>
    have hall : ∀ p ∈ before ++ [part], IsClosed p.lexeme := by
      rw [List.forall_mem_append, List.forall_mem_singleton]
      exact ⟨hcut.isClosed_of_mem, hclosed⟩
    have hbehind : after.flatMap Part.text ++ last = behind := by
      simpa using hcut.text_eq.symm
    have hfront : before.flatMap Part.text ++ part.text = (before ++ [part]).flatMap Part.text := by
      simp
    rw [List.append_cons] at hcut
    rw [hfront] at hcut ⊢
    rw [List.append_assoc]
    refine hcut.contents_tokens_swap hall (beginsLike_of_isSpacing hspacing _ _) ?_ pos
    intro pos pos'
    rw [hbehind, Cursor.tokens_of_isGap hgap]
    exact Cursor.contents_tokens_pos behind _ _
  | @endOfFile _ last parts hcut hclosed =>
    -- The last gap goes on with the gap that is put in, also where it ends in a comment.
    have hlast := hcut.isGapBefore_last
    have hmore : BeginsLike (last ++ gap) last := by
      cases last with
      | nil => simpa using beginsLike_of_isSpacing hspacing [] []
      | cons c last => exact fun _ hc => .inr hc
    rw [List.append_nil, List.append_nil, hcut.text_eq, List.append_assoc]
    rw [← List.append_nil parts] at hcut
    rw [hcut.contents_tokens_swap hclosed hmore ?_ pos, hcut.text_eq, List.append_nil]
    intro pos pos'
    rw [(hlast.append hgap).tokens_eq_nil]
    exact congrArg _ (hlast.tokens_eq_nil pos').symm

end Modlet
