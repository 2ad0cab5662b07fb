import Modlet.Proofs.Token.LongestMatch

/-!
# Later text does not change earlier tokens

How a source is cut up to some place does not depend on what stands behind it, as long as the text
behind cannot lengthen the last lexeme. Two kinds of text cannot: the end of the source, and the end
of a line. The one lexeme that an end of a line does not end is a string that nothing closes.

* `IsClosed`: lexemes other than strings that nothing closes.
* `Decomposes.take`: a source that ends inside the gap behind some parts is cut into these parts.
* `Decomposes.tokens_lineBreak`: behind the end of a line, reading begins anew.
-/

namespace Modlet

/-! ### Lexemes that end by themselves -/

/-- A lexeme that is no string without its closing mark: what begins with a quotation mark has a
second one. -/
def IsClosed (lexeme : List Char) : Prop := ∀ body, lexeme = '"' :: body → '"' ∈ body

/-- A lexeme that `Means` a valid token is closed. -/
theorem Means.isClosed {lexeme : List Char} {t : Token.Content} (h : Means lexeme t)
    (hvalid : t.1 ≠ .invalid) : IsClosed lexeme := by
  rintro body rfl
  by_contra hbody
  exact hvalid (congrArg Prod.fst (h.unique (.unterminated hbody)))

/-- Lexemes that mean valid tokens are closed, all of them. -/
theorem isClosed_of_forall_means {parts : List Part} {ts : List Token}
    (h : List.Forall₂ (fun part t => Means part.lexeme t.content) parts ts)
    (hvalid : ∀ t ∈ ts, t.kind ≠ .invalid) : ∀ part ∈ parts, IsClosed part.lexeme := by
  induction h with
  | nil => simp
  | cons hmeans _ ih =>
    rw [List.forall_mem_cons] at hvalid ⊢
    exact ⟨hmeans.isClosed hvalid.1, ih hvalid.2⟩

/-- A closed string ends with its closing mark, if `Lexeme.split` takes all of it. -/
theorem IsClosed.getLast? {more behind : List Char} (h : IsClosed ('"' :: more))
    (hsplit : Lexeme.split '"' (more ++ behind) = (more, behind)) : more.getLast? = some '"' := by
  obtain ⟨body, rest, htext, hbody⟩ := List.eq_append_cons_of_mem (h more rfl)
  rw [htext, List.append_assoc, List.cons_append, Lexeme.split_string hbody] at hsplit
  rw [htext, ← (Prod.mk.inj hsplit).1]
  simp

/-- An `IsGapBefore` that something stands behind has ended, so it is an `IsGap`. -/
theorem IsGapBefore.isGap {gap behind : List Char} (h : IsGapBefore gap behind)
    (hbehind : behind ≠ []) : IsGap gap := by
  cases h with
  | closed _ hgap => exact hgap
  | trailing => exact absurd rfl hbehind

/-- Every gap has ended behind the end of a line. -/
theorem IsGapBefore.lineBreak {gap behind : List Char} (h : IsGapBefore gap behind) :
    IsGap (gap ++ ['\n']) := by
  cases h with
  | closed _ hgap => exact hgap.append (.spacing rfl .nil)
  | trailing hgap hbody =>
    rw [List.append_assoc]
    exact hgap.append (.comment hbody .nil)

/-- A token is its `content` at its place. -/
theorem Token.eq_of_content {t u : Token} (hcontent : t.content = u.content)
    (hpos : t.pos = u.pos) : t = u := by
  obtain ⟨kind, text, pos⟩ := t
  obtain ⟨kind', text', pos'⟩ := u
  simp_all [content]

/-! ### Parts before other texts -/

/-- A part is cut off as the `Longest` one also before another text that `BeginsLike` what stood
there. -/
theorem longest_swap {part : Part} {behind other : List Char}
    (hgap : Longest IsGapBefore part.gap (part.lexeme ++ behind))
    (hlexeme : Longest IsLexemeBefore part.lexeme behind) (hclosed : IsClosed part.lexeme)
    (hother : BeginsLike other behind) :
    Longest IsGapBefore part.gap (part.lexeme ++ other)
      ∧ Longest IsLexemeBefore part.lexeme other := by
  obtain ⟨c, more, hpart, hsplit, hmore⟩ := split_of_part hgap hlexeme
  -- A lexeme stands behind the gap, so its last comment has ended and no other gap begins there.
  have hisGap : IsGap part.gap := hgap.1.isGap (by simp [hpart])
  have hsolid : IsSolid (c :: more ++ behind) := by
    have h := isSolid_splitGap false (part.text ++ behind)
    rwa [hsplit] at h
  rw [hpart] at hclosed
  have hswapped : Lexeme.split c (more ++ other) = (more, other) := by
    refine Lexeme.split_swap hmore ?_ hother
    rintro rfl
    exact hclosed.getLast? hmore
  -- Both pieces are split off before the other text as well, and so they are longest there.
  have hsolid' := hsolid.swap hother
  have hgap' := longest_splitGap (part.gap ++ (c :: more ++ other))
  have hlexeme' := longest_split (hsolid' c rfl).1 (more ++ other)
  rw [splitGap_eq hisGap hsolid'] at hgap'
  rw [hswapped] at hlexeme'
  rw [hpart]
  exact ⟨hgap', hlexeme'⟩

/-- A text begins like every text that it is the beginning of (`BeginsLike`). -/
theorem beginsLike_of_isPrefix {other behind : List Char} (h : other <+: behind) :
    BeginsLike other behind := by
  intro c hc
  obtain ⟨rest, rfl⟩ := h
  obtain ⟨more, rfl⟩ := List.head?_eq_some_iff.mp hc
  exact .inr rfl

/-- At the end of a source an `IsGap` cannot be made longer. -/
theorem IsGap.longest {gap : List Char} (h : IsGap gap) : Longest IsGapBefore gap [] :=
  ⟨.closed [] h, fun _ _ hnil hne _ => hne (List.append_eq_nil_iff.mp hnil.symm).1⟩

/-- A source that ends inside the gap behind some closed parts is cut into these parts
(`Decomposes`). -/
theorem Decomposes.take {text gap front : List Char} {before after : List Part}
    (h : Decomposes text (before ++ after) gap) (hclosed : ∀ part ∈ before, IsClosed part.lexeme)
    (hgap : IsGap front) (hfront : front <+: after.flatMap Part.text ++ gap) :
    Decomposes (before.flatMap Part.text ++ front) before front := by
  induction before generalizing text with
  | nil => exact .last hgap.longest
  | cons part before ih =>
    cases h with
    | @part _ behind _ _ hgap' hlexeme hrest =>
      change Decomposes behind (before ++ after) gap at hrest
      -- The shorter source is the beginning of the longer one, also behind this part.
      have hbegins : BeginsLike (before.flatMap Part.text ++ front) behind := by
        refine beginsLike_of_isPrefix ?_
        rw [hrest.text_eq, List.flatMap_append, List.append_assoc]
        exact (List.prefix_append_right_inj _).mpr hfront
      obtain ⟨hgap'', hlexeme'⟩ := longest_swap hgap' hlexeme (hclosed part (by simp)) hbegins
      rw [List.flatMap_cons, List.append_assoc]
      exact .part hgap'' hlexeme' (ih hrest fun part hpart => hclosed part (by simp [hpart]))

/-! ### Reading behind gaps and ends of lines -/

namespace Cursor

/-- An `IsGap` is skipped by `next`. -/
theorem next_of_isGap {gap : List Char} (hgap : IsGap gap) (text : List Char) (pos : Position) :
    next ⟨gap ++ text, pos⟩ = next ⟨text, pos.after gap⟩ := by
  rcases hsplit : splitGap false text with ⟨more, rest⟩
  have hwhole : splitGap false (gap ++ text) = (gap ++ more, rest) := by
    rw [splitGap_of_isGap hgap, hsplit]
  simp only [next, hwhole, hsplit, Position.after_append]

/-- The tokens behind a gap. -/
theorem tokens_of_isGap {gap : List Char} (hgap : IsGap gap) (text : List Char) (pos : Position) :
    tokens ⟨gap ++ text, pos⟩ = tokens ⟨text, pos.after gap⟩ := by
  rw [tokens, tokens.eq_def ⟨text, pos.after gap⟩, next_of_isGap hgap]

end Cursor

/-- The tokens of a source that is given by its characters: `tokensOf` is `Cursor.tokens` from the
start. -/
theorem tokensOf_ofList (text : List Char) :
    tokensOf (String.ofList text) = Cursor.tokens ⟨text, .start⟩ := by
  rw [tokensOf, Cursor.ofSource, String.toList_ofList]

/-- A part is read by `next` as one token, whatever stands behind it, as long as it is the `Longest`
there. -/
theorem next_of_same_part {part : Part} {behind other : List Char}
    (hgap : Longest IsGapBefore part.gap (part.lexeme ++ behind))
    (hlexeme : Longest IsLexemeBefore part.lexeme behind)
    (hgap' : Longest IsGapBefore part.gap (part.lexeme ++ other))
    (hlexeme' : Longest IsLexemeBefore part.lexeme other) (pos : Position) :
    ∃ t, Cursor.next ⟨part.text ++ behind, pos⟩ = (t, ⟨behind, pos.after part.text⟩)
      ∧ Cursor.next ⟨part.text ++ other, pos⟩ = (t, ⟨other, pos.after part.text⟩)
      ∧ t.kind ≠ .endOfFile := by
  obtain ⟨t, hnext, hkind, hmeans, hpos⟩ := next_of_part hgap hlexeme pos
  obtain ⟨u, hnext', -, hmeans', hpos'⟩ := next_of_part hgap' hlexeme' pos
  -- A token is told by its lexeme and its place, which are the same.
  obtain rfl : t = u := Token.eq_of_content (hmeans.unique hmeans') (hpos.trans hpos'.symm)
  exact ⟨t, hnext, hnext', hkind⟩

/-- Sources that `Decomposes` cuts into the same parts first have the same tokens first. -/
theorem Decomposes.tokens_take {text other gap gap' : List Char} {before after : List Part}
    (h : Decomposes text (before ++ after) gap) (h' : Decomposes other before gap')
    (pos : Position) :
    Cursor.tokens ⟨other, pos⟩ = (Cursor.tokens ⟨text, pos⟩).take before.length := by
  -- Both texts give the same token for each part, as long as the parts are the same.
  induction before generalizing text other pos with
  | nil =>
    cases h' with
    | last hlast => exact Cursor.tokens_of_end (by rw [next_of_last hlast]; rfl)
  | cons part before ih =>
    cases h with
    | part hgap hlexeme hrest =>
      cases h' with
      | part hgap' hlexeme' hrest' =>
        obtain ⟨t, hnext, hnext', hkind⟩ := next_of_same_part hgap hlexeme hgap' hlexeme' pos
        rw [Cursor.tokens_of_next hnext hkind, Cursor.tokens_of_next hnext' hkind,
          ih hrest hrest', List.length_cons, List.take_succ_cons]

/-- Behind the end of a line reading begins anew, unless a string is still open there. The tokens of
the parts come first, and then `Cursor.tokens` of the rest from the next line on. -/
theorem Decomposes.tokens_lineBreak {text gap : List Char} {parts : List Part}
    (h : Decomposes text parts gap) (hclosed : ∀ part ∈ parts, IsClosed part.lexeme)
    (rest : List Char) (pos : Position) :
    Cursor.tokens ⟨text ++ '\n' :: rest, pos⟩ =
      Cursor.tokens ⟨text, pos⟩ ++ Cursor.tokens ⟨rest, pos.after (text ++ ['\n'])⟩ := by
  induction h generalizing pos with
  | @last gap hlast =>
    -- The end of the line ends the comment that may be open, and all of it is one gap.
    have hnone : Cursor.tokens ⟨gap, pos⟩ = [] :=
      Cursor.tokens_of_end (by rw [next_of_last hlast]; rfl)
    have hskip := Cursor.tokens_of_isGap hlast.1.lineBreak rest pos
    rw [List.append_assoc] at hskip
    rw [hnone, List.nil_append]
    exact hskip
  | @part part behind gap parts hgap hlexeme _ ih =>
    -- Only where nothing stood behind the part, the end of the line is what stands there now.
    have hbegins : BeginsLike (behind ++ '\n' :: rest) behind := by
      cases behind with
      | nil =>
        rintro _ ⟨⟩
        exact .inl rfl
      | cons c behind =>
        rintro _ ⟨⟩
        exact .inr rfl
    obtain ⟨hgap', hlexeme'⟩ := longest_swap hgap hlexeme (hclosed part (by simp)) hbegins
    obtain ⟨t, hnext, hnext', hkind⟩ := next_of_same_part hgap hlexeme hgap' hlexeme' pos
    rw [Cursor.tokens_of_next hnext hkind, List.append_assoc, Cursor.tokens_of_next hnext' hkind,
      ih (fun part hpart => hclosed part (by simp [hpart]))]
    simp [Position.after_append]

end Modlet
