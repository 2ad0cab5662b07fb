import Modlet.Proofs.Token.Boundary
import Modlet.Proofs.Token.Spelling

/-!
# Which tokens need something between them

Two tokens can stand side by side, unless the one is the beginning of a longer lexeme that takes in
the other, or both together open a comment. Which tokens these are is told by their kinds alone.
Between all others a gap may stand or not, and what is read are the tokens that were written.

* `Fuses.isLexemeBefore`: tokens that run together are one lexeme.
* `tokensOf_spaced`: tokens with gaps that keep them apart are read as they are, and two tokens
  without a gap are, exactly if they do not run together.
-/

namespace Modlet

open Token

/-- A text that is one lexeme by `IsLexemeBefore` has one token. -/
theorem IsLexemeBefore.length_tokens {text : List Char} (h : IsLexemeBefore text [])
    (hsolid : IsSolid text) (pos : Position) : (Cursor.tokens ⟨text, pos⟩).length = 1 := by
  have hgap : Longest IsGapBefore [] text := by
    have hsplit := longest_splitGap text
    rwa [splitGap_of_isSolid hsolid] at hsplit
  have hlexeme : Longest IsLexemeBefore text [] :=
    ⟨h, fun _ _ hnil hne _ => hne (List.append_eq_nil_iff.mp hnil.symm).1⟩
  have hcut : Decomposes (Part.text ⟨[], text⟩ ++ []) [⟨[], text⟩] [] :=
    .part (by rwa [List.append_nil]) hlexeme (.last IsGap.nil.longest)
  rw [Part.text, List.nil_append, List.append_nil] at hcut
  exact (hcut.tokens pos).1.length_eq.symm

/-- A word stays a word with more characters that `isWordPart` behind it. -/
theorem isWord_append {text more : List Char} (h : isWord text = true)
    (hmore : ∀ c ∈ more, isWordPart c = true) : isWord (text ++ more) = true := by
  cases text with
  | nil => cases h
  | cons c rest =>
    rw [isWord, Bool.and_eq_true] at h
    rw [List.cons_append, isWord, List.all_append, h.1, h.2, List.all_eq_true.mpr hmore]
    rfl

namespace Token

/-- Nothing keeps two tokens `Apart`, exactly if they neither run together nor open a comment. -/
theorem apart_nil_iff {t u : Content} :
    Apart t [] u ↔ ¬ (Fuses t.1 u.1 ∨ (t.1 = .divide ∧ u.1 = .divide)) := by
  simp [Apart, not_or]

/-- A keyword or a mark is `spelled` in one way. -/
theorem spelled_of_isFixed {t : Content} (h : IsWritten t) {kind : Kind} (hkind : t.1 = kind)
    (hfixed : kind.isFixed = true) : spelled t = kind.spelling.toList := by
  obtain ⟨left, text⟩ := t
  obtain rfl : left = kind := hkind
  rw [(isWritten_iff_of_isFixed hfixed).mp h]
  cases left <;> first | rfl | cases hfixed

/-- Where an identifier, a keyword or an integer is `spelled`, the text `IsSolid`. -/
theorem isSolid_of_isWritten {t : Content} (h : IsWritten t)
    (hkind : t.1.isWordLike = true ∨ t.1 = .integer) (rest : List Char) :
    IsSolid (spelled t ++ rest) := by
  have hpart := isWordPart_of_isWritten h hkind
  obtain ⟨c, more, htext⟩ := List.exists_cons_of_ne_nil (means_spelled h).ne_nil
  rw [htext] at hpart ⊢
  exact isSolid_of_isWordPart (hpart c (by simp)) _

/-- Two tokens that `Fuses` relates are one lexeme if nothing stands between them. -/
theorem Fuses.isLexemeBefore {t u : Content} (h : Fuses t.1 u.1) (ht : IsWritten t)
    (hu : IsWritten u) :
    IsLexemeBefore (spelled t ++ spelled u) [] ∧ IsSolid (spelled t ++ spelled u) := by
  rcases h with ⟨hleft, hright⟩ | ⟨hleft, hright⟩ | ⟨hleft, hright⟩
  · -- A word goes on with another word or with an integer.
    have hword := (means_spelled ht).isWord hleft
    exact ⟨.word [] (isWord_append hword (isWordPart_of_isWritten hu hright)),
      isSolid_of_isWritten ht (.inl hleft) _⟩
  · -- The digits of an integer go on with those of another.
    have hboth : (spelled t ++ spelled u).all Char.isDigit = true := by
      rw [List.all_eq_true, List.forall_mem_append]
      exact ⟨isDigit_of_isWritten ht hleft, isDigit_of_isWritten hu hright⟩
    have hne := List.append_ne_nil_of_left_ne_nil (means_spelled ht).ne_nil (spelled u)
    exact ⟨.digits [] hne hboth, isSolid_of_isWritten ht (.inr hleft) _⟩
  · -- The two marks are spelled like the mark of two characters.
    rw [spelled_of_isFixed ht hleft rfl, spelled_of_isFixed hu hright rfl]
    refine ⟨@IsLexemeBefore.mark .greaterEqual [] (by decide), ?_⟩
    rintro _ ⟨⟩
    exact ⟨by decide, fun hslash => absurd hslash.1 (by decide)⟩

/-- Two tokens with nothing between them are not read as they are, if `Fuses` relates them or they
open a comment. -/
theorem contents_tokens_ne {t u : Content} (ht : IsWritten t) (hu : IsWritten u)
    (h : Fuses t.1 u.1 ∨ (t.1 = .divide ∧ u.1 = .divide)) (pos : Position) :
    (Cursor.tokens ⟨spelled t ++ spelled u, pos⟩).map content ≠ [t, u] := by
  intro hread
  -- Two tokens would have to be read.
  have hlength : (Cursor.tokens ⟨spelled t ++ spelled u, pos⟩).length = 2 := by
    rw [← List.length_map, hread]
    rfl
  rcases h with hfuses | ⟨hleft, hright⟩
  · obtain ⟨hlexeme, hsolid⟩ := hfuses.isLexemeBefore ht hu
    have hone := hlexeme.length_tokens hsolid pos
    omega
  · -- Two slashes are a comment up to the end.
    have hcomment : IsGapBefore (spelled t ++ spelled u) [] := by
      rw [spelled_of_isFixed ht hleft rfl, spelled_of_isFixed hu hright rfl]
      exact @IsGapBefore.trailing [] [] .nil (by simp)
    rw [hcomment.tokens_eq_nil pos] at hlength
    cases hlength

/-- The kinds of two tokens tell whether there has to be something between them. Tokens of any
number are read as they are by `tokensOf`, if `KeptApart` holds of them and their gaps. Two tokens
without a gap are, exactly if they neither run together in the sense of `Fuses` nor open a
comment. -/
theorem tokensOf_spaced :
    (∀ leading items, IsGap leading → KeptApart items →
        (tokensOf (String.ofList (leading ++ items.flatMap Spaced.text))).map content =
          items.map Spaced.content)
      ∧ ∀ t u, IsWritten t → IsWritten u →
        ((tokensOf (String.ofList (spelled t ++ spelled u))).map content = [t, u] ↔
          ¬ (Fuses t.1 u.1 ∨ (t.1 = .divide ∧ u.1 = .divide))) := by
  have hspaced : ∀ leading items, IsGap leading → KeptApart items →
      (tokensOf (String.ofList (leading ++ items.flatMap Spaced.text))).map content =
        items.map Spaced.content := by
    intro leading items hgap hitems
    rw [tokensOf_ofList, Cursor.tokens_of_isGap hgap]
    exact hitems.contents_tokens _
  refine ⟨hspaced, fun t u ht hu => ⟨fun hread hside => ?_, fun hside => ?_⟩⟩
  · rw [tokensOf_ofList] at hread
    exact contents_tokens_ne ht hu hside _ hread
  · -- Two tokens without gaps are a list of two with empty ones.
    have hitems : KeptApart [⟨t, [], ht, .nil⟩, ⟨u, [], hu, .nil⟩] :=
      ⟨apart_nil_iff.mpr hside,
        apart_nil_iff.mpr (by simp [Fuses, Kind.isWordLike, Spaced.first]), trivial⟩
    simpa [Spaced.text] using hspaced [] _ .nil hitems

/-- An integer before a name and marks of one and two characters with nothing between them, slashes
before a space and before a comment, and two marks that are read as one. -/
theorem tokensOf_spaced_marks :
    (tokensOf "// \"\n12abc>>==/ /\t// c\n").map content =
        [(.integer, "12"), (.identifier, "abc"), Kind.greater.fixed, Kind.greaterEqual.fixed,
          Kind.assign.fixed, Kind.divide.fixed, Kind.divide.fixed]
      ∧ (tokensOf ">=").map content ≠ [Kind.greater.fixed, Kind.assign.fixed] := by
  have hleading : IsGap ['/', '/', ' ', '"', '\n'] := @IsGap.comment [' ', '"'] [] (by decide) .nil
  have hcomment : IsGap ['\t', '/', '/', ' ', 'c', '\n'] :=
    .spacing rfl (@IsGap.comment [' ', 'c'] [] (by decide) .nil)
  have hitems : KeptApart
      [⟨(.integer, "12"), [], isWritten_integer.mpr (by decide), .nil⟩,
        ⟨(.identifier, "abc"), [], IsIdentifier.isWritten (by decide), .nil⟩,
        ⟨Kind.greater.fixed, [], rfl, .nil⟩, ⟨Kind.greaterEqual.fixed, [], rfl, .nil⟩,
        ⟨Kind.assign.fixed, [], rfl, .nil⟩, ⟨Kind.divide.fixed, [' '], rfl, .spacing rfl .nil⟩,
        ⟨Kind.divide.fixed, _, rfl, hcomment⟩] := by
    simp [KeptApart, Apart, Fuses, Spaced.first, Kind.fixed, Kind.isWordLike, isSpacing]
  constructor
  · simpa [Spaced.text, spelled, Kind.fixed, Kind.spelling]
      using tokensOf_spaced.1 _ _ hleading hitems
  · intro hread
    have happart := (tokensOf_spaced.2 Kind.greater.fixed Kind.assign.fixed rfl rfl).mp hread
    exact happart (.inl (.inr (.inr ⟨rfl, rfl⟩)))

end Token

end Modlet
