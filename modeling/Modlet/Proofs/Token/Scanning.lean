import Mathlib
import Modlet.Token.Cursor
import Modlet.Token.Decomposition

/-!
# Where gaps and lexemes end

`splitGap` and `Lexeme.split` cut a text behind the gap or the lexeme at its front. This module says
where that is for texts whose front is known: behind a gap the cut is where it would be without the
gap, and a lexeme ends before every text that does not go on with it.

* `splitGap_of_isGap`: a gap at the front of a text belongs to what is split off.
* `isSolid_splitGap`: no gap begins where a gap was split off.
* `Lexeme.split_of_isLexemeBefore`: every lexeme is the front of what `Lexeme.split` splits off.
* `Lexeme.split_swap`: a lexeme also ends before another text that begins alike.
-/

namespace Modlet

/-! ### Runs of characters -/

/-- A run of characters with the property `p` ends where the next character lacks it. -/
theorem takeWhile_run {α : Type} {p : α → Bool} {run : List α} (hrun : ∀ c ∈ run, p c = true)
    (behind : List α) (hbehind : ∀ c ∈ behind.head?, p c = false) :
    (run ++ behind).takeWhile p = run ∧ (run ++ behind).dropWhile p = behind := by
  rw [List.takeWhile_append_of_pos hrun, List.dropWhile_append_of_pos hrun]
  cases behind with
  | nil => simp
  | cons c rest =>
    have hc : p c = false := hbehind c rfl
    simp [hc]

/-- There is one way to cut a text into a run with the property `p` and what stands behind it. -/
theorem run_unique {α : Type} {p : α → Bool} {run run' behind behind' : List α}
    (hrun : ∀ c ∈ run, p c = true) (hbehind : ∀ c ∈ behind.head?, p c = false)
    (hrun' : ∀ c ∈ run', p c = true) (hbehind' : ∀ c ∈ behind'.head?, p c = false)
    (h : run ++ behind = run' ++ behind') : run = run' ∧ behind = behind' := by
  obtain ⟨htake, hdrop⟩ := takeWhile_run hrun behind hbehind
  obtain ⟨htake', hdrop'⟩ := takeWhile_run hrun' behind' hbehind'
  rw [h] at htake hdrop
  exact ⟨htake.symm.trans htake', hdrop.symm.trans hdrop'⟩

/-- Behind a run stands no character of its sort. -/
theorem head?_dropWhile_eq_false (p : Char → Bool) (text : List Char) :
    ∀ c ∈ (text.dropWhile p).head?, p c = false := by
  intro c hc
  have h := List.head?_dropWhile_not p text
  rw [Option.mem_def.mp hc] at h
  simpa using h

/-! ### Gaps -/

/-- A text at whose front `splitGap` finds nothing: neither a spacing character nor two slashes. -/
def IsSolid (text : List Char) : Prop :=
  ∀ c ∈ text.head?, isSpacing c = false ∧ ¬ (c = '/' ∧ text.tail.head? = some '/')

/-- One `IsGap` behind another is a gap. -/
theorem IsGap.append {gap more : List Char} (hgap : IsGap gap) (hmore : IsGap more) :
    IsGap (gap ++ more) := by
  induction hgap with
  | nil => exact hmore
  | spacing hc _ ih => exact .spacing hc ih
  | comment hbody _ ih => simpa using! IsGap.comment hbody ih

/-- Inside a comment `splitGap` takes every character, and goes on outside behind a line feed. -/
theorem splitGap_inside (c : Char) (rest : List Char) :
    splitGap true (c :: rest) =
      (c :: (splitGap (c ≠ '\n') rest).1, (splitGap (c ≠ '\n') rest).2) := by
  simp [splitGap]

/-- A spacing character at the front of a text belongs to what `splitGap` takes. -/
theorem splitGap_spacing {c : Char} (hc : isSpacing c = true) (rest : List Char) :
    splitGap false (c :: rest) = (c :: (splitGap false rest).1, (splitGap false rest).2) := by
  simp [splitGap, hc]

/-- Two slashes open a comment, where `splitGap` goes on inside. -/
theorem splitGap_slashes (rest : List Char) :
    splitGap false ('/' :: '/' :: rest) =
      ('/' :: '/' :: (splitGap true rest).1, (splitGap true rest).2) := by
  simp [splitGap, isSpacing]

/-- Where the text `IsSolid`, nothing is split off. -/
theorem splitGap_of_isSolid {text : List Char} (h : IsSolid text) :
    splitGap false text = ([], text) := by
  cases text with
  | nil => rfl
  | cons c rest =>
    obtain ⟨hspacing, hslash⟩ := h c rfl
    simp only [List.tail_cons] at hslash
    simp [splitGap, hspacing, hslash]

/-- The text of a comment belongs to what `splitGap` takes. -/
theorem splitGap_comment {body : List Char} (hbody : '\n' ∉ body) (text : List Char) :
    splitGap true (body ++ text) = (body ++ (splitGap true text).1, (splitGap true text).2) := by
  induction body with
  | nil => rfl
  | cons c body ih =>
    have hc : c ≠ '\n' := fun h => hbody (by simp [h])
    have hrest : '\n' ∉ body := fun h => hbody (List.mem_cons_of_mem c h)
    simp [splitGap_inside, hc, ih hrest]

/-- An `IsGap` at the front of a text belongs to what `splitGap` takes. -/
theorem splitGap_of_isGap {gap : List Char} (hgap : IsGap gap) (text : List Char) :
    splitGap false (gap ++ text) = (gap ++ (splitGap false text).1, (splitGap false text).2) := by
  induction hgap with
  | nil => rfl
  | spacing hc _ ih => simp [splitGap_spacing hc, ih]
  | comment hbody _ ih => simp [splitGap_slashes, splitGap_comment hbody, splitGap_inside, ih]

/-- Before a text that `IsSolid`, a gap is what `splitGap` takes. -/
theorem splitGap_eq {gap text : List Char} (hgap : IsGap gap) (htext : IsSolid text) :
    splitGap false (gap ++ text) = (gap, text) := by
  simp [splitGap_of_isGap hgap, splitGap_of_isSolid htext]

/-- What `splitGap` leaves `IsSolid`. -/
theorem isSolid_splitGap (comment : Bool) (text : List Char) :
    IsSolid (splitGap comment text).2 := by
  induction text generalizing comment with
  | nil => simp [splitGap, IsSolid]
  | cons c rest ih =>
    -- The first three cases go on with the gap. In the last one it ends here.
    rw [splitGap]
    split_ifs with hcomment hspacing hslash
    · exact ih _
    · exact ih _
    · exact ih _
    · rintro d ⟨⟩
      exact ⟨by simpa using hspacing, hslash⟩

/-- A text that begins as `behind` does, or with a spacing character, which ends every lexeme but a
string; or there is nothing of it. -/
def BeginsLike (other behind : List Char) : Prop :=
  ∀ c ∈ other.head?, isSpacing c = true ∨ behind.head? = some c

/-- Whether a text with a lexeme in front `IsSolid` does not depend on what stands behind the
lexeme, up to `BeginsLike`. -/
theorem IsSolid.swap {c : Char} {more behind other : List Char}
    (h : IsSolid (c :: more ++ behind)) (hother : BeginsLike other behind) :
    IsSolid (c :: more ++ other) := by
  rintro _ ⟨⟩
  obtain ⟨hspacing, hslash⟩ := h c rfl
  refine ⟨hspacing, ?_⟩
  rintro ⟨hc, hnext⟩
  refine hslash ⟨hc, ?_⟩
  cases more with
  | cons d more => simpa using hnext
  | nil =>
    -- A slash of its own would open a comment together with a slash behind it.
    rcases hother '/' (by simpa using hnext) with hslash | hsame
    · exact absurd hslash (by decide)
    · simpa using hsame

/-! ### Sorts of characters -/

/-- No character that `isWordStart` is a digit. -/
theorem isDigit_of_isWordStart {c : Char} (h : isWordStart c = true) : c.isDigit = false := by
  simp only [isWordStart, Bool.or_eq_true, decide_eq_true_eq] at h
  rcases h with h | rfl
  · simp only [Char.isAlpha, Char.isUpper, Char.isLower, Bool.or_eq_true, Bool.and_eq_true,
      decide_eq_true_eq] at h
    simp only [Char.isDigit, Bool.and_eq_false_iff, decide_eq_false_iff_not]
    grind
  · decide

/-- A word goes on with all that can begin it: `isWordStart` implies `isWordPart`. -/
theorem isWordPart_of_isWordStart {c : Char} (h : isWordStart c = true) :
    isWordPart c = true := by
  simp only [isWordStart, isWordPart, Char.isAlphanum, Bool.or_eq_true] at h ⊢
  exact h.imp_left Or.inl

/-- A word goes on with digits, in the sense of `isWordPart`. -/
theorem isWordPart_of_isDigit {c : Char} (h : c.isDigit = true) : isWordPart c = true := by
  simp [isWordPart, Char.isAlphanum, h]

/-- What does not belong to words is no digit and begins no word. -/
theorem of_isWordPart_eq_false {c : Char} (h : isWordPart c = false) :
    c.isDigit = false ∧ isWordStart c = false := by
  rw [← Bool.not_eq_true] at h
  exact ⟨Bool.eq_false_iff.mpr fun hdigit => h (isWordPart_of_isDigit hdigit),
    Bool.eq_false_iff.mpr fun hstart => h (isWordPart_of_isWordStart hstart)⟩

/-- Words and digits have no quotation mark, and no character that a mark or a gap goes on with. -/
theorem ne_of_isWordPart {c : Char} (h : isWordPart c = true) : c ≠ '"' ∧ c ≠ '=' ∧ c ≠ '/' := by
  refine ⟨?_, ?_, ?_⟩ <;> (rintro rfl; revert h; decide)

/-- No spacing character belongs to a word. -/
theorem isWordPart_of_isSpacing {c : Char} (h : isSpacing c = true) : isWordPart c = false := by
  simp only [isSpacing, Bool.or_eq_true, decide_eq_true_eq] at h
  rcases h with ((rfl | rfl) | rfl) | rfl <;> decide

/-- No spacing character is a digit. -/
theorem isDigit_of_isSpacing {c : Char} (h : isSpacing c = true) : c.isDigit = false :=
  (of_isWordPart_eq_false (isWordPart_of_isSpacing h)).1

/-- A run that ends before `behind` also ends before another text that `BeginsLike` it, if no
spacing character has the property `p`. -/
theorem takeWhile_swap {p : Char → Bool} (hspacing : ∀ c, isSpacing c = true → p c = false)
    {run behind other : List Char} (htake : (run ++ behind).takeWhile p = run)
    (hdrop : (run ++ behind).dropWhile p = behind) (hother : BeginsLike other behind) :
    (∀ c ∈ run, p c = true) ∧ ∀ c ∈ other.head?, p c = false := by
  constructor
  · intro c hc
    rw [← htake] at hc
    exact List.mem_takeWhile_imp hc
  · intro c hc
    rcases hother c hc with hspace | hsame
    · exact hspacing c hspace
    · rw [← hdrop] at hsame
      exact head?_dropWhile_eq_false p _ c hsame

/-! ### Lexemes -/

namespace Lexeme

/-- A closed string ends with its closing mark, whatever stands behind it: `split` looks no
further. -/
theorem split_string {body : List Char} (hbody : '"' ∉ body) (behind : List Char) :
    split '"' (body ++ '"' :: behind) = (body ++ ['"'], behind) := by
  obtain ⟨htake, hdrop⟩ := takeWhile_run (p := (· ≠ '"'))
    (fun c hc => by simpa using ne_of_mem_of_not_mem hc hbody) ('"' :: behind) (by simp)
  rw [split, if_pos rfl, splitString, htake, hdrop]

/-- A string without a closing mark goes on to the end, so `split` leaves nothing. -/
theorem split_unterminated {body : List Char} (hbody : '"' ∉ body) :
    split '"' body = (body, []) := by
  obtain ⟨htake, hdrop⟩ := takeWhile_run (p := (· ≠ '"'))
    (fun c hc => by simpa using ne_of_mem_of_not_mem hc hbody) [] (by simp)
  rw [List.append_nil] at htake hdrop
  rw [split, if_pos rfl, splitString, htake, hdrop]

/-- Behind a digit, `split` takes all further digits. -/
theorem split_of_isDigit {c : Char} (hc : c.isDigit = true) (rest : List Char) :
    split c rest = (rest.takeWhile Char.isDigit, rest.dropWhile Char.isDigit) := by
  simp [split, (ne_of_isWordPart (isWordPart_of_isDigit hc)).1, hc]

/-- Behind the beginning of a word, `split` takes all that `isWordPart`. -/
theorem split_of_isWordStart {c : Char} (hc : isWordStart c = true) (rest : List Char) :
    split c rest = (rest.takeWhile isWordPart, rest.dropWhile isWordPart) := by
  simp [split, (ne_of_isWordPart (isWordPart_of_isWordStart hc)).1, isDigit_of_isWordStart hc, hc]

/-- Digits are taken by `split` up to the first character that is no digit. -/
theorem split_digits {c : Char} {more behind : List Char} (hc : c.isDigit = true)
    (hmore : ∀ d ∈ more, d.isDigit = true) (hbehind : ∀ d ∈ behind.head?, d.isDigit = false) :
    split c (more ++ behind) = (more, behind) := by
  obtain ⟨htake, hdrop⟩ := takeWhile_run hmore behind hbehind
  rw [split_of_isDigit hc, htake, hdrop]

/-- A word is taken by `split` up to the first character that does not belong to words. -/
theorem split_word {c : Char} {more behind : List Char} (hc : isWordStart c = true)
    (hmore : ∀ d ∈ more, isWordPart d = true) (hbehind : ∀ d ∈ behind.head?, isWordPart d = false) :
    split c (more ++ behind) = (more, behind) := by
  obtain ⟨htake, hdrop⟩ := takeWhile_run hmore behind hbehind
  rw [split_of_isWordStart hc, htake, hdrop]

/-- The mark `>=` is the only one of two characters, and `split` takes both. -/
theorem split_greaterEqual (behind : List Char) : split '>' ('=' :: behind) = (['='], behind) := by
  have hdigit : ('>' : Char).isDigit = false := by decide
  have hword : isWordStart '>' = false := by decide
  simp [split, hdigit, hword]

/-- Any other character is a lexeme of its own, behind which `split` takes nothing. -/
theorem split_single {c : Char} {behind : List Char} (hquote : c ≠ '"')
    (hdigit : c.isDigit = false) (hword : isWordStart c = false)
    (hmark : ¬ (c = '>' ∧ behind.head? = some '=')) : split c behind = ([], behind) := by
  simp [split, hquote, hdigit, hword, hmark]

/-- With what the marks of one character begin. It is checked mark by mark, and `mark_cases` says it
without `headD`. -/
theorem mark_first : ∀ kind ∈ Token.Kind.marks, kind ≠ .greaterEqual →
    kind.spelling.toList = [kind.spelling.toList.headD ' ']
      ∧ kind.spelling.toList.headD ' ' ≠ '"'
      ∧ isWordPart (kind.spelling.toList.headD ' ') = false
      ∧ isSpacing (kind.spelling.toList.headD ' ') = false
      ∧ (kind.spelling.toList.headD ' ' = '>' → kind = .greater)
      ∧ (kind.spelling.toList.headD ' ' = '=' → kind = .assign)
      ∧ (kind.spelling.toList.headD ' ' = '/' → kind = .divide) := by
  decide

/-- The characters of a mark, of which only one mark has two. -/
theorem mark_cases {kind : Token.Kind} (h : kind ∈ Token.Kind.marks) :
    (kind = .greaterEqual ∧ kind.spelling.toList = ['>', '=']) ∨
      ∃ c, kind.spelling.toList = [c] ∧ c ≠ '"' ∧ isWordPart c = false ∧ isSpacing c = false
        ∧ (c = '>' → kind = .greater) ∧ (c = '=' → kind = .assign)
        ∧ (c = '/' → kind = .divide) := by
  by_cases htwo : kind = .greaterEqual
  · subst htwo
    exact .inl ⟨rfl, by decide⟩
  · exact .inr ⟨_, mark_first kind h htwo⟩

/-- A mark has a character. -/
theorem mark_ne_nil {kind : Token.Kind} (h : kind ∈ Token.Kind.marks) :
    kind.spelling.toList ≠ [] := by
  rcases mark_cases h with ⟨-, htwo⟩ | ⟨c, hone, -⟩
  · simp [htwo]
  · simp [hone]

/-- A mark is taken by `split` as it is, unless it goes on as a longer one. -/
theorem split_mark {kind : Token.Kind} {c : Char} {more behind : List Char}
    (hkind : kind ∈ Token.Kind.marks) (h : kind.spelling.toList = c :: more)
    (hbehind : kind = .greater → behind.head? ≠ some '=') :
    split c (more ++ behind) = (more, behind) := by
  rcases mark_cases hkind with ⟨-, htwo⟩ | ⟨d, hone, hquote, hpart, -, hgreater, -⟩
  · obtain ⟨rfl, rfl⟩ := List.cons.inj (h.symm.trans htwo)
    exact split_greaterEqual behind
  · obtain ⟨rfl, rfl⟩ := List.cons.inj (h.symm.trans hone)
    obtain ⟨hdigit, hword⟩ := of_isWordPart_eq_false hpart
    refine split_single hquote hdigit hword ?_
    rintro ⟨hc, hnext⟩
    exact hbehind (hgreater hc) hnext

/-- What `split` takes is a lexeme in the sense of `IsLexemeBefore`. -/
theorem isLexemeBefore_split {c : Char} (hc : isSpacing c = false) (rest : List Char) :
    IsLexemeBefore (c :: (split c rest).1) (split c rest).2 := by
  by_cases hquote : c = '"'
  · subst hquote
    by_cases hclosed : '"' ∈ rest
    · obtain ⟨body, behind, rfl, hbody⟩ := List.eq_append_cons_of_mem hclosed
      rw [split_string hbody]
      exact .string behind hbody
    · rw [split_unterminated hclosed]
      exact .unterminated hclosed
  by_cases hdigit : c.isDigit = true
  · rw [split_of_isDigit hdigit]
    exact .digits _ (by simp) (by simp [hdigit, List.all_takeWhile])
  by_cases hword : isWordStart c = true
  · rw [split_of_isWordStart hword]
    exact .word _ (by simp [isWord, hword, List.all_takeWhile])
  -- All that is left are marks and strays. The only mark of two characters comes first.
  by_cases hmark : c = '>' ∧ rest.head? = some '='
  · obtain ⟨rfl, hnext⟩ := hmark
    obtain ⟨behind, rfl⟩ := List.head?_eq_some_iff.mp hnext
    rw [split_greaterEqual]
    exact @IsLexemeBefore.mark .greaterEqual behind (by decide)
  · rw [split_single hquote (by simpa using hdigit) (by simpa using hword) hmark]
    cases hkind : Token.Kind.ofMark? [c] with
    | some kind =>
      obtain ⟨hmem, hspelling⟩ := Token.Kind.spelling_of_ofMark? hkind
      rw [← hspelling]
      exact .mark rest hmem
    | none => exact .stray rest ⟨by simpa using hword, by simpa using hdigit, hquote, hc, hkind⟩

/-- Every `IsLexemeBefore` at the front of a text is a beginning of what `split` takes. -/
theorem split_of_isLexemeBefore {c : Char} {more behind : List Char}
    (h : IsLexemeBefore (c :: more) behind) :
    more <+: (split c (more ++ behind)).1 := by
  -- The cases are those of a text, which `c :: more` only is by an equation.
  generalize htext : c :: more = text at h
  cases h with
  | @mark kind _ hkind =>
    rcases mark_cases hkind with ⟨-, htwo⟩ | ⟨d, hone, -⟩
    · obtain ⟨rfl, rfl⟩ := List.cons.inj (htext.trans htwo)
      simp [split_greaterEqual]
    · obtain ⟨rfl, rfl⟩ := List.cons.inj (htext.trans hone)
      exact List.nil_prefix
  | word _ hword =>
    subst htext
    simp only [isWord, Bool.and_eq_true, List.all_eq_true] at hword
    rw [split_of_isWordStart hword.1, List.takeWhile_append_of_pos hword.2]
    exact List.prefix_append _ _
  | digits _ _ hdigits =>
    subst htext
    simp only [List.all_cons, Bool.and_eq_true, List.all_eq_true] at hdigits
    rw [split_of_isDigit hdigits.1, List.takeWhile_append_of_pos hdigits.2]
    exact List.prefix_append _ _
  | @string body _ hbody =>
    obtain ⟨rfl, rfl⟩ := List.cons.inj htext
    change body ++ ['"'] <+: (split '"' (body ++ ['"'] ++ behind)).1
    simp [split_string hbody]
  | unterminated hbody =>
    obtain ⟨rfl, rfl⟩ := List.cons.inj htext
    simp [split_unterminated hbody]
  | stray =>
    obtain ⟨rfl, rfl⟩ := List.cons.inj htext
    exact List.nil_prefix

/-- A lexeme also ends before another text that `BeginsLike` the one behind it, unless it is a
string that nothing closes. -/
theorem split_swap {c : Char} {more behind other : List Char}
    (h : split c (more ++ behind) = (more, behind))
    (hclosed : c = '"' → more.getLast? = some '"') (hother : BeginsLike other behind) :
    split c (more ++ other) = (more, other) := by
  by_cases hquote : c = '"'
  · subst hquote
    have hmem : '"' ∈ more ++ behind :=
      List.mem_append_left behind (List.mem_of_getLast? (hclosed rfl))
    obtain ⟨body, rest, htext, hbody⟩ := List.eq_append_cons_of_mem hmem
    -- The string ends with its first closing mark, so nothing behind it was looked at.
    rw [htext, split_string hbody] at h
    obtain ⟨rfl, -⟩ := Prod.mk.inj h
    rw [List.append_assoc]
    exact split_string hbody other
  by_cases hdigit : c.isDigit = true
  · rw [split_of_isDigit hdigit] at h
    obtain ⟨htake, hdrop⟩ := Prod.mk.inj h
    obtain ⟨hmore, hend⟩ := takeWhile_swap (fun _ => isDigit_of_isSpacing) htake hdrop hother
    exact split_digits hdigit hmore hend
  by_cases hword : isWordStart c = true
  · rw [split_of_isWordStart hword] at h
    obtain ⟨htake, hdrop⟩ := Prod.mk.inj h
    obtain ⟨hmore, hend⟩ := takeWhile_swap (fun _ => isWordPart_of_isSpacing) htake hdrop hother
    exact split_word hword hmore hend
  by_cases hmark : c = '>' ∧ (more ++ behind).head? = some '='
  · obtain ⟨rfl, hnext⟩ := hmark
    obtain ⟨rest, htext⟩ := List.head?_eq_some_iff.mp hnext
    rw [htext, split_greaterEqual] at h
    obtain ⟨rfl, -⟩ := Prod.mk.inj h
    exact split_greaterEqual other
  · simp only [Bool.not_eq_true] at hdigit hword
    rw [split_single hquote hdigit hword hmark] at h
    obtain ⟨rfl, -⟩ := Prod.mk.inj h
    refine split_single hquote hdigit hword ?_
    rintro ⟨hc, hnext⟩
    -- The other text could make the lexeme longer only as the text behind it would have.
    rcases hother '=' hnext with hspacing | hsame
    · exact absurd hspacing (by decide)
    · exact hmark ⟨hc, hsame⟩

end Lexeme

end Modlet
