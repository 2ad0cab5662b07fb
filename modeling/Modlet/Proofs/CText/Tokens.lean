import Modlet.CText.Tokens
import Modlet.Proofs.CText.Layout
import Modlet.Proofs.Program.Origin

/-!
# Reading C texts

The words of the C text of a well-formed program are spelled tokens with blanks between them. So a
reader of tokens finds these tokens, and neither does one run into the next nor is one cut or lost.

* `Writes`: pieces that are the spellings of tokens.
* `Writes.contents_tokens_append`: such pieces are read as these tokens before a blank.
* `writes_bodyPieces`: the pieces of a well-formed module spell the tokens told by its tree.
* `ofModule_tokens`: the C text of a program, read by tokens, is what the tree tells.
-/

namespace Modlet.CText

open Token

/-! ### Spelled tokens are whole words -/

/-- No character that `isWordPart` is blank. -/
theorem isBlank_of_isWordPart {c : Char} (h : isWordPart c = true) : isBlank c = false := by
  simp only [isWordPart, Char.isAlphanum, Char.isAlpha, Char.isUpper, Char.isLower, Char.isDigit,
    Bool.or_eq_true, Bool.and_eq_true, decide_eq_true_eq] at h
  rcases h with h | rfl
  · simp only [Char.isValue, Char.reduceVal, ge_iff_le, UInt32.le_iff_toNat_le,
      UInt32.reduceToNat, Char.toNat_val] at h
    simp only [isBlank, Bool.or_eq_false_iff, Bool.and_eq_false_iff, decide_eq_false_iff_not,
      beq_eq_false_iff_ne]
    omega
  · decide

/-- What is made of letters, digits and underscores `IsWhole`. -/
theorem isWhole_of_isWordPart {text : List Char} (hne : text ≠ [])
    (h : ∀ c ∈ text, isWordPart c = true) : IsWhole text :=
  .solid hne fun c hc => ⟨isBlank_of_isWordPart (h c hc), (ne_of_isWordPart (h c hc)).1⟩

/-- The `spelling` of a keyword or a mark `IsWhole`. -/
theorem isWhole_spelling {kind : Kind} (h : kind.isFixed = true) :
    IsWhole kind.spelling.toList := by
  cases kind with
  | keyword word => cases word <;> exact .of_all (by decide) (by decide)
  | endOfFile | invalid | identifier | integer | string => cases h
  | _ => exact .of_all (by decide) (by decide)

/-- What is `spelled` for a token that `IsWritten` is a whole word. -/
theorem isWhole_spelled {t : Content} (h : IsWritten t) : IsWhole (spelled t) := by
  obtain ⟨kind, text⟩ := t
  cases kind with
  | endOfFile | invalid => exact h.elim
  | identifier =>
    exact isWhole_of_isWordPart (means_spelled h).ne_nil (isWordPart_of_isWritten h (.inl rfl))
  | integer =>
    exact isWhole_of_isWordPart (means_spelled h).ne_nil (isWordPart_of_isWritten h (.inr rfl))
  | string => exact .quoted h
  | _ =>
    rw [(isWritten_iff_of_isFixed rfl).mp h]
    exact isWhole_spelling rfl

/-! ### Pieces that spell tokens -/

/-- Pieces that are the spellings of tokens in order, with ends of lines anywhere. -/
inductive Writes : List Piece → List Content → Prop
  | nil : Writes [] []
  | word {text : String} {t : Content} {pieces : List Piece} {ts : List Content} :
      IsWritten t → text.toList = spelled t → Writes pieces ts →
      Writes (.word text :: pieces) (t :: ts)
  | lineBreak {pieces : List Piece} {ts : List Content} :
      Writes pieces ts → Writes (lineBreak :: pieces) ts

namespace Writes

variable {pieces more : List Piece} {ts us : List Content}

/-- Pieces in order spell their tokens in order, so `Writes` is shown of each part. -/
theorem append (h : Writes pieces ts) (h' : Writes more us) :
    Writes (pieces ++ more) (ts ++ us) := by
  induction h with
  | nil => exact h'
  | word ht htext _ ih => exact .word ht htext ih
  | lineBreak _ ih => exact .lineBreak ih

/-- Pieces that spell tokens are plain, every one of them (`IsPlain`). -/
theorem isPlain (h : Writes pieces ts) : ∀ piece ∈ pieces, piece.IsPlain := by
  induction h with
  | nil => simp
  | word ht htext _ ih =>
    rw [List.forall_mem_cons]
    exact ⟨by rw [Piece.IsPlain, htext]; exact isWhole_spelled ht, ih⟩
  | lineBreak _ ih =>
    rw [List.forall_mem_cons]
    exact ⟨isPlain_lineBreak, ih⟩

/-- Pieces that `Writes` relates to tokens are read as these tokens, wherever they are laid out, if
what stands behind them begins with a spacing character. What stands there is read on its own. -/
theorem contents_tokens_append (h : Writes pieces ts) (last : Option Char) (pos : Position)
    {behind : List Char} (hbehind : ∀ c ∈ behind.head?, isSpacing c = true) :
    (Cursor.tokens ⟨layout last pieces ++ behind, pos⟩).map content =
      ts ++ (Cursor.tokens ⟨behind, pos.after (layout last pieces)⟩).map content := by
  induction h generalizing last pos with
  | nil => rfl
  | @word text t pieces ts ht htext hrest ih =>
    have hwhole : IsWhole text.toList := htext ▸ isWhole_spelled ht
    have hgap : IsGap (separator last) := by
      rcases separator_cases last with hnone | ⟨hspace, -⟩
      · exact hnone ▸ .nil
      · exact hspace ▸ .spacing rfl .nil
    have hspacing := isSpacing_head_layout hwhole.isBlank_last hrest.isPlain
    -- Behind the word stands a space or the end of a line, and no token goes on with these.
    have hnext : ∀ c ∈ (layout text.toList.getLast? pieces ++ behind).head?,
        t.1.goesOn c = false := by
      intro c hc
      refine t.1.goesOn_of_isSpacing ?_
      cases hlayout : layout text.toList.getLast? pieces with
      | nil => exact hbehind c (by simpa [hlayout] using hc)
      | cons d rest => exact hspacing c (by simpa [hlayout] using hc)
    rw [layout, getLast?_write hwhole, Piece.write, List.append_assoc, List.append_assoc,
      Cursor.tokens_of_isGap hgap, htext, Cursor.tokens_spelled ht (htext ▸ hnext), List.map_cons,
      ← htext, ih, Position.after_append, Position.after_append]
    rfl
  | @lineBreak pieces ts hrest ih =>
    rw [layout, List.append_assoc, Position.after_append]
    exact (congrArg _ (Cursor.tokens_of_isGap (.spacing rfl .nil) _ _)).trans (ih _ _)

/-- Pieces that `Writes` relates to tokens are read as these tokens, wherever they are laid out. -/
theorem contents_tokens (h : Writes pieces ts) (last : Option Char) (pos : Position) :
    (Cursor.tokens ⟨layout last pieces, pos⟩).map content = ts := by
  have hwhole := @contents_tokens_append _ _ h last pos [] (by simp)
  simpa using hwhole

end Writes

/-! ### The pieces of programs -/

/-- A keyword or a mark spells its token. -/
theorem writes_fixed {kind : Kind} (h : kind.isFixed = true) :
    Writes [.word kind.spelling] [kind.fixed] :=
  .word (isWritten_fixed h) (by cases kind <;> first | rfl | cases h) .nil

/-- A name spells an identifier. -/
theorem writes_name {name : String} (h : IsIdentifier name) :
    Writes [.word name] [nameToken name] :=
  .word h.isWritten rfl .nil

/-- A well-formed value spells its `valueToken`. -/
theorem writes_value {value : Expr}
    (h : value.All IsIdentifier IsInRange IsUnquoted) :
    Writes [value.piece] [valueToken value] := by
  cases value with
  | integer n =>
    obtain ⟨n, rfl⟩ := Int.eq_ofNat_of_zero_le h.1
    have hdigits : (Numeral.ofInt n).toList = Nat.toDigits 10 n := Nat.toList_repr
    refine .word (isWritten_integer.mpr ?_) rfl .nil
    rw [hdigits, Numeral.value_toDigits]
    exact ⟨Nat.toDigits_ne_nil,
      List.all_eq_true.mpr fun c => Nat.isDigit_of_mem_toDigits (by decide) (by decide),
      Int.ofNat_le.mp h.2⟩
  | string text => exact .word h (by simp [valueToken, spelled]) .nil
  | «variable» name => exact writes_name h

/-- What is true of the items of lists and of a separator is true of `intercalate`. -/
theorem forall_mem_intercalate {α : Type} {P : α → Prop} {separator : α} (hseparator : P separator)
    {lists : List (List α)} (h : ∀ list ∈ lists, ∀ a ∈ list, P a) :
    ∀ a ∈ [separator].intercalate lists, P a := by
  induction lists with
  | nil => simp
  | cons list lists ih =>
    obtain ⟨hfirst, hothers⟩ := List.forall_mem_cons.mp h
    cases lists with
    | nil => simpa using hfirst
    | cons next lists =>
      rw [List.intercalate_cons_cons, List.forall_mem_append, List.forall_mem_append]
      exact ⟨⟨hfirst, by simpa using hseparator⟩, ih hothers⟩

/-- What is true of commas and of the tokens of every item is true of `commaTokens`. -/
theorem forall_mem_commaTokens {α : Type} {P : Content → Prop} (hcomma : P Kind.comma.fixed)
    {tokens : α → List Content} {list : List α} (h : ∀ a ∈ list, ∀ t ∈ tokens a, P t) :
    ∀ t ∈ commaTokens (list.map tokens), P t := by
  refine forall_mem_intercalate hcomma ?_
  rwa [List.forall_mem_map]

/-- What spells tokens item by item also does so with `commas` between the items. -/
theorem writes_commas {α : Type} {pieces : α → List Piece} {tokens : α → List Content}
    {list : List α} (h : ∀ a ∈ list, Writes (pieces a) (tokens a)) :
    Writes (commas (list.map pieces)) (commaTokens (list.map tokens)) := by
  induction list with
  | nil => exact .nil
  | cons a list ih =>
    obtain ⟨hfirst, hothers⟩ := List.forall_mem_cons.mp h
    cases list with
    | nil => simpa [commas, commaTokens] using hfirst
    | cons b list =>
      have hcomma := @writes_fixed .comma rfl
      simpa [commas, commaTokens, List.intercalate_cons_cons] using!
        (hfirst.append hcomma).append (ih hothers)

/-- The `Stmt.signature` of a function spells its tokens, if its names and its parameters do. -/
theorem writes_beginning {name result : String} {t u : Content} (hname : Writes [.word name] [t])
    (hresult : Writes [.word result] [u]) {pieces : Param → List Piece}
    {tokens : Param → List Content} {params : List Param}
    (h : ∀ param ∈ params, Writes (pieces param) (tokens param)) :
    Writes (Stmt.signature name result (params.map pieces))
      ([u, t, Kind.leftParen.fixed] ++ commaTokens (params.map tokens)
        ++ [Kind.rightParen.fixed]) := by
  have hbegin := (hresult.append hname).append (@writes_fixed .leftParen rfl)
  exact (hbegin.append (writes_commas h)).append (@writes_fixed .rightParen rfl)

/-- Where its names are identifiers, the `Stmt.signature` of a function spells its
`signatureTokens`. -/
theorem writes_signature {name result : String} (hname : IsIdentifier name)
    (hresult : IsIdentifier result) {pieces : Param → List Piece} {tokens : Param → List Content}
    {params : List Param} (h : ∀ param ∈ params, Writes (pieces param) (tokens param)) :
    Writes (Stmt.signature name result (params.map pieces))
      (signatureTokens name result (params.map tokens)) :=
  writes_beginning (writes_name hname) (writes_name hresult) h

/-- The `prototype` of a well-formed statement spells its `prototypeTokens`. -/
theorem writes_prototype {statement : Stmt}
    (h : statement.All IsIdentifier IsInRange IsUnquoted) :
    Writes statement.prototype (prototypeTokens statement) := by
  cases statement with
  | constant | call => exact .nil
  | function name result params body =>
    obtain ⟨hname, hresult, hparams, -⟩ := h
    have hsignature := writes_signature hname hresult
      fun param hparam => writes_name (hparams param hparam).2
    exact hsignature.append
      ((@writes_fixed .semicolon rfl).append (.lineBreak .nil))

mutual

/-- The `definition` of a well-formed statement spells its `definitionTokens`. -/
theorem writes_definition : ∀ {statement : Stmt},
    statement.All IsIdentifier IsInRange IsUnquoted →
    Writes statement.definition (definitionTokens statement)
  | .constant name type value, ⟨hname, htype, hvalue⟩ => by
    have hconst : IsIdentifier "const" := by decide
    exact (writes_name hconst).append ((writes_name htype).append ((writes_name hname).append
      ((@writes_fixed .assign rfl).append ((writes_value hvalue).append
        (@writes_fixed .semicolon rfl)))))
  | .function name result params body, ⟨hname, hresult, hparams, hbody⟩ => by
    have hsignature :
        Writes (Stmt.signature name result (params.map Param.pieces)) _ :=
      writes_signature hname hresult fun param hparam =>
        (writes_name (hparams param hparam).2).append (writes_name (hparams param hparam).1)
    -- The brace that opens the body has its line behind it, as the statements of the body have.
    have hopen := hsignature.append
      ((@writes_fixed .leftBrace rfl).append (.lineBreak .nil))
    have hclosed := (hopen.append (writes_definitionLines hbody)).append
      (@writes_fixed .rightBrace rfl)
    simpa [Stmt.definition, definitionTokens] using! hclosed
  | .call callee args, ⟨hcallee, hargs⟩ => by
    have hbegin := (writes_name hcallee).append (@writes_fixed .leftParen rfl)
    have hlist : Writes (commas (args.map fun arg => [arg.piece])) _ :=
      writes_commas fun arg harg => writes_value (hargs arg harg)
    exact (hbegin.append hlist).append ((@writes_fixed .rightParen rfl).append
      (@writes_fixed .semicolon rfl))

/-- The `definitionLines` of well-formed statements spell their tokens. -/
theorem writes_definitionLines : ∀ {list : List Stmt},
    Stmt.AllList IsIdentifier IsInRange IsUnquoted list →
    Writes (Stmt.definitionLines list) (definitionTokensList list)
  | [], _ => .nil
  | _ :: _, ⟨hfirst, hothers⟩ =>
    (writes_definition hfirst).append (.lineBreak (writes_definitionLines hothers))

end

/-- The prototypes of well-formed statements spell their `prototypeTokens`. -/
theorem writes_prototypes : ∀ {list : List Stmt},
    Stmt.AllList IsIdentifier IsInRange IsUnquoted list →
    Writes (list.flatMap Stmt.prototype) (list.flatMap prototypeTokens)
  | [], _ => .nil
  | _ :: _, ⟨hfirst, hothers⟩ => (writes_prototype hfirst).append (writes_prototypes hothers)

/-- The `bodyPieces` of a module that is `WellFormed` spell its `moduleTokens`. -/
theorem writes_bodyPieces {program : Module} (h : program.WellFormed) :
    Writes (bodyPieces program) (moduleTokens program) :=
  (writes_prototypes h.2).append (.lineBreak (writes_definitionLines h.2))

/-- No token that `Writes` relates to pieces is invalid. -/
theorem Writes.isWritten {pieces : List Piece} {ts : List Content} (h : Writes pieces ts) :
    ∀ t ∈ ts, IsWritten t := by
  induction h with
  | nil => simp
  | word ht _ _ ih =>
    rw [List.forall_mem_cons]
    exact ⟨ht, ih⟩
  | lineBreak _ ih => exact ih

/-- C texts are read by `tokensOf` as they were meant. Behind the banner of `ofModule program`, for
a program that `Module.parse` gives, there stand its `moduleTokens`: the tokens of all prototypes,
and then those of all definitions; none is invalid. The text `IsSpaced`: outside of strings, each
space stands alone between two characters that are no blanks. -/
theorem ofModule_tokens {file source : String} {program : Module}
    (h : Module.parse file source = .ok program) :
    ∃ text : String,
      ofModule program = preamble ++ ("/* module: " ++ program.name ++ " */\n") ++ text
        ∧ (tokensOf text).map content = moduleTokens program
        ∧ (∀ t ∈ tokensOf text, t.kind ≠ .invalid)
        ∧ IsSpaced none text.toList := by
  have hwrites := writes_bodyPieces (Module.wellFormed_of_parse h)
  have htokens : (tokensOf (String.ofList (body program))).map content = moduleTokens program := by
    rw [tokensOf_ofList]
    exact hwrites.contents_tokens _ _
  -- Before this text stands the end of a line, which is blank.
  have hspaced : IsSpaced none (body program) :=
    (isSpaced_layout hwrites.isPlain).of_isBlank (by decide)
  refine ⟨String.ofList (body program), ofModule_eq program, htokens, fun t ht => ?_, ?_⟩
  · have hmem : t.content ∈ moduleTokens program := htokens ▸ List.mem_map_of_mem ht
    exact (hwrites.isWritten _ hmem).kind_ne.1
  · rwa [String.toList_ofList]

/-- A constant, and a function with spaces and a brace in a string. -/
theorem ofModule_tokens_function :
    Module.parse "m" "module a; let n: t = 07; fn f(x: t,): t \x7b g(\"  \x7d\", x); \x7d" =
        .ok ⟨"a", [.constant "n" "t" (.integer 7),
          .function "f" "t" [⟨"x", "t"⟩] [.call "g" [.string "  \x7d", .variable "x"]]]⟩
      ∧ ∃ text : String,
        ofModule ⟨"a", [.constant "n" "t" (.integer 7),
          .function "f" "t" [⟨"x", "t"⟩] [.call "g" [.string "  \x7d", .variable "x"]]]⟩ =
            preamble ++ ("/* module: " ++ "a" ++ " */\n") ++ text
          ∧ (tokensOf text).map content = moduleTokens ⟨"a", [.constant "n" "t" (.integer 7),
            .function "f" "t" [⟨"x", "t"⟩] [.call "g" [.string "  \x7d", .variable "x"]]]⟩
          ∧ (∀ t ∈ tokensOf text, t.kind ≠ .invalid)
          ∧ IsSpaced none text.toList := by
  have hcall : Grammar.Statement _ (.call "g" [.string "  \x7d", .variable "x"]) :=
    .call "g" (.more (.string "  \x7d") (.last (.variable "x")))
  have hprogram : Grammar.Program _ ⟨"a", [.constant "n" "t" (.integer 7),
      .function "f" "t" [⟨"x", "t"⟩] [_]]⟩ :=
    .mk "a" (.cons (.constant "n" "t" (@Grammar.Value.integer "07" 7 (by decide)))
      (.cons (.function "f" "t" (.more (.mk "x" "t") .none) (.cons hcall .nil)) .nil))
  have hparse := @Module.parse_of_program
    "module a; let n: t = 07; fn f(x: t,): t \x7b g(\"  \x7d\", x); \x7d" _
    (by cbv; exact hprogram) "m"
  exact ⟨hparse, ofModule_tokens hparse⟩

end Modlet.CText
