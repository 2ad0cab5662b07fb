import Modlet.Proofs.CText.Tokens

/-!
# Different programs have different C texts

A C text can be read back to the tree that it was made from. The text tells its pieces, and the
pieces tell the statements: the first parenthesis tells which sort a statement is of, and prototypes
end with the first empty line. This needs names to be words, keywords or not, and strings without
quotation marks; numbers may be any.

* `isPlain_bodyPieces`: the pieces of such a module are told by their layout.
* `readValue_piece`: a value is told by its piece.
* `commas_append_inj`: a list is told by its pieces up to the parenthesis behind it.
* `definition_append_inj`: a definition tells its statement, whatever stands behind it.
* `behindEmptyLine_bodyPieces`: the definitions begin behind the first empty line.
* `ofModule_injective`: a module is told by its C text.
-/

namespace Modlet.CText

/-- A name of letters, digits and underscores that begins with no digit; it may be a keyword. -/
abbrev IsName (name : String) : Prop := isWord name.toList = true

/-- A number, which may be any. -/
abbrev IsNumber (_ : Int) : Prop := True

/-! ### Plain pieces -/

/-- The characters of a name belong to words. -/
theorem IsName.isWordPart {name : String} (h : IsName name) :
    name.toList ≠ [] ∧ ∀ c ∈ name.toList, isWordPart c = true := by
  cases htext : name.toList with
  | nil => simp [IsName, isWord, htext] at h
  | cons c rest =>
    simp only [IsName, isWord, htext, Bool.and_eq_true, List.all_eq_true] at h
    exact ⟨List.cons_ne_nil c rest,
      List.forall_mem_cons.mpr ⟨isWordPart_of_isWordStart h.1, h.2⟩⟩

theorem isPlain_name {name : String} (h : IsName name) : (Piece.word name).IsPlain :=
  isWhole_of_isWordPart h.isWordPart.1 h.isWordPart.2

/-- What `Int.repr` gives is digits, with a sign before them if the number is negative. -/
theorem repr_cases (n : Int) :
    n.repr.toList ≠ [] ∧ ∀ c ∈ n.repr.toList, c = '-' ∨ c.isDigit = true := by
  have hdigits : ∀ m : Nat, ∀ c ∈ m.repr.toList, c.isDigit = true := by
    intro m c hc
    rw [Nat.toList_repr] at hc
    exact Nat.isDigit_of_mem_toDigits (by decide) (by decide) hc
  cases n with
  | ofNat m =>
    refine ⟨?_, fun c hc => .inr (hdigits m c hc)⟩
    change m.repr.toList ≠ []
    rw [Nat.toList_repr]
    exact Nat.toDigits_ne_nil
  | negSucc m =>
    -- The sign comes first, and behind it the digits of a positive number.
    have htext : (Int.negSucc m).repr.toList = '-' :: m.succ.repr.toList := by
      simp [Int.repr, String.toList_append]
    rw [htext, List.forall_mem_cons]
    exact ⟨List.cons_ne_nil _ _, .inl rfl, fun c hc => .inr (hdigits _ c hc)⟩

/-- The piece of a number `IsPlain`. -/
theorem isPlain_integer (n : Int) : (Expr.integer n).piece.IsPlain := by
  obtain ⟨hne, hchars⟩ := repr_cases n
  refine .solid hne fun c hc => ?_
  rcases hchars c hc with rfl | hdigit
  · decide
  · have hpart := isWordPart_of_isDigit hdigit
    exact ⟨isBlank_of_isWordPart hpart, (ne_of_isWordPart hpart).1⟩

/-- The piece of a value `IsPlain`. -/
theorem isPlain_value {value : Expr} (h : value.All IsName IsNumber IsUnquoted) :
    value.piece.IsPlain := by
  cases value with
  | integer n => exact isPlain_integer n
  | string text =>
    have hwhole : IsWhole ('"' :: text.toList ++ ['"']) := .quoted h
    simpa [Expr.piece, Piece.IsPlain] using hwhole
  | «variable» name => exact isPlain_name h

section Pieces

variable {Q : Piece → Prop}

/-- What is true of pieces and of commas is true of all pieces of `commas`. -/
theorem forall_mem_commas (hcomma : Q (.word ",")) {lists : List (List Piece)}
    (h : ∀ pieces ∈ lists, ∀ piece ∈ pieces, Q piece) : ∀ piece ∈ commas lists, Q piece :=
  forall_mem_intercalate hcomma h

/-- What is true of names, parameters and marks is true of all pieces of a `Stmt.signature`. -/
theorem forall_mem_signature (hmark : ∀ text ∈ ["(", ",", ")"], Q (.word text))
    {name result : String} (hname : Q (.word name)) (hresult : Q (.word result))
    {params : List (List Piece)} (hparams : ∀ pieces ∈ params, ∀ piece ∈ pieces, Q piece) :
    ∀ piece ∈ Stmt.signature name result params, Q piece := by
  rw [Stmt.signature, List.forall_mem_append, List.forall_mem_append]
  refine ⟨⟨?_, forall_mem_commas (hmark "," (by simp)) hparams⟩, ?_⟩
  · simpa using ⟨hresult, hname, hmark "(" (by simp)⟩
  · simpa using hmark ")" (by simp)

end Pieces

/-- The marks of C texts are plain (`IsPlain`). -/
theorem isPlain_mark : ∀ text ∈ ["(", ",", ")", ";", "=", "\x7b", "\x7d"],
    (Piece.word text).IsPlain := by
  simp only [List.forall_mem_cons]
  exact ⟨@isWhole_spelling .leftParen rfl, @isWhole_spelling .comma rfl,
    @isWhole_spelling .rightParen rfl, @isWhole_spelling .semicolon rfl,
    @isWhole_spelling .assign rfl, @isWhole_spelling .leftBrace rfl,
    @isWhole_spelling .rightBrace rfl, by simp⟩

/-- The pieces of a `Stmt.signature` are plain. -/
theorem isPlain_signature {name result : String} (hname : IsName name) (hresult : IsName result)
    {params : List (List Piece)} (hparams : ∀ pieces ∈ params, ∀ piece ∈ pieces, piece.IsPlain) :
    ∀ piece ∈ Stmt.signature name result params, piece.IsPlain :=
  forall_mem_signature (fun text htext => isPlain_mark text (List.mem_append_left _ htext))
    (isPlain_name hname) (isPlain_name hresult) hparams

/-- The pieces of a `Stmt.prototype` are plain. -/
theorem isPlain_prototype {statement : Stmt} (h : statement.All IsName IsNumber IsUnquoted) :
    ∀ piece ∈ statement.prototype, piece.IsPlain := by
  cases statement with
  | constant | call => simp [Stmt.prototype]
  | function name result params body =>
    obtain ⟨hname, hresult, hparams, -⟩ := h
    rw [Stmt.prototype, List.forall_mem_append]
    refine ⟨isPlain_signature hname hresult ?_, ?_⟩
    · simpa [Param.typePieces] using fun param hparam => isPlain_name (hparams param hparam).2
    · simpa using ⟨isPlain_mark ";" (by simp), isPlain_lineBreak⟩

mutual

/-- The pieces of a `Stmt.definition` are plain. -/
theorem isPlain_definition : ∀ {statement : Stmt}, statement.All IsName IsNumber IsUnquoted →
    ∀ piece ∈ statement.definition, piece.IsPlain
  | .constant name type value, ⟨hname, htype, hvalue⟩ => by
    -- The only word that no name of the statement gives.
    have hconst : IsName "const" := by decide
    simpa [Stmt.definition] using ⟨isPlain_name hconst, isPlain_name htype, isPlain_name hname,
      isPlain_mark "=" (by simp), isPlain_value hvalue, isPlain_mark ";" (by simp)⟩
  | .function name result params body, ⟨hname, hresult, hparams, hbody⟩ => by
    rw [Stmt.definition]
    simp only [List.forall_mem_append]
    refine ⟨⟨⟨isPlain_signature hname hresult ?_, ?_⟩, isPlain_definitionLines hbody⟩, ?_⟩
    · simpa [Param.pieces] using fun param hparam =>
        ⟨isPlain_name (hparams param hparam).2, isPlain_name (hparams param hparam).1⟩
    · simpa using ⟨isPlain_mark "\x7b" (by simp), isPlain_lineBreak⟩
    · simpa using isPlain_mark "\x7d" (by simp)
  | .call callee args, ⟨hcallee, hargs⟩ => by
    rw [Stmt.definition]
    simp only [List.forall_mem_append]
    refine ⟨⟨?_, forall_mem_commas (isPlain_mark "," (by simp)) ?_⟩, ?_⟩
    · simpa using ⟨isPlain_name hcallee, isPlain_mark "(" (by simp)⟩
    · simpa using fun arg harg => isPlain_value (hargs arg harg)
    · simpa using ⟨isPlain_mark ")" (by simp), isPlain_mark ";" (by simp)⟩

/-- The pieces of `Stmt.definitionLines` are plain. -/
theorem isPlain_definitionLines : ∀ {list : List Stmt},
    Stmt.AllList IsName IsNumber IsUnquoted list →
    ∀ piece ∈ Stmt.definitionLines list, piece.IsPlain
  | [], _ => by simp [Stmt.definitionLines]
  | _ :: _, ⟨hfirst, hothers⟩ => by
    rw [Stmt.definitionLines, List.forall_mem_append, List.forall_mem_cons]
    exact ⟨isPlain_definition hfirst, isPlain_lineBreak, isPlain_definitionLines hothers⟩

end

/-- The prototypes of statements are plain. -/
theorem isPlain_prototypes : ∀ {list : List Stmt}, Stmt.AllList IsName IsNumber IsUnquoted list →
    ∀ piece ∈ list.flatMap Stmt.prototype, piece.IsPlain
  | [], _ => by simp
  | _ :: _, ⟨hfirst, hothers⟩ => by
    rw [List.flatMap_cons, List.forall_mem_append]
    exact ⟨isPlain_prototype hfirst, isPlain_prototypes hothers⟩

/-! ### Values from their pieces -/

/-- The value that is written as `text`: a string between quotation marks, a name or a number. -/
def readValue (text : String) : Expr :=
  match text.toList with
  | '"' :: rest => .string (String.ofList rest.dropLast)
  | chars => if isWord chars then .variable text else .integer (text.toInt?.getD 0)

/-- A value is told by its piece, which `readValue` reads. -/
theorem readValue_piece {value : Expr} (h : value.All IsName IsNumber IsUnquoted) :
    ∃ text, value.piece = .word text ∧ readValue text = value := by
  cases value with
  | integer n =>
    refine ⟨n.repr, rfl, ?_⟩
    obtain ⟨hne, hchars⟩ := repr_cases n
    obtain ⟨c, rest, htext⟩ := List.exists_cons_of_ne_nil hne
    have hc : c = '-' ∨ c.isDigit = true := hchars c (by simp [htext])
    -- A sign or a digit begins neither a string nor a name.
    have hmark : c ≠ '"' := by
      rintro rfl
      revert hc
      decide
    have hword : isWord (c :: rest) = false := by
      rcases hc with rfl | hdigit
      · rfl
      · cases hstart : isWordStart c with
        | false => simp [isWord, hstart]
        | true => exact absurd hdigit (by simp [isDigit_of_isWordStart hstart])
    simp [readValue, htext, hmark, hword, Int.toInt?_repr]
  | string text => exact ⟨_, rfl, by simp [readValue]⟩
  | «variable» name =>
    refine ⟨name, rfl, ?_⟩
    have hname : isWord name.toList = true := h
    cases htext : name.toList with
    | nil => simp [htext, isWord] at hname
    | cons c rest =>
      rw [htext] at hname
      have hmark : c ≠ '"' := by
        rintro rfl
        simp [isWord, isWordStart] at hname
      simp [readValue, htext, hmark, hname]

/-- Values with the same `Expr.piece` are the same. -/
theorem piece_unique {value value' : Expr} (h : value.All IsName IsNumber IsUnquoted)
    (h' : value'.All IsName IsNumber IsUnquoted) (heq : value.piece = value'.piece) :
    value = value' := by
  obtain ⟨text, htext, hread⟩ := readValue_piece h
  obtain ⟨text', htext', hread'⟩ := readValue_piece h'
  rw [htext, htext', Piece.word.injEq] at heq
  rw [← hread, heq, hread']

/-- No value is written as a mark, since what `readValue` makes of a mark is written otherwise. -/
theorem piece_ne {value : Expr} (h : value.All IsName IsNumber IsUnquoted) (mark : String)
    (hread : readValue mark = .integer 0) (hne : mark ≠ "0") : value.piece ≠ .word mark := by
  intro heq
  obtain ⟨text, htext, hvalue⟩ := readValue_piece h
  obtain rfl : mark = text := Piece.word.inj (heq.symm.trans htext)
  -- Only zero is read from the mark, and it is written otherwise.
  obtain rfl : Expr.integer 0 = value := hread.symm.trans hvalue
  exact hne (Piece.word.inj heq).symm

/-! ### Lists from their pieces -/

/-- Names differ from what is no word, so no `IsName` is a mark. -/
theorem IsName.ne {name : String} (h : IsName name) (mark : String)
    (hmark : isWord mark.toList = false) : name ≠ mark := by
  rintro rfl
  rw [IsName, hmark] at h
  cases h

/-- A piece inside an item of a list: neither a comma nor the end of the list. -/
def isInside (piece : Piece) : Bool := piece ≠ .word "," && piece ≠ .word ")"

/-- The pieces of an item of a list, which all are `isInside`. -/
def IsItem (pieces : List Piece) : Prop := pieces ≠ [] ∧ ∀ piece ∈ pieces, isInside piece = true

theorem isInside_name {name : String} (h : IsName name) : isInside (.word name) = true := by
  simp [isInside, h.ne "," rfl, h.ne ")" rfl]

/-- A value is an item of a list. -/
theorem isItem_value {value : Expr} (h : value.All IsName IsNumber IsUnquoted) :
    IsItem [value.piece] := by
  have hcomma := piece_ne h "," (by cbv) (by decide)
  have hclose := piece_ne h ")" (by cbv) (by decide)
  refine ⟨List.cons_ne_nil _ _, ?_⟩
  rw [List.forall_mem_singleton]
  simp [isInside, hcomma, hclose]

/-- A parameter is an item of a list. -/
theorem isItem_param {param : Param} (hname : IsName param.name) (htype : IsName param.type) :
    IsItem param.pieces := by
  refine ⟨List.cons_ne_nil _ _, ?_⟩
  simpa [Param.pieces] using ⟨isInside_name htype, isInside_name hname⟩

/-- Behind the first item every item of `commas` has a comma before it. -/
theorem commas_cons (pieces : List Piece) (lists : List (List Piece)) :
    commas (pieces :: lists) = pieces ++ lists.flatMap fun pieces => .word "," :: pieces := by
  induction lists generalizing pieces with
  | nil => simp [commas]
  | cons next lists ih =>
    rw [commas, List.intercalate_cons_cons, ← commas, ih, List.flatMap_cons]
    simp

section Items

variable {α : Type} {f : α → List Piece} {as bs : List α} {x y : List Piece}

/-- Behind an item stands a comma or the end of the list, neither of which `isInside`. -/
theorem isInside_behind (as : List α) (x : List Piece) :
    ∀ piece ∈ (as.flatMap (fun a => .word "," :: f a) ++ .word ")" :: x).head?,
      isInside piece = false := by
  cases as <;> simp [isInside]

/-- Items with commas before them are told up to the end of their list, if `f` tells each of
them. -/
theorem items_append_inj (has : ∀ a ∈ as, IsItem (f a)) (hbs : ∀ b ∈ bs, IsItem (f b))
    (hf : ∀ a ∈ as, ∀ b ∈ bs, f a = f b → a = b)
    (h : as.flatMap (fun a => .word "," :: f a) ++ .word ")" :: x =
      bs.flatMap (fun b => .word "," :: f b) ++ .word ")" :: y) : as = bs ∧ x = y := by
  induction as generalizing bs with
  | nil =>
    cases bs with
    | nil => simpa using h
    | cons b bs => simp at h
  | cons a as ih =>
    cases bs with
    | nil => simp at h
    | cons b bs =>
      -- The first item ends where the next comma or the end of the list stands.
      simp only [List.flatMap_cons, List.cons_append, List.append_assoc, List.cons.injEq,
        true_and] at h
      obtain ⟨⟨-, ha⟩, has'⟩ := List.forall_mem_cons.mp has
      obtain ⟨⟨-, hb⟩, hbs'⟩ := List.forall_mem_cons.mp hbs
      obtain ⟨hitem, hrest⟩ := run_unique ha (isInside_behind as x) hb (isInside_behind bs y) h
      obtain ⟨hothers, hxy⟩ := ih has' hbs'
        (fun a ha b hb => hf a (List.mem_cons_of_mem _ ha) b (List.mem_cons_of_mem _ hb)) hrest
      rw [hf a List.mem_cons_self b List.mem_cons_self hitem, hothers]
      exact ⟨rfl, hxy⟩

/-- A list of `commas` is told up to the parenthesis that closes it, if `f` tells each of its
items. -/
theorem commas_append_inj (has : ∀ a ∈ as, IsItem (f a)) (hbs : ∀ b ∈ bs, IsItem (f b))
    (hf : ∀ a ∈ as, ∀ b ∈ bs, f a = f b → a = b)
    (h : commas (as.map f) ++ .word ")" :: x = commas (bs.map f) ++ .word ")" :: y) :
    as = bs ∧ x = y := by
  -- No item begins with the end of the list.
  have hempty : ∀ {c : α} {cs : List α} {x y : List Piece}, IsItem (f c) →
      .word ")" :: x ≠ commas ((c :: cs).map f) ++ .word ")" :: y := by
    rintro c cs x y ⟨hne, hinside⟩ heq
    obtain ⟨piece, pieces, hc⟩ := List.exists_cons_of_ne_nil hne
    rw [List.map_cons, commas_cons, hc] at heq
    obtain rfl := (List.cons.inj heq).1
    have hmark := hinside (.word ")") (by simp [hc])
    simp [isInside] at hmark
  cases as with
  | nil =>
    cases bs with
    | nil => simpa [commas] using h
    | cons b bs => exact absurd h (hempty (hbs b (by simp)))
  | cons a as =>
    cases bs with
    | nil => exact absurd h.symm (hempty (has a (by simp)))
    | cons b bs =>
      refine items_append_inj has hbs hf ?_
      rw [List.map_cons, List.map_cons, commas_cons, commas_cons, List.flatMap_map,
        List.flatMap_map] at h
      simpa using h

end Items

/-! ### Statements from their pieces -/

variable {a b : Stmt} {x y : List Piece}

/-- How many pieces of a `Stmt.definition` stand before its first parenthesis, with three for a
constant, which has none among its first three pieces. -/
def opening : Stmt → Nat
  | .constant .. => 3
  | .function .. => 2
  | .call .. => 1

/-- The first three pieces of a `Stmt.definition` tell which sort of statement it is of, by
`opening`. -/
theorem idxOf_paren (h : a.All IsName IsNumber IsUnquoted) (x : List Piece) :
    ((a.definition ++ x).take 3).idxOf (.word "(") = opening a := by
  -- No name is a parenthesis, so the first one is the mark behind the names.
  cases a with
  | constant name type value =>
    obtain ⟨hname, htype, -⟩ := h
    simp [Stmt.definition, opening, hname.ne "(" rfl, htype.ne "(" rfl]
  | function name result params body =>
    obtain ⟨hname, hresult, -⟩ := h
    simp [Stmt.definition, Stmt.signature, opening, hname.ne "(" rfl, hresult.ne "(" rfl]
  | call callee args =>
    obtain ⟨hcallee, -⟩ := h
    simp [Stmt.definition, opening, hcallee.ne "(" rfl]

/-- Equal pieces are of statements of one sort, in the sense of `opening`. -/
theorem opening_eq (ha : a.All IsName IsNumber IsUnquoted) (hb : b.All IsName IsNumber IsUnquoted)
    (h : a.definition ++ x = b.definition ++ y) : opening a = opening b := by
  rw [← idxOf_paren ha x, h, idxOf_paren hb y]

/-- A `Stmt.definition` begins with a name. -/
theorem definition_eq_cons (h : a.All IsName IsNumber IsUnquoted) :
    ∃ name pieces, IsName name ∧ a.definition = .word name :: pieces := by
  cases a with
  | constant name type value => exact ⟨"const", _, by decide, rfl⟩
  | function name result params body => exact ⟨result, _, h.2.1, rfl⟩
  | call callee args => exact ⟨callee, _, h.1, rfl⟩

/-- A `Stmt.definition` begins otherwise than what stands behind the last one of a block. -/
theorem definition_append_ne (h : a.All IsName IsNumber IsUnquoted)
    (hy : ∀ piece ∈ y.head?, piece = .word "\x7d") : a.definition ++ x ≠ y := by
  -- A brace is no name.
  obtain ⟨name, pieces, hname, hdef⟩ := definition_eq_cons h
  rw [hdef]
  rintro rfl
  exact hname.ne _ rfl (Piece.word.inj (hy _ rfl))

mutual

/-- A `Stmt.definition` tells its statement, whatever stands behind it. -/
theorem definition_append_inj : ∀ {a b : Stmt} {x y : List Piece},
    a.All IsName IsNumber IsUnquoted → b.All IsName IsNumber IsUnquoted →
    a.definition ++ x = b.definition ++ y → a = b ∧ x = y
  | .constant name type value, .constant name' type' value', x, y, ⟨_, _, hvalue⟩,
      ⟨_, _, hvalue'⟩, h => by
    simp only [Stmt.definition, List.cons_append, List.nil_append, List.cons.injEq,
      Piece.word.injEq, true_and] at h
    obtain ⟨rfl, rfl, heq, rfl⟩ := h
    rw [piece_unique hvalue hvalue' heq]
    exact ⟨rfl, rfl⟩
  | .call callee args, .call callee' args', x, y, ⟨_, hargs⟩, ⟨_, hargs'⟩, h => by
    simp only [Stmt.definition, List.cons_append, List.nil_append, List.append_assoc,
      List.cons.injEq, Piece.word.injEq, true_and] at h
    obtain ⟨rfl, hlist⟩ := h
    obtain ⟨rfl, hend⟩ := commas_append_inj (fun arg harg => isItem_value (hargs arg harg))
      (fun arg harg => isItem_value (hargs' arg harg))
      (fun arg harg arg' harg' heq =>
        piece_unique (hargs arg harg) (hargs' arg' harg') (List.cons.inj heq).1) hlist
    exact ⟨rfl, (List.cons.inj hend).2⟩
  | .function name result params body, .function name' result' params' body', x, y,
      ⟨_, _, hparams, hbody⟩, ⟨_, _, hparams', hbody'⟩, h => by
    simp only [Stmt.definition, Stmt.signature, List.cons_append, List.nil_append,
      List.append_assoc, List.cons.injEq, Piece.word.injEq, true_and] at h
    obtain ⟨rfl, rfl, hlist⟩ := h
    obtain ⟨rfl, hblock⟩ := commas_append_inj
      (fun param hparam => isItem_param (hparams param hparam).1 (hparams param hparam).2)
      (fun param hparam => isItem_param (hparams' param hparam).1 (hparams' param hparam).2)
      (fun param _ param' _ heq => by
        cases param
        cases param'
        simpa [Param.pieces, and_comm] using heq) hlist
    simp only [List.cons.injEq, true_and] at hblock
    -- The body is a block again, with the brace of this function behind it.
    obtain ⟨rfl, hend⟩ := definitionLines_append_inj hbody hbody' (by simp) (by simp) hblock
    exact ⟨rfl, (List.cons.inj hend).2⟩
  | .constant .., .function .., _, _, ha, hb, h | .constant .., .call .., _, _, ha, hb, h
  | .function .., .constant .., _, _, ha, hb, h | .function .., .call .., _, _, ha, hb, h
  | .call .., .constant .., _, _, ha, hb, h | .call .., .function .., _, _, ha, hb, h =>
    absurd (opening_eq ha hb h) (by simp [opening])

/-- The `definitionLines` of a block tell its statements, up to the brace that closes the block. -/
theorem definitionLines_append_inj : ∀ {as bs : List Stmt} {x y : List Piece},
    Stmt.AllList IsName IsNumber IsUnquoted as → Stmt.AllList IsName IsNumber IsUnquoted bs →
    (∀ piece ∈ x.head?, piece = .word "\x7d") → (∀ piece ∈ y.head?, piece = .word "\x7d") →
    Stmt.definitionLines as ++ x = Stmt.definitionLines bs ++ y → as = bs ∧ x = y
  | [], [], _, _, _, _, _, _, h => ⟨rfl, h⟩
  -- What closes a block begins no definition, so both blocks end together.
  | [], b :: bs, x, y, _, ⟨hb, _⟩, hx, _, h => by
    rw [Stmt.definitionLines, Stmt.definitionLines, List.append_assoc] at h
    exact absurd h.symm (definition_append_ne hb hx)
  | a :: as, [], x, y, ⟨ha, _⟩, _, _, hy, h => by
    rw [Stmt.definitionLines, Stmt.definitionLines, List.append_assoc] at h
    exact absurd h (definition_append_ne ha hy)
  | a :: as, b :: bs, x, y, ⟨ha, has⟩, ⟨hb, hbs⟩, hx, hy, h => by
    rw [Stmt.definitionLines, Stmt.definitionLines, List.append_assoc, List.append_assoc] at h
    obtain ⟨rfl, hrest⟩ := definition_append_inj ha hb h
    obtain ⟨rfl, rfl⟩ := definitionLines_append_inj has hbs hx hy (List.cons.inj hrest).2
    exact ⟨rfl, rfl⟩

end

/-! ### Modules from their texts -/

/-- What stands behind the first empty line of some pieces. With `atStart` these begin where a line
does. -/
def behindEmptyLine (atStart : Bool) : List Piece → List Piece
  | [] => []
  | piece :: pieces =>
    if piece = lineBreak then
      if atStart then pieces else behindEmptyLine true pieces
    else behindEmptyLine false pieces

/-- What is left of a line is no empty line. -/
theorem behindEmptyLine_rest {rest : List Piece} (h : ∀ piece ∈ rest, piece ≠ lineBreak)
    (x : List Piece) :
    behindEmptyLine false (rest ++ lineBreak :: x) = behindEmptyLine true x := by
  induction rest with
  | nil => simp [behindEmptyLine]
  | cons piece rest ih =>
    obtain ⟨hpiece, hrest⟩ := List.forall_mem_cons.mp h
    rw [List.cons_append, behindEmptyLine, if_neg hpiece, ih hrest]

/-- A line with something on it is no empty line. -/
theorem behindEmptyLine_line {line : List Piece} (hne : line ≠ [])
    (h : ∀ piece ∈ line, piece ≠ lineBreak) (x : List Piece) :
    behindEmptyLine true (line ++ lineBreak :: x) = behindEmptyLine true x := by
  obtain ⟨piece, rest, rfl⟩ := List.exists_cons_of_ne_nil hne
  obtain ⟨hpiece, hrest⟩ := List.forall_mem_cons.mp h
  rw [List.cons_append, behindEmptyLine, if_neg hpiece, behindEmptyLine_rest hrest]

/-- What `Stmt.prototype` gives is no empty line. -/
theorem behindEmptyLine_prototype (statement : Stmt) (x : List Piece) :
    behindEmptyLine true (statement.prototype ++ x) = behindEmptyLine true x := by
  cases statement with
  | constant | call => rfl
  | function name result params body =>
    have hword : ∀ text, Piece.word text ≠ lineBreak := by simp [lineBreak]
    have hsignature : ∀ piece ∈ Stmt.signature name result (params.map Param.typePieces),
        piece ≠ lineBreak :=
      forall_mem_signature (fun text _ => hword text) (hword name) (hword result)
        (by simp [Param.typePieces, lineBreak])
    -- All of the prototype stands on one line.
    have hline : ∀ piece ∈
        Stmt.signature name result (params.map Param.typePieces) ++ [Piece.word ";"],
        piece ≠ lineBreak := by
      rw [List.forall_mem_append, List.forall_mem_singleton]
      exact ⟨hsignature, hword ";"⟩
    rw [Stmt.prototype, List.append_assoc]
    simpa using behindEmptyLine_line (by simp) hline x

/-- What `behindEmptyLine` gives for prototypes and an empty line is what stands behind both. -/
theorem behindEmptyLine_prototypes (list : List Stmt) (x : List Piece) :
    behindEmptyLine true (list.flatMap Stmt.prototype ++ lineBreak :: x) = x := by
  induction list with
  | nil => simp [behindEmptyLine]
  | cons statement list ih =>
    rw [List.flatMap_cons, List.append_assoc, behindEmptyLine_prototype, ih]

/-- The definitions stand behind the first empty line of `bodyPieces`. -/
theorem behindEmptyLine_bodyPieces (program : Module) :
    behindEmptyLine true (bodyPieces program) = program.definitions :=
  behindEmptyLine_prototypes program.statements program.definitions

/-- The `bodyPieces` of a module are plain. -/
theorem isPlain_bodyPieces {program : Module} (h : program.All IsName IsNumber IsUnquoted) :
    ∀ piece ∈ bodyPieces program, piece.IsPlain := by
  rw [bodyPieces, List.forall_mem_append, List.forall_mem_cons]
  exact ⟨isPlain_prototypes h.2, isPlain_lineBreak, isPlain_definitionLines h.2⟩

/-- The texts of modules with one C text are the same from the name on, up to their `body`. -/
theorem name_append_eq {program program' : Module} (h : ofModule program = ofModule program') :
    program.name.toList ++ (" */\n".toList ++ body program) =
      program'.name.toList ++ (" */\n".toList ++ body program') := by
  have htext := congrArg String.toList h
  rw [ofModule_eq, ofModule_eq] at htext
  -- What stands before the name is the same in both texts.
  simpa only [String.toList_append, String.toList_ofList, List.append_assoc,
    List.append_cancel_left_eq] using htext

/-- Different programs have different C texts: `ofModule` is injective on modules all of whose names
are words, which may be keywords, and whose strings hold no quotation marks. Numbers may be any. -/
theorem ofModule_injective {program program' : Module}
    (h : program.All IsName IsNumber IsUnquoted) (h' : program'.All IsName IsNumber IsUnquoted)
    (htext : ofModule program = ofModule program') : program = program' := by
  -- The name ends at the blank behind it, whatever the rest of the text is.
  have hblank : ∀ rest : List Char, ∀ c ∈ (" */\n".toList ++ rest).head?,
      isWordPart c = false := by
    intro rest c hc
    obtain rfl : ' ' = c := by simpa using hc
    decide
  obtain ⟨hname, hrest⟩ := run_unique h.1.isWordPart.2 (hblank _) h'.1.isWordPart.2 (hblank _)
    (name_append_eq htext)
  have hbody : body program = body program' := List.append_cancel_left hrest
  have hpieces : bodyPieces program = bodyPieces program' :=
    layout_injective (isPlain_bodyPieces h) (isPlain_bodyPieces h') hbody
  have hdefinitions : program.definitions = program'.definitions := by
    rw [← behindEmptyLine_bodyPieces, hpieces, behindEmptyLine_bodyPieces]
  have hstatements := (@definitionLines_append_inj _ _ [] [] h.2 h'.2 (by simp) (by simp)
    (by simpa [Module.definitions] using hdefinitions)).1
  cases program
  cases program'
  rw [Module.mk.injEq]
  exact ⟨String.toList_inj.mp hname, hstatements⟩

/-- Keywords as names, a string that looks like the end of a function, and a negative number. -/
theorem ofModule_injective_keywords :
    Module.All IsName IsNumber IsUnquoted
        ⟨"let", [.function "if" "t" [] [.call "f" [.string "\n\x7d", .integer (-5)]]]⟩
      ∧ ofModule
          ⟨"let", [.function "if" "t" [] [.call "f" [.string "\n\x7d", .integer (-5)]]]⟩ =
        ofModule
          ⟨"let", [.function "if" "t" [] [.call "f" [.string "\n\x7d", .integer (-5)]]]⟩
      ∧ (⟨"let", [.function "if" "t" [] [.call "f" [.string "\n\x7d", .integer (-5)]]]⟩ : Module) =
          ⟨"let", [.function "if" "t" [] [.call "f" [.string "\n\x7d", .integer (-5)]]]⟩ := by
  have hnames : Module.All IsName IsNumber IsUnquoted
      ⟨"let", [.function "if" "t" [] [.call "f" [.string "\n\x7d", .integer (-5)]]]⟩ := by
    simp [Module.All, Stmt.All, Stmt.AllList, Expr.All, IsName, IsUnquoted, isWord, isWordStart,
      isWordPart]
  exact ⟨hnames, rfl, ofModule_injective hnames hnames rfl⟩

/-- Quotation marks in strings make two programs one text. -/
example : ofModule ⟨"m", [.call "f" [.string "a", .string "b"]]⟩ =
    ofModule ⟨"m", [.call "f" [.string "a\" , \"b"]]⟩ := by
  decide

end Modlet.CText
