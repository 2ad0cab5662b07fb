import Modlet.Proofs.CText.Parts
import Modlet.Proofs.CText.Unambiguous

/-!
# Functions are announced before they are defined

The C text of a module has two phases. First every function at the top of the module is announced
by a prototype, and nothing else is; then every statement is defined. So a function can be called
before its definition stands. The prototype of a function agrees with its definition, whatever the
body is: it is the beginning of the definition, without the names of the parameters.

* `prototypeText_eq_join`, `definitionText_eq_join`: the phases, from the texts of the statements.
* `Token.throughParen`, `Token.withoutNames`: what a prototype has in common with a definition.
* `contents_prototype`, `contents_definition`: the tokens of both, for words as names.
* `ofModule_twoPhases`: the two phases of a module, and what prototypes say.
-/

namespace Modlet

/-- Whether a statement is a function. -/
def Stmt.isFunction : Stmt → Bool
  | .function .. => true
  | .constant .. | .call .. => false

namespace Token

/-- The tokens `ts` up to the first closing parenthesis, which is the last of them. -/
def throughParen (ts : List Content) : List Content :=
  ts.take (ts.findIdx (·.1 = .rightParen) + 1)

/-- Whether a comma or a closing parenthesis comes first. -/
def startsWithEnd (ts : List Content) : Bool :=
  ts.head?.any fun t => t.1 = .comma || t.1 = .rightParen

/-- The tokens without the words that stand directly before a comma or a closing parenthesis, as
`startsWithEnd` tells. -/
def withoutNames : List Content → List Content
  | [] => []
  | t :: ts =>
    if t.1.isWordLike ∧ startsWithEnd ts then withoutNames ts else t :: withoutNames ts

/-- What comes behind the first closing parenthesis does not matter to `throughParen`. -/
theorem throughParen_append {front : List Content} (h : ∀ t ∈ front, t.1 ≠ .rightParen)
    (rest : List Content) :
    throughParen (front ++ [Kind.rightParen.fixed] ++ rest) =
      front ++ [Kind.rightParen.fixed] := by
  have hfront : front.findIdx (·.1 = .rightParen) = front.length :=
    List.findIdx_eq_length.mpr fun t ht => by simpa using h t ht
  have hindex : (front ++ [Kind.rightParen.fixed] ++ rest).findIdx (·.1 = .rightParen) =
      front.length := by
    rw [List.append_assoc, List.findIdx_append, hfront, if_neg (Nat.lt_irrefl _)]
    simp [Kind.fixed, List.findIdx_cons]
  rw [throughParen, hindex]
  exact List.take_left' (by simp)

/-- A token that is no word is kept by `withoutNames`. -/
theorem withoutNames_mark {t : Content} (h : t.1.isWordLike = false) (ts : List Content) :
    withoutNames (t :: ts) = t :: withoutNames ts := by
  rw [withoutNames, if_neg (by simp [h])]

/-- A token is kept by `withoutNames` before what is neither a comma nor a closing parenthesis. -/
theorem withoutNames_before {ts : List Content} (h : startsWithEnd ts = false) (t : Content) :
    withoutNames (t :: ts) = t :: withoutNames ts := by
  rw [withoutNames, if_neg (by simp [h])]

/-- No word ends a parameter. -/
theorem startsWithEnd_word {t : Content} (h : t.1.isWordLike = true) (ts : List Content) :
    startsWithEnd (t :: ts) = false := by
  obtain ⟨kind, text⟩ := t
  cases kind <;> first | rfl | cases h

/-- A word is left out by `withoutNames` before a comma or a closing parenthesis. -/
theorem withoutNames_name {t : Content} {ts : List Content} (ht : t.1.isWordLike = true)
    (h : startsWithEnd ts = true) : withoutNames (t :: ts) = withoutNames ts := by
  rw [withoutNames, if_pos ⟨ht, h⟩]

end Token

namespace CText

open Token

/-! ### The phases -/

/-- Only functions have prototypes: `appendPrototype` leaves the text as it is for all else. -/
theorem appendPrototype_of_not {statement : Stmt} (h : statement.isFunction = false)
    (text : String) : appendPrototype text statement = text := by
  cases statement with
  | constant | call => simp [appendPrototype, Stmt.prototype, append, layout]
  | function => cases h

/-- What `appendPrototype` writes for a function ends with its line. -/
theorem exists_prototype_line {statement : Stmt} (h : statement.isFunction = true) :
    ∃ line, appendPrototype "" statement = line ++ "\n" := by
  cases statement with
  | constant | call => cases h
  | function name result params body =>
    refine ⟨append "" (Stmt.signature name result (params.map Param.typePieces)
      ++ [Piece.word ";"]), ?_⟩
    rw [appendPrototype, Stmt.prototype, ← String.toList_inj, String.toList_append,
      toList_append_empty, toList_append_empty, List.append_cons, layout_append]
    rfl

/-- The `prototypeText` of statements is made of those of the functions among them. -/
theorem prototypeText_eq_join (list : List Stmt) :
    prototypeText list =
      String.join ((list.filter Stmt.isFunction).map (appendPrototype "")) := by
  induction list with
  | nil => rfl
  | cons statement list ih =>
    cases h : statement.isFunction with
    | true => rw [prototypeText, ih, List.filter_cons_of_pos h, List.map_cons, String.join_cons]
    | false =>
      rw [prototypeText, ih, List.filter_cons_of_neg (by simp [h]), appendPrototype_of_not h,
        String.empty_append]

/-- The `definitionText` of statements is made of those of each of them, on lines of their own. -/
theorem definitionText_eq_join (list : List Stmt) :
    definitionText list =
      String.join (list.map fun statement => appendDefinition "" statement ++ "\n") := by
  induction list with
  | nil => rfl
  | cons statement list ih => rw [definitionText, ih, List.map_cons, String.join_cons]

/-! ### Names and their tokens -/

/-- A name that `IsName` is read as a word, a keyword or an identifier. -/
theorem writes_word {name : String} (h : IsName name) :
    Writes [.word name] [Lexeme.ofWord name] := by
  rw [Lexeme.ofWord]
  split
  · next keyword hkeyword =>
    exact .word (Keyword.spelling_of_ofWord? hkeyword).symm rfl .nil
  · next hkeyword => exact writes_name ⟨h, hkeyword⟩

/-- A word is an identifier or a keyword, by `Lexeme.ofWord`. -/
theorem isWordLike_ofWord (name : String) : (Lexeme.ofWord name).1.isWordLike = true := by
  rw [Lexeme.ofWord]
  split <;> rfl

/-- The tokens of the beginning of a function whose names are words, with those of its
parameters. -/
def headTokens (name result : String) (params : List (List Content)) : List Content :=
  [Lexeme.ofWord result, Lexeme.ofWord name, Kind.leftParen.fixed] ++ commaTokens params
    ++ [Kind.rightParen.fixed]

/-- A parameter of a prototype. -/
def typeToken (param : Param) : List Content := [Lexeme.ofWord param.type]

/-- A parameter of a definition. -/
def paramTokens (param : Param) : List Content :=
  [Lexeme.ofWord param.type, Lexeme.ofWord param.name]

/-- The names of a function and of its parameters are words. -/
structure HasWords (name result : String) (params : List Param) : Prop where
  /-- The name of the function. -/
  name : IsName name
  /-- The type of its result. -/
  result : IsName result
  /-- The names and the types of its parameters. -/
  params : ∀ param ∈ params, IsName param.name ∧ IsName param.type

variable {name result : String} {params : List Param}

/-- The tokens of what `appendPrototype` writes for a function. -/
theorem contents_prototype (h : HasWords name result params) (body : List Stmt) :
    (tokensOf (appendPrototype "" (.function name result params body))).map content =
      headTokens name result (params.map typeToken) ++ [Kind.semicolon.fixed] := by
  have hhead : Writes (Stmt.signature name result (params.map Param.typePieces)) _ :=
    writes_beginning (writes_word h.name) (writes_word h.result)
      fun param hparam => writes_word (h.params param hparam).2
  have hline := hhead.append ((@writes_fixed .semicolon rfl).append (.lineBreak .nil))
  rw [tokensOf, Cursor.ofSource, appendPrototype, toList_append_empty]
  exact hline.contents_tokens none .start

/-- The last character of a `Stmt.signature` closes its parameters. -/
theorem getLast?_signature (params : List (List Piece)) :
    (layout none (Stmt.signature name result params)).getLast? = some ')' := by
  rw [Stmt.signature, layout_append, List.getLast?_append]
  simp [layout, Piece.write]

/-- The tokens of what `appendDefinition` writes for a function begin with its `headTokens`,
whatever its body is. -/
theorem contents_definition (h : HasWords name result params) (body : List Stmt) :
    ∃ rest, (tokensOf (appendDefinition "" (.function name result params body))).map content =
      headTokens name result (params.map paramTokens) ++ rest := by
  have hhead : Writes (Stmt.signature name result (params.map Param.pieces)) _ :=
    writes_beginning (writes_word h.name) (writes_word h.result) fun param hparam =>
      (writes_word (h.params param hparam).2).append (writes_word (h.params param hparam).1)
  rw [tokensOf, Cursor.ofSource, appendDefinition, toList_append_empty, Stmt.definition,
    List.append_assoc, List.append_assoc, layout_append, getLast?_signature]
  -- The brace behind the parenthesis is set off by a space.
  exact ⟨_, hhead.contents_tokens_append none .start (by rintro _ ⟨⟩; rfl)⟩

/-! ### Prototypes and definitions -/

/-- Of the parameters of a definition `withoutNames` keeps their types only. -/
theorem withoutNames_params (params : List Param) :
    withoutNames (commaTokens (params.map paramTokens) ++ [Kind.rightParen.fixed]) =
      commaTokens (params.map typeToken) ++ [Kind.rightParen.fixed] := by
  induction params with
  | nil => rfl
  | cons param params ih =>
    -- The type stands before the name, which is a word, and behind the name the parameter ends.
    have htype := startsWithEnd_word (isWordLike_ofWord param.name)
    have hname : ∀ rest, startsWithEnd rest = true →
        withoutNames (paramTokens param ++ rest) = typeToken param ++ withoutNames rest := by
      intro rest hrest
      rw [paramTokens, List.cons_append, List.singleton_append, withoutNames_before (htype rest),
        withoutNames_name (isWordLike_ofWord _) hrest]
      rfl
    cases params with
    | nil =>
      have hlast := hname [Kind.rightParen.fixed] rfl
      simpa [commaTokens] using! hlast
    | cons next params =>
      have hmore := hname
        (Kind.comma.fixed :: (commaTokens ((next :: params).map paramTokens)
          ++ [Kind.rightParen.fixed])) rfl
      rw [withoutNames_mark rfl, ih] at hmore
      simpa [commaTokens, List.intercalate_cons_cons] using hmore

/-- Without the names of the parameters, the `headTokens` of a definition are those of a
prototype. -/
theorem withoutNames_headTokens (name result : String) (params : List Param) :
    withoutNames (headTokens name result (params.map paramTokens)) =
      headTokens name result (params.map typeToken) := by
  have hname : ∀ rest, startsWithEnd (Lexeme.ofWord name :: rest) = false :=
    startsWithEnd_word (isWordLike_ofWord name)
  rw [headTokens, List.append_assoc, List.cons_append, List.cons_append, List.singleton_append,
    withoutNames_before (hname _), withoutNames_before rfl, withoutNames_mark rfl,
    withoutNames_params, headTokens, List.append_assoc]
  rfl

/-- What is true of words and of the marks between them is true of `headTokens`, up to the
parenthesis that closes them. -/
theorem exists_headTokens {P : Content → Prop} (hword : ∀ word, P (Lexeme.ofWord word))
    (hopen : P Kind.leftParen.fixed) (hcomma : P Kind.comma.fixed) (name result : String)
    {group : Param → List Content} (hgroup : ∀ param, ∀ t ∈ group param, P t)
    (params : List Param) :
    ∃ front, headTokens name result (params.map group) = front ++ [Kind.rightParen.fixed] ∧
      ∀ t ∈ front, P t := by
  refine ⟨_, rfl, ?_⟩
  rw [List.forall_mem_append]
  exact ⟨by simpa using ⟨hword result, hword name, hopen⟩,
    forall_mem_commaTokens hcomma fun param _ => hgroup param⟩

/-- What a prototype says of a function is what its definition begins with: its tokens are those of
the definition `throughParen` and `withoutNames`, and a semicolon. -/
structure Announces (name result : String) (params : List Param) (prototype definition : String) :
    Prop where
  /-- The definition begins with the names of the function and with its parameters. -/
  begins : ∃ rest, (tokensOf definition).map content =
    headTokens name result (params.map paramTokens) ++ rest
  /-- The prototype tells these names too, and the types of the parameters. -/
  contents_eq : (tokensOf prototype).map content =
    headTokens name result (params.map typeToken) ++ [Kind.semicolon.fixed]
  /-- It is the definition up to the first closing parenthesis, without the names of the parameters,
  and a semicolon. -/
  tokens_eq : (tokensOf prototype).map content =
    withoutNames (throughParen ((tokensOf definition).map content)) ++ [Kind.semicolon.fixed]
  /-- No body begins in the prototype. -/
  kind_ne : ∀ t ∈ tokensOf prototype, t.kind ≠ .leftBrace

/-- No word is a mark. -/
theorem kind_ofWord_ne {kind : Kind} (h : kind.isWordLike = false) (word : String) :
    (Lexeme.ofWord word).1 ≠ kind := by
  rintro rfl
  rw [isWordLike_ofWord] at h
  cases h

/-- The prototype of a function whose names are words `Announces` its definition. -/
theorem announces_function (h : HasWords name result params) (body : List Stmt) :
    Announces name result params (appendPrototype "" (.function name result params body))
      (appendDefinition "" (.function name result params body)) := by
  -- Both texts have tokens that begin with those of `headTokens`.
  have hprototype := contents_prototype h body
  obtain ⟨rest, hdefinition⟩ := contents_definition h body
  refine ⟨⟨rest, hdefinition⟩, hprototype, ?_, fun t ht hkind => ?_⟩
  · -- The first closing parenthesis is that behind the parameters.
    have hword := @kind_ofWord_ne .rightParen rfl
    obtain ⟨front, hfront, hclosed⟩ := @exists_headTokens (fun t => t.1 ≠ .rightParen) hword
      (by decide) (by decide) name result paramTokens
      (fun param => by simpa [paramTokens] using ⟨hword param.type, hword param.name⟩) params
    rw [hprototype, hdefinition, hfront, throughParen_append hclosed, ← hfront,
      withoutNames_headTokens]
  · -- A prototype is made of words and of other marks.
    have hword := @kind_ofWord_ne .leftBrace rfl
    obtain ⟨front, hfront, hnone⟩ := @exists_headTokens (fun t => t.1 ≠ .leftBrace) hword
      (by decide) (by decide) name result typeToken
      (fun param => by simpa [typeToken] using hword param.type) params
    have hmem : t.content ∈ front ++ [Kind.rightParen.fixed] ++ [Kind.semicolon.fixed] := by
      rw [← hfront, ← hprototype]
      exact List.mem_map_of_mem ht
    simp only [List.mem_append, List.mem_singleton] at hmem
    rcases hmem with (hmem | hmem) | hmem
    · exact hnone _ hmem hkind
    · cases hkind.symm.trans (congrArg Prod.fst hmem)
    · cases hkind.symm.trans (congrArg Prod.fst hmem)

/-- The C text of a module is `preamble`, the line with its name, what `appendPrototype` writes for
every function at its top and for nothing else, an empty line, and what `appendDefinition` writes
for every statement, each as if it stood alone. The prototype of a function whose names are words
`Announces` its definition. -/
theorem ofModule_twoPhases (program : Module) :
    ofModule program = preamble ++ ("/* module: " ++ program.name ++ " */\n")
        ++ String.join ((program.statements.filter Stmt.isFunction).map (appendPrototype ""))
        ++ "\n"
        ++ String.join (program.statements.map fun s => appendDefinition "" s ++ "\n")
      ∧ (∀ statement ∈ program.statements,
        if statement.isFunction then ∃ line, appendPrototype "" statement = line ++ "\n"
        else ∀ text, appendPrototype text statement = text)
      ∧ ∀ name result params body, HasWords name result params →
        Announces name result params (appendPrototype "" (.function name result params body))
          (appendDefinition "" (.function name result params body)) := by
  refine ⟨?_, fun statement _ => ?_, fun name result params body h => announces_function h body⟩
  · rw [ofModule_eq_ofParts, ofParts, prototypeText_eq_join, definitionText_eq_join]
  · split
    · next h => exact exists_prototype_line h
    · next h => exact appendPrototype_of_not (by simpa using h)

/-- A constant, and a function with another one in its body, which has no prototype. -/
theorem ofModule_twoPhases_nested :
    HasWords "f" "t" [⟨"a", "t"⟩, ⟨"b", "if"⟩]
      ∧ Announces "f" "t" [⟨"a", "t"⟩, ⟨"b", "if"⟩] "t f ( t , if ) ;\n"
        "t f ( t a , if b ) \x7b\nt g ( ) \x7b\n\x7d\n\x7d"
      ∧ ofModule ⟨"m", [.constant "c" "t" (.integer 1), .function "f" "t"
          [⟨"a", "t"⟩, ⟨"b", "if"⟩] [.function "g" "t" [] []]]⟩ =
        preamble ++ "/* module: m */\n" ++ "t f ( t , if ) ;\n" ++ "\n" ++ "const t c = 1 ;\n"
          ++ "t f ( t a , if b ) \x7b\nt g ( ) \x7b\n\x7d\n\x7d\n" := by
  have hwords : HasWords "f" "t" [⟨"a", "t"⟩, ⟨"b", "if"⟩] := ⟨rfl, rfl, by decide⟩
  obtain ⟨htext, -, hannounces⟩ := ofModule_twoPhases ⟨"m", [.constant "c" "t" (.integer 1),
    .function "f" "t" [⟨"a", "t"⟩, ⟨"b", "if"⟩] [.function "g" "t" [] []]]⟩
  refine ⟨hwords, ?_, ?_⟩
  · exact hannounces "f" "t" _ [.function "g" "t" [] []] hwords
  · rw [htext]
    rfl

end CText

end Modlet
