import Modlet.Compile
import Modlet.Proofs.CText.Parts
import Modlet.Proofs.CText.Tokens

/-!
# Literals on their way to C

The literals of a program come out of compiling as they went in: none is lost, none is added, and
they keep their order and their values, however deep in the bodies of functions they stand. They all
come out in the definitions, and in the prototypes there is none.

* `Token.literals`: the literals among some tokens, integers by their values.
* `Module.literals`: the literals of a tree, in order.
* `Grammar.Statement.literals_eq`, `literals_definitionTokens`: the literals of a statement are
  those of its tokens, in the source and in C.
* `compile_literals`: the literals of a source are those of its C text.
-/

namespace Modlet

open Token CText

/-! ### Literals of tokens and trees -/

/-- The literal that a token is, if it is one: an integer with its value, or a string with its
contents. -/
def Token.literal? : Content → Option Expr
  | (.integer, text) => some (.integer (Numeral.value text.toList))
  | (.string, text) => some (.string text)
  | _ => none

/-- The literals among some tokens, in order, as `literal?` tells them. -/
def Token.literals (ts : List Content) : List Expr := ts.filterMap literal?

/-- The literal that a value is, if it is one. -/
def Expr.literals : Expr → List Expr
  | .variable _ => []
  | literal => [literal]

mutual

/-- The literals in a statement, in order. -/
def Stmt.literals : Stmt → List Expr
  | .constant _ _ value => value.literals
  | .function _ _ _ body => Stmt.literalsList body
  | .call _ args => args.flatMap Expr.literals

/-- The literals in statements, in order. -/
def Stmt.literalsList : List Stmt → List Expr
  | [] => []
  | statement :: others => Stmt.literals statement ++ Stmt.literalsList others

end

/-- The literals in the statements of a module, in order. -/
def Module.literals (program : Module) : List Expr := Stmt.literalsList program.statements

namespace Token

@[simp]
theorem literals_nil : literals [] = [] := rfl

@[simp]
theorem literals_append (ts us : List Content) : literals (ts ++ us) = literals ts ++ literals us :=
  List.filterMap_append

@[simp]
theorem literals_cons (t : Content) (ts : List Content) :
    literals (t :: ts) = (literal? t).toList ++ literals ts := by
  cases h : literal? t with
  | none => exact List.filterMap_cons_none h
  | some literal => exact List.filterMap_cons_some h

end Token

/-! ### Literals in a source -/

variable {ts : List Content}

/-- A value that `Grammar.Value` derives is the literal that its token is. -/
theorem Grammar.Value.literals_eq {value : Expr} (h : Grammar.Value ts value) :
    literals ts = value.literals := by
  cases h with
  | integer hread =>
    rw [Numeral.eq_value_of_read? hread]
    rfl
  | string text => rfl
  | «variable» text => rfl

/-- The names of a `Grammar.Parameter` are no literals. -/
theorem Grammar.Parameter.literals_eq {param : Param} (h : Grammar.Parameter ts param) :
    literals ts = [] := by
  cases h with
  | mk text type => rfl

/-- The literals of `Grammar.Items` are those of its items: commas are none. -/
theorem Grammar.Items.literals_eq {α : Type} {Item : List Content → α → Prop}
    {list : List α} {of : α → List Expr} (h : Grammar.Items Item ts list)
    (hitem : ∀ us a, Item us a → literals us = of a) : literals ts = list.flatMap of := by
  induction h with
  | none => rfl
  | last hlast => simp [hitem _ _ hlast]
  | more hfirst _ ih =>
    simp [literal?, Kind.fixed, hitem _ _ hfirst, ih]

/-- Parameters have no literals, so a whole list of them has none. -/
theorem literals_parameters {params : List Param}
    (h : Grammar.Items Grammar.Parameter ts params) : literals ts = [] := by
  have hnone : ∀ us param, Grammar.Parameter us param → literals us = (fun _ => []) param :=
    fun _ _ hparam => hparam.literals_eq
  rw [h.literals_eq hnone, List.flatMap_eq_nil_iff]
  exact fun _ _ => rfl

mutual

/-- The literals of a `Grammar.Statement` are those of its tokens in a source. -/
theorem Grammar.Statement.literals_eq {ts : List Content} : ∀ {statement : Stmt},
    Grammar.Statement ts statement → literals ts = statement.literals
  | _, .constant text type hvalue => by
    simp [literal?, Kind.fixed, Grammar.name, hvalue.literals_eq, Stmt.literals]
  | _, .call callee hargs => by
    have hall := hargs.literals_eq fun _ _ hvalue => hvalue.literals_eq
    simp [literal?, Kind.fixed, Grammar.name, hall, Stmt.literals]
  | _, .function text result hparams hbody => by
    simp [literal?, Kind.fixed, Grammar.name, literals_parameters hparams, hbody.literals_eq,
      Stmt.literals]

/-- The literals of `Grammar.Statements` are those of their tokens in a source. -/
theorem Grammar.Statements.literals_eq {ts : List Content} : ∀ {list : List Stmt},
    Grammar.Statements ts list → literals ts = Stmt.literalsList list
  | _, .nil => rfl
  | _, .cons hfirst hothers => by
    rw [literals_append, hfirst.literals_eq, hothers.literals_eq, Stmt.literalsList]

end

/-- The literals of a `Grammar.Program` are those of its source. -/
theorem Grammar.Program.literals_eq {program : Module} (h : Grammar.Program ts program) :
    literals ts = program.literals := by
  cases h with
  | mk text hstatements =>
    simp [literal?, Kind.fixed, Grammar.name, hstatements.literals_eq, Module.literals]

namespace CText

/-! ### Literals in C -/

/-- The `valueToken` of a value is the same literal, or a name. -/
theorem literals_valueToken {value : Expr} (h : value.All IsIdentifier IsInRange IsUnquoted) :
    literals [valueToken value] = value.literals := by
  cases value with
  | integer n =>
    obtain ⟨n, rfl⟩ := Int.eq_ofNat_of_zero_le h.1
    have hdigits : (Numeral.ofInt n).toList = Nat.toDigits 10 n := Nat.toList_repr
    have hvalue : Numeral.value (Numeral.ofInt n).toList = n := by
      rw [hdigits, Numeral.value_toDigits]
    simp [literal?, valueToken, hvalue, Expr.literals]
  | string text => rfl
  | «variable» name => rfl

/-- The literals of `commaTokens` are those of the groups. -/
theorem literals_commaTokens (groups : List (List Content)) :
    literals (commaTokens groups) = groups.flatMap literals := by
  induction groups with
  | nil => rfl
  | cons group groups ih =>
    cases groups with
    | nil => simp [commaTokens]
    | cons next groups =>
      have hcommas : commaTokens (group :: next :: groups) =
          group ++ Kind.comma.fixed :: commaTokens (next :: groups) := by
        simp [commaTokens, List.intercalate_cons_cons]
      rw [hcommas, literals_append, literals_cons, ih, List.flatMap_cons]
      rfl

/-- The `signatureTokens` of a function have no literals if its parameters have none. -/
theorem literals_signatureTokens (name result : String) {params : List (List Content)}
    (h : ∀ group ∈ params, literals group = []) :
    literals (signatureTokens name result params) = [] := by
  have hparams : literals (commaTokens params) = [] := by
    rw [literals_commaTokens, List.flatMap_eq_nil_iff]
    exact h
  simp [literal?, Kind.fixed, signatureTokens, nameToken, hparams]

/-- The `prototypeTokens` of a statement have no literals. -/
theorem literals_prototypeTokens (statement : Stmt) :
    literals (prototypeTokens statement) = [] := by
  cases statement with
  | constant | call => rfl
  | function name result params body =>
    have hparams : ∀ group ∈ params.map fun param => [nameToken param.type],
        literals group = [] := by
      simp [literal?, nameToken]
    simp [literal?, Kind.fixed, prototypeTokens, literals_signatureTokens name result hparams]

mutual

/-- The literals of a statement are those of its `definitionTokens` in C. -/
theorem literals_definitionTokens : ∀ {statement : Stmt},
    statement.All IsIdentifier IsInRange IsUnquoted →
    literals (definitionTokens statement) = statement.literals
  | .constant name type value, ⟨_, _, hvalue⟩ => by
    -- The value is one token, with no literals around it.
    have htokens : definitionTokens (.constant name type value) =
        [nameToken "const", nameToken type, nameToken name, Kind.assign.fixed]
          ++ [valueToken value] ++ [Kind.semicolon.fixed] := rfl
    rw [htokens, literals_append, literals_append, literals_valueToken hvalue]
    simp [literal?, Kind.fixed, nameToken, Stmt.literals]
  | .function name result params body, ⟨_, _, _, hbody⟩ => by
    have hparams : ∀ group ∈ params.map fun param => [nameToken param.type, nameToken param.name],
        literals group = [] := by
      simp [literal?, nameToken]
    simp [literal?, Kind.fixed, definitionTokens, literals_signatureTokens name result hparams,
      literals_definitionTokensList hbody, Stmt.literals]
  | .call callee args, ⟨_, hargs⟩ => by
    have hlist : literals (commaTokens (args.map fun arg => [valueToken arg])) =
        args.flatMap Expr.literals := by
      rw [literals_commaTokens, List.flatMap_map]
      exact List.flatMap_congr fun arg harg => literals_valueToken (hargs arg harg)
    simp [literal?, Kind.fixed, definitionTokens, nameToken, hlist, Stmt.literals]

/-- The literals of statements are those of their `definitionTokensList` in C. -/
theorem literals_definitionTokensList : ∀ {list : List Stmt},
    Stmt.AllList IsIdentifier IsInRange IsUnquoted list →
    literals (definitionTokensList list) = Stmt.literalsList list
  | [], _ => rfl
  | _ :: _, ⟨hfirst, hothers⟩ => by
    rw [definitionTokensList, literals_append, literals_definitionTokens hfirst,
      literals_definitionTokensList hothers, Stmt.literalsList]

end

/-! ### The parts of a C text -/

/-- The `prototypeText` of well-formed statements is read as their `prototypeTokens`. -/
theorem contents_tokensOf_prototypeText {list : List Stmt}
    (h : Stmt.AllList IsIdentifier IsInRange IsUnquoted list) :
    (tokensOf (prototypeText list)).map content = list.flatMap prototypeTokens := by
  rw [tokensOf, Cursor.ofSource, ← layout_prototypes]
  exact (writes_prototypes h).contents_tokens none .start

/-- The `definitionText` of well-formed statements is read as their `definitionTokensList`. -/
theorem contents_tokensOf_definitionText {list : List Stmt}
    (h : Stmt.AllList IsIdentifier IsInRange IsUnquoted list) :
    (tokensOf (definitionText list)).map content = definitionTokensList list := by
  rw [tokensOf, Cursor.ofSource, ← layout_definitionLines]
  exact (writes_definitionLines h).contents_tokens none .start

end CText

/-- Compiling keeps the literals of a source. The C text of a unit has a part with prototypes and a
part with definitions (`ofParts`). Among the tokens of the definitions, none of which is invalid,
there stand the `literals` of the tokens of the source, each with its value or its contents, in the
same order. The prototypes have none. -/
theorem compile_literals {file source text : String}
    (h : (compile file source).result = .ok text) :
    ∃ program, Module.parse file source = .ok program
      ∧ text = ofParts program.name (prototypeText program.statements)
          (definitionText program.statements)
      ∧ literals ((tokensOf (definitionText program.statements)).map content) =
          literals ((tokensOf source).map content)
      ∧ (∀ t ∈ tokensOf (definitionText program.statements), t.kind ≠ .invalid)
      ∧ literals ((tokensOf (prototypeText program.statements)).map content) = [] := by
  cases hparse : Module.parse file source with
  | error e =>
    rw [compile_result_of_error hparse] at h
    cases h
  | ok program =>
    rw [compile_result_of_parse hparse] at h
    -- Both sides are the literals of the tree, once by the grammar and once by the tokens of C.
    have hwellFormed := (Module.wellFormed_of_parse hparse).2
    have hdefinitions := contents_tokensOf_definitionText hwellFormed
    refine ⟨program, rfl, ?_, ?_, fun t ht => ?_, ?_⟩
    · rw [← ofModule_eq_ofParts]
      exact (Except.ok.inj h).symm
    · rw [hdefinitions, literals_definitionTokensList hwellFormed,
        (Module.program_of_parse hparse).literals_eq, Module.literals]
    · have hmem : t.content ∈ definitionTokensList program.statements :=
        hdefinitions ▸ List.mem_map_of_mem ht
      exact ((writes_definitionLines hwellFormed).isWritten _ hmem).kind_ne.1
    · rw [contents_tokensOf_prototypeText hwellFormed, literals, List.filterMap_flatMap,
        List.flatMap_eq_nil_iff]
      exact fun statement _ => literals_prototypeTokens statement

/-- A string that looks like a comment and a padded integer, in the body of a function. -/
theorem compile_literals_nested :
    (compile "m" "module a; fn f(): t \x7b g(\"// 1\", 007); \x7d").result =
        .ok (ofParts "a" "t f ( ) ;\n" "t f ( ) \x7b\ng ( \"// 1\" , 7 ) ;\n\x7d\n")
      ∧ ∃ program,
          Module.parse "m" "module a; fn f(): t \x7b g(\"// 1\", 007); \x7d" = .ok program
        ∧ ofParts "a" "t f ( ) ;\n" "t f ( ) \x7b\ng ( \"// 1\" , 7 ) ;\n\x7d\n" =
            ofParts program.name (prototypeText program.statements)
              (definitionText program.statements)
        ∧ literals ((tokensOf (definitionText program.statements)).map content) =
            literals ((tokensOf "module a; fn f(): t \x7b g(\"// 1\", 007); \x7d").map content)
        ∧ (∀ t ∈ tokensOf (definitionText program.statements), t.kind ≠ .invalid)
        ∧ literals ((tokensOf (prototypeText program.statements)).map content) = [] := by
  have hcall : Grammar.Statement _ (.call "g" [.string "// 1", .integer 7]) :=
    .call "g" (.more (.string "// 1") (.last (@Grammar.Value.integer "007" 7 (by decide))))
  have hprogram : Grammar.Program _ ⟨"a", [.function "f" "t" [] [_]]⟩ :=
    .mk "a" (.cons (.function "f" "t" .none (.cons hcall .nil)) .nil)
  have hparse := @Module.parse_of_program
    "module a; fn f(): t \x7b g(\"// 1\", 007); \x7d" _ (by cbv; exact hprogram) "m"
  have hresult : (compile "m" "module a; fn f(): t \x7b g(\"// 1\", 007); \x7d").result =
      .ok (ofParts "a" "t f ( ) ;\n" "t f ( ) \x7b\ng ( \"// 1\" , 7 ) ;\n\x7d\n") := by
    rw [compile_result_of_parse hparse]
    cbv
  exact ⟨hresult, compile_literals hresult⟩

end Modlet
