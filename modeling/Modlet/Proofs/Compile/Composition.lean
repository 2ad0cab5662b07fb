import Modlet.Compile
import Modlet.Proofs.CText.Parts
import Modlet.Proofs.Program.AnyLayout
import Modlet.Proofs.Program.Origin
import Modlet.Proofs.Token.Boundary

/-!
# Compiling statements one after the other

The statements of two modules with the same name can be put together, with the end of a line between
them. The module that they make has the statements of both, and its C text is put together from the
texts of both: what a statement is compiled to does not depend on what stands before or behind it.

* `contents_tokens_header`: the tokens of a source behind the name of its module.
* `Grammar.Statements.append`: statements in order are spelled by their tokens in order.
* `compile_append_statements`: the module that two modules make, and its C text.
-/

namespace Modlet

open Token CText

/-- The beginning of a source, up to the semicolon behind the name of its module. -/
def moduleHeader (name : String) : String := "module " ++ name ++ ";"

/-- The tokens of a source are those of its `moduleHeader` and those of what stands behind that. -/
theorem contents_tokens_header {name : String} (h : IsIdentifier name) (rest : String)
    (pos : Position) :
    (tokensOf (moduleHeader name ++ rest)).map content =
      [(Kind.keyword .module).fixed, Grammar.name name, Kind.semicolon.fixed]
        ++ (Cursor.tokens ⟨rest.toList, pos⟩).map content := by
  have hsource : (moduleHeader name ++ rest).toList =
      spelled (Kind.keyword .module).fixed ++ ([' '] ++ (spelled (Grammar.name name)
        ++ (spelled Kind.semicolon.fixed ++ rest.toList))) := by
    simp [moduleHeader, spelled, Grammar.name, Kind.fixed, Kind.spelling, Keyword.spelling]
  have hname : IsWritten (Grammar.name name) := h.isWritten
  -- Behind the keyword stands a space, and behind the name its semicolon.
  rw [tokensOf, Cursor.ofSource, hsource, Cursor.tokens_spelled (isWritten_fixed rfl) ?_,
    Cursor.tokens_of_isGap (.spacing rfl .nil),
    Cursor.tokens_spelled hname ?_, Cursor.tokens_spelled (isWritten_fixed rfl) ?_,
    List.map_cons, List.map_cons, List.map_cons, Cursor.contents_tokens_pos rest.toList _ pos]
  · rfl
  · exact fun _ _ => rfl
  · rintro _ ⟨⟩
    rfl
  · rintro _ ⟨⟩
    rfl

/-- Statements in order are spelled by their tokens in order: `Statements` passes to what is
appended. -/
theorem Grammar.Statements.append {us : List Content} {others : List Stmt}
    (hothers : Statements us others) : ∀ {ts : List Content} {list : List Stmt},
    Statements ts list → Statements (ts ++ us) (list ++ others)
  | _, _, .nil => hothers
  | _, _, .cons hfirst hrest => by
    rw [List.append_assoc]
    exact .cons hfirst (hothers.append hrest)

/-- What stands behind the `moduleHeader` of a source that `Module.parse` accepts spells the
statements of the module, and the module has the name in the header. -/
theorem statements_of_parse {file name rest : String} {program : Module} (hname : IsIdentifier name)
    (h : Module.parse file (moduleHeader name ++ rest) = .ok program) (pos : Position) :
    program.name = name
      ∧ Grammar.Statements ((Cursor.tokens ⟨rest.toList, pos⟩).map content) program.statements
      ∧ ∀ t ∈ Cursor.tokens ⟨rest.toList, pos⟩, t.kind ≠ .invalid := by
  have hprogram := Module.program_of_parse h
  have hwritten := (hprogram.isTidy (Module.wellFormed_of_parse h)).written
  rw [contents_tokens_header hname rest pos] at hprogram hwritten
  -- The tokens of a program can all be written, so none is invalid.
  have hvalid : ∀ t ∈ Cursor.tokens ⟨rest.toList, pos⟩, t.kind ≠ .invalid := fun t ht =>
    (hwritten t.content (List.mem_append_right _ (List.mem_map_of_mem ht))).kind_ne.1
  -- The list has to be a variable for the rule of the grammar to apply.
  generalize hall : [(Kind.keyword .module).fixed, Grammar.name name, Kind.semicolon.fixed]
    ++ (Cursor.tokens ⟨rest.toList, pos⟩).map content = all at hprogram
  cases hprogram with
  | mk text hstatements =>
    simp only [List.cons_append, List.nil_append, List.cons.injEq] at hall
    obtain ⟨-, htext, -, rfl⟩ := hall
    exact ⟨(congrArg Prod.snd htext).symm, hstatements, hvalid⟩

/-- The statements of two modules with the same name make a module with that name, which
`Module.parse` reads from one source with both. Their C texts make its C text: each is made by
`ofParts`, its prototypes are those of the first and then those of the second, and so are its
definitions. -/
theorem compile_append_statements {name first second file file' : String} {a b : Module}
    (hname : IsIdentifier name)
    (ha : Module.parse file (moduleHeader name ++ first) = .ok a)
    (hb : Module.parse file' (moduleHeader name ++ second) = .ok b) (file'' : String) :
    Module.parse file'' (moduleHeader name ++ first ++ "\n" ++ second) =
        .ok ⟨name, a.statements ++ b.statements⟩
      ∧ (compile file (moduleHeader name ++ first)).result =
          .ok (ofParts name (prototypeText a.statements) (definitionText a.statements))
      ∧ (compile file' (moduleHeader name ++ second)).result =
          .ok (ofParts name (prototypeText b.statements) (definitionText b.statements))
      ∧ (compile file'' (moduleHeader name ++ first ++ "\n" ++ second)).result =
          .ok (ofParts name (prototypeText a.statements ++ prototypeText b.statements)
            (definitionText a.statements ++ definitionText b.statements)) := by
  obtain ⟨rfl, hfirst, hvalid⟩ := statements_of_parse hname ha .start
  obtain ⟨hsame, hsecond, -⟩ := statements_of_parse hname hb .start
  have hsource : moduleHeader a.name ++ first ++ "\n" ++ second =
      moduleHeader a.name ++ (first ++ "\n" ++ second) := by
    simp only [String.append_assoc]
  have hparse : Module.parse file'' (moduleHeader a.name ++ first ++ "\n" ++ second) =
      .ok ⟨a.name, a.statements ++ b.statements⟩ := by
    refine Module.parse_of_program ?_ file''
    -- No token of the first statements is invalid, so none of them goes on behind the end of the
    -- line, and neither does a comment.
    have hrest : (first ++ "\n" ++ second).toList = first.toList ++ '\n' :: second.toList := by
      simp
    rw [hsource, contents_tokens_header hname _ .start, hrest,
      Cursor.contents_tokens_lineBreak hvalid _ .start .start]
    exact .mk a.name (hsecond.append hfirst)
  refine ⟨hparse, ?_, ?_, ?_⟩
  · rw [compile_result_of_parse ha, ofModule_eq_ofParts]
  · rw [compile_result_of_parse hb, ofModule_eq_ofParts, hsame]
  · rw [compile_result_of_parse hparse, ofModule_eq_ofParts, prototypeText_append,
      definitionText_append]

/-- A call with a comment behind it, and a function. -/
theorem compile_append_statements_function :
    Module.parse "a" (moduleHeader "m" ++ " f(1); // one") = .ok ⟨"m", [.call "f" [.integer 1]]⟩
      ∧ Module.parse "b" (moduleHeader "m" ++ "fn g(x: t): t \x7b \x7d") =
          .ok ⟨"m", [.function "g" "t" [⟨"x", "t"⟩] []]⟩
      ∧ Module.parse "c" (moduleHeader "m" ++ " f(1); // one" ++ "\n"
            ++ "fn g(x: t): t \x7b \x7d") =
          .ok ⟨"m", [.call "f" [.integer 1], .function "g" "t" [⟨"x", "t"⟩] []]⟩
      ∧ (compile "c" (moduleHeader "m" ++ " f(1); // one" ++ "\n"
            ++ "fn g(x: t): t \x7b \x7d")).result =
          .ok (ofParts "m" "t g ( t ) ;\n" "f ( 1 ) ;\nt g ( t x ) \x7b\n\x7d\n") := by
  have ha : Module.parse "a" (moduleHeader "m" ++ " f(1); // one") =
      .ok ⟨"m", [.call "f" [.integer 1]]⟩ := by cbv
  have hprogram : Grammar.Program _ ⟨"m", [.function "g" "t" [⟨"x", "t"⟩] []]⟩ :=
    .mk "m" (.cons (.function "g" "t" (.last (.mk "x" "t")) .nil) .nil)
  have hb := @Module.parse_of_program (moduleHeader "m" ++ "fn g(x: t): t \x7b \x7d") _
    (by cbv; exact hprogram) "b"
  obtain ⟨hparse, -, -, hresult⟩ := compile_append_statements (by decide) ha hb "c"
  refine ⟨ha, hb, hparse, hresult.trans ?_⟩
  cbv

end Modlet
