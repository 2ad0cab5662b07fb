import Modlet.Proofs.CText.Layout

/-!
# The parts of a C text

What a statement is written as does not depend on what is written before it: prototypes and
definitions begin on lines of their own, and at the beginning of a line no space is put in. So the C
text of a module is put together from the texts of its statements.

* `layout_congr`: a layout depends on the text before it through the space before a word alone.
* `prototypeText`, `definitionText`: the lines of statements, each written as if it stood alone.
* `ofModule_eq_ofParts`: the C text of a module is its banner, the prototypes of its statements, an
  empty line, and their definitions.
-/

namespace Modlet.CText

/-- The lines with the prototypes of statements, each written as if it stood alone. -/
def prototypeText : List Stmt → String
  | [] => ""
  | statement :: others => appendPrototype "" statement ++ prototypeText others

/-- The lines with the definitions of statements, each written as if it stood alone. -/
def definitionText : List Stmt → String
  | [] => ""
  | statement :: others => appendDefinition "" statement ++ "\n" ++ definitionText others

/-- The C text of a module with the given name, prototypes and definitions. -/
def ofParts (name prototypes definitions : String) : String :=
  preamble ++ ("/* module: " ++ name ++ " */\n") ++ prototypes ++ "\n" ++ definitions

/-- The `prototypeText` of some statements stands before that of others. -/
theorem prototypeText_append (list others : List Stmt) :
    prototypeText (list ++ others) = prototypeText list ++ prototypeText others := by
  induction list with
  | nil => rw [List.nil_append, prototypeText, String.empty_append]
  | cons statement list ih =>
    rw [List.cons_append, prototypeText, prototypeText, ih, String.append_assoc]

/-- The `definitionText` of some statements stands before that of others. -/
theorem definitionText_append (list others : List Stmt) :
    definitionText (list ++ others) = definitionText list ++ definitionText others := by
  induction list with
  | nil => rw [List.nil_append, definitionText, String.empty_append]
  | cons statement list ih =>
    rw [List.cons_append, definitionText, definitionText, ih, String.append_assoc,
      String.append_assoc, String.append_assoc]

variable {last last' : Option Char}

/-- What stands before pieces matters through the `separator` of a word alone. -/
theorem layout_congr (h : separator last = separator last') (pieces : List Piece) :
    layout last pieces = layout last' pieces := by
  induction pieces generalizing last last' with
  | nil => rfl
  | cons piece pieces ih =>
    have hpiece : piece.write last = piece.write last' := by
      cases piece with
      | word text => rw [Piece.write, Piece.write, h]
      | raw text => rfl
    rw [layout, layout, hpiece]
    -- Behind a piece with a character stands that character, whatever stood before.
    cases hend : (piece.write last').getLast? with
    | none => rw [Option.none_or, Option.none_or, ih h]
    | some c => rw [Option.some_or, Option.some_or]

/-- What `layout` gives behind the end of a line is what it gives at the beginning of a text. -/
theorem layout_line (last : Option Char) (pieces more : List Piece) :
    layout last (pieces ++ lineBreak :: more) = layout last pieces ++ '\n' :: layout none more := by
  rw [layout_append, layout_congr (show separator none = separator (some '\n') by decide) more]
  rfl

/-- What `append` writes at the beginning is a text of its own, `layout none`. -/
theorem toList_append_empty (pieces : List Piece) :
    (append "" pieces).toList = layout none pieces := by
  simp [append]

/-- The prototypes of statements have the `layout` of each standing alone, as each of them ends with
its line. -/
theorem layout_prototypes (list : List Stmt) :
    layout none (list.flatMap Stmt.prototype) = (prototypeText list).toList := by
  induction list with
  | nil => rfl
  | cons statement list ih =>
    rw [List.flatMap_cons, prototypeText, String.toList_append, appendPrototype,
      toList_append_empty]
    cases statement with
    | constant | call => exact ih
    | function name result params body =>
      -- A prototype ends with its line, and the others begin on the next one.
      have hline : (Stmt.function name result params body).prototype =
          Stmt.signature name result (params.map Param.typePieces) ++ [Piece.word ";"]
            ++ lineBreak :: [] := by
        rw [Stmt.prototype]
        simp
      rw [hline, List.append_assoc, List.cons_append, List.nil_append, layout_line, layout_line,
        ih, List.append_assoc]
      rfl

/-- The definitions of statements have the `layout` of each standing alone. -/
theorem layout_definitionLines (list : List Stmt) :
    layout none (Stmt.definitionLines list) = (definitionText list).toList := by
  induction list with
  | nil => rfl
  | cons statement list ih =>
    rw [Stmt.definitionLines, layout_line, ih, definitionText, String.toList_append,
      String.toList_append, appendDefinition, toList_append_empty, List.append_assoc]
    rfl

/-- The C text of a module is what `ofParts` makes of its name, the `prototypeText` and the
`definitionText` of its statements. -/
theorem ofModule_eq_ofParts (program : Module) :
    ofModule program = ofParts program.name (prototypeText program.statements)
      (definitionText program.statements) := by
  have hbody : body program =
      (prototypeText program.statements ++ "\n" ++ definitionText program.statements).toList := by
    rw [body, bodyPieces, layout_congr (show separator (some '\n') = separator none by decide),
      layout_line, Module.prototypes, layout_prototypes, Module.definitions,
      layout_definitionLines, String.toList_append, String.toList_append, List.append_assoc]
    rfl
  rw [ofModule_eq, hbody, String.ofList_toList, ofParts]
  simp only [String.append_assoc]

end Modlet.CText
