import Modlet.Program.Tree
import Modlet.Text.Numeral
import Modlet.Token.Lexeme

/-!
# Which trees can be written

Not every tree is the tree of a source: a name has to be an identifier, a number has to be in range,
and a string cannot hold a quotation mark. `Module.All` says that all names and values of a module,
at any depth, have given properties; `Module.WellFormed` is the case that sources produce.
-/

namespace Modlet

/-- Whether a text is a word: a letter or an underscore, and behind it also digits. -/
def isWord (text : List Char) : Bool :=
  match text with
  | [] => false
  | c :: rest => isWordStart c && rest.all isWordPart

/-- A name that a source can give: a word that `Keyword.ofWord?` does not read as a keyword. -/
def IsIdentifier (name : String) : Prop :=
  isWord name.toList = true ∧ Keyword.ofWord? name = none

instance (name : String) : Decidable (IsIdentifier name) := by
  unfold IsIdentifier
  infer_instance

variable (Name : String → Prop) (Number : Int → Prop) (Contents : String → Prop)

/-- The name, the number or the contents of a value have the properties `Name`, `Number` and
`Contents`. -/
def Expr.All : Expr → Prop
  | .integer n => Number n
  | .string text => Contents text
  | .variable name => Name name

mutual

/-- All names, numbers and contents of strings in a statement have the properties `Name`, `Number`
and `Contents`, also those in the body of a function. -/
def Stmt.All : Stmt → Prop
  | .constant name type value => Name name ∧ Name type ∧ value.All Name Number Contents
  | .function name result params body =>
    Name name ∧ Name result ∧ (∀ param ∈ params, Name param.name ∧ Name param.type)
      ∧ Stmt.AllList body
  | .call callee args => Name callee ∧ ∀ arg ∈ args, arg.All Name Number Contents

/-- All names, numbers and contents of strings in statements have the given properties
(`Stmt.All`). -/
def Stmt.AllList : List Stmt → Prop
  | [] => True
  | statement :: others => Stmt.All statement ∧ Stmt.AllList others

end

/-- All names, numbers and contents of strings in a module have the given properties
(`Stmt.AllList`), its own name included. -/
def Module.All (program : Module) : Prop :=
  Name program.name ∧ Stmt.AllList Name Number Contents program.statements

/-- A module as sources produce it: every name `IsIdentifier`, every integer is in range, and no
string has a quotation mark in it. -/
def Module.WellFormed (program : Module) : Prop :=
  program.All IsIdentifier (fun n => 0 ≤ n ∧ n ≤ Numeral.greatest) (fun text => '"' ∉ text.toList)

end Modlet
