import Modlet.Program.Tree
import Modlet.Text.Numeral
import Modlet.Token.Basic

/-!
# The grammar of programs

A program is spelled by tokens, of which only kinds and texts count. The relations here say which
lists of tokens spell which tree, without saying how a tree is found. They stand beside
`Module.parse`, which finds it.

* `Grammar.Items`: a list in parentheses, with commas between its items and maybe one behind them.
* `Grammar.Statement`, `Grammar.Statements`: statements, one inside the other to any depth.
* `Grammar.Program`: a whole module.
-/

namespace Modlet.Grammar

open Token

/-- An identifier with the given name. -/
def name (text : String) : Content := (.identifier, text)

/-- A value is an integer that `Numeral.read?` takes, a string, or a name. -/
inductive Value : List Content → Expr → Prop
  | integer {text : String} {n : Nat} :
      Numeral.read? text.toList = some n → Value [(.integer, text)] (.integer n)
  | string (text : String) : Value [(.string, text)] (.string text)
  | variable (text : String) : Value [name text] (.variable text)

/-- A parameter is a name and a type with a colon between them. -/
inductive Parameter : List Content → Param → Prop
  | mk (text type : String) : Parameter [name text, Kind.colon.fixed, name type] ⟨text, type⟩

/-- Items in the sense of `Item` with commas between them. One more comma may stand behind the last
item, but there is none where there are no items. -/
inductive Items {α : Type} (Item : List Content → α → Prop) : List Content → List α → Prop
  | none : Items Item [] []
  | last {ts : List Content} {a : α} : Item ts a → Items Item ts [a]
  | more {ts us : List Content} {a : α} {as : List α} :
      Item ts a → Items Item us as → Items Item (ts ++ Kind.comma.fixed :: us) (a :: as)

mutual

/-- A statement. Constants and calls end with a semicolon, functions do not. -/
inductive Statement : List Content → Stmt → Prop
  | constant {ts : List Content} {value : Expr} (text type : String) :
      Value ts value →
      Statement
        ([(Kind.keyword .let).fixed, name text, Kind.colon.fixed, name type, Kind.assign.fixed]
          ++ ts ++ [Kind.semicolon.fixed])
        (.constant text type value)
  | call {ts : List Content} {args : List Expr} (callee : String) :
      Items Value ts args →
      Statement
        ([name callee, Kind.leftParen.fixed] ++ ts
          ++ [Kind.rightParen.fixed, Kind.semicolon.fixed])
        (.call callee args)
  | function {ts us : List Content} {params : List Param} {body : List Stmt}
      (text result : String) :
      Items Parameter ts params → Statements us body →
      Statement
        ([(Kind.keyword .fn).fixed, name text, Kind.leftParen.fixed] ++ ts
          ++ [Kind.rightParen.fixed, Kind.colon.fixed, name result, Kind.leftBrace.fixed]
          ++ us ++ [Kind.rightBrace.fixed])
        (.function text result params body)

/-- Statements in order. -/
inductive Statements : List Content → List Stmt → Prop
  | nil : Statements [] []
  | cons {ts us : List Content} {statement : Stmt} {others : List Stmt} :
      Statement ts statement → Statements us others → Statements (ts ++ us) (statement :: others)

end

/-- A module is its name and its statements, up to the end of the tokens. -/
inductive Program : List Content → Module → Prop
  | mk {ts : List Content} {statements : List Stmt} (text : String) :
      Statements ts statements →
      Program ([(Kind.keyword .module).fixed, name text, Kind.semicolon.fixed] ++ ts)
        ⟨text, statements⟩

end Modlet.Grammar
