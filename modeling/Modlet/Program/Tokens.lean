import Modlet.Program.Grammar

/-!
# The tokens of a program

One way of writing a program, from its tree alone: integers without leading zeros, and no comma
behind the last item of a list. `Grammar` says which other tokens spell the same program.
-/

namespace Modlet

open Token

/-- The tokens of a value. -/
def Expr.tokens : Expr → List Content
  | .integer n => [(.integer, Numeral.ofInt n)]
  | .string text => [(.string, text)]
  | .variable name => [Grammar.name name]

/-- The tokens of a parameter. -/
def Param.tokens (param : Param) : List Content :=
  [Grammar.name param.name, Kind.colon.fixed, Grammar.name param.type]

mutual

/-- The tokens of a statement. -/
def Stmt.tokens : Stmt → List Content
  | .constant name type value =>
    [(Kind.keyword .let).fixed, Grammar.name name, Kind.colon.fixed, Grammar.name type,
      Kind.assign.fixed] ++ value.tokens ++ [Kind.semicolon.fixed]
  | .function name result params body =>
    [(Kind.keyword .fn).fixed, Grammar.name name, Kind.leftParen.fixed]
      ++ [Kind.comma.fixed].intercalate (params.map Param.tokens)
      ++ [Kind.rightParen.fixed, Kind.colon.fixed, Grammar.name result, Kind.leftBrace.fixed]
      ++ Stmt.tokensList body ++ [Kind.rightBrace.fixed]
  | .call callee args =>
    [Grammar.name callee, Kind.leftParen.fixed]
      ++ [Kind.comma.fixed].intercalate (args.map Expr.tokens)
      ++ [Kind.rightParen.fixed, Kind.semicolon.fixed]

/-- The tokens of statements in order. -/
def Stmt.tokensList : List Stmt → List Content
  | [] => []
  | statement :: others => Stmt.tokens statement ++ Stmt.tokensList others

end

/-- The tokens of a module, as `Grammar.Program` derives them, with no comma behind a last item. -/
def Module.tokens (program : Module) : List Content :=
  [(Kind.keyword .module).fixed, Grammar.name program.name, Kind.semicolon.fixed]
    ++ Stmt.tokensList program.statements

end Modlet
