import Modlet.Program.Tree
import Modlet.Text.Numeral
import Modlet.Token.Basic

/-!
# The tokens of a C text

What a reader of tokens finds in the C text of a program: names are identifiers, also those that C
reserves, numbers are written without leading zeros, and strings keep their contents. The
definitions here say this from the tree alone, without laying out any text.
-/

namespace Modlet.CText

open Token

/-- A name in C. -/
def nameToken (name : String) : Content := (.identifier, name)

/-- A value in C, as the one token that `Expr.piece` spells. -/
def valueToken : Expr → Content
  | .integer n => (.integer, Numeral.ofInt n)
  | .string text => (.string, text)
  | .variable name => nameToken name

/-- Tokens with commas between their groups. -/
def commaTokens (groups : List (List Content)) : List Content :=
  [Kind.comma.fixed].intercalate groups

/-- The type, the name and the parameters of a function, each parameter with its own tokens. -/
def signatureTokens (name result : String) (params : List (List Content)) : List Content :=
  [nameToken result, nameToken name, Kind.leftParen.fixed] ++ commaTokens params
    ++ [Kind.rightParen.fixed]

/-- The tokens of the prototype of a statement, if it has one. Of each parameter only the type is
left. -/
def prototypeTokens : Stmt → List Content
  | .function name result params _ =>
    signatureTokens name result (params.map fun param => [nameToken param.type])
      ++ [Kind.semicolon.fixed]
  | .constant .. | .call .. => []

mutual

/-- The tokens of the definition of a statement. -/
def definitionTokens : Stmt → List Content
  | .constant name type value =>
    [nameToken "const", nameToken type, nameToken name, Kind.assign.fixed, valueToken value,
      Kind.semicolon.fixed]
  | .function name result params body =>
    signatureTokens name result
        (params.map fun param => [nameToken param.type, nameToken param.name])
      ++ Kind.leftBrace.fixed :: definitionTokensList body ++ [Kind.rightBrace.fixed]
  | .call callee args =>
    [nameToken callee, Kind.leftParen.fixed] ++ commaTokens (args.map fun arg => [valueToken arg])
      ++ [Kind.rightParen.fixed, Kind.semicolon.fixed]

/-- The tokens of the definitions of statements in order. -/
def definitionTokensList : List Stmt → List Content
  | [] => []
  | statement :: others => definitionTokens statement ++ definitionTokensList others

end

/-- The tokens of the C text of a module behind its banner: all `prototypeTokens`, then all
`definitionTokens`. -/
def moduleTokens (program : Module) : List Content :=
  program.statements.flatMap prototypeTokens ++ definitionTokensList program.statements

end Modlet.CText
