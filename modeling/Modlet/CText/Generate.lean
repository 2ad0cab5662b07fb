import Modlet.CText.Piece
import Modlet.Program.Tree

/-!
# The C text of a program

A module becomes a file of C: a fixed preamble, a line with the name of the module, a prototype
for every function at its top, an empty line, and every statement in order. Functions can so be
used before they are defined. Names, types and the contents of strings are written as they are.
-/

namespace Modlet

namespace CText

/-- What every file of C begins with. -/
def preamble : String := "#include <stdio.h>\ntypedef char* string;\n"

/-- Lists of pieces with commas between them. -/
def commas (lists : List (List Piece)) : List Piece := [.word ","].intercalate lists

end CText

open CText

/-- A value in C. -/
def Expr.piece : Expr → Piece
  | .integer value => .word value.repr
  | .string contents => .word ("\"" ++ contents ++ "\"")
  | .variable name => .word name

/-- A parameter in a definition, its type and its name. -/
def Param.pieces (param : Param) : List Piece := [.word param.type, .word param.name]

/-- A parameter in a prototype, which only tells its type. -/
def Param.typePieces (param : Param) : List Piece := [.word param.type]

namespace Stmt

/-- The type, the name and the parameters of a function, each with its own pieces. -/
def signature (name result : String) (params : List (List Piece)) : List Piece :=
  [Piece.word result, Piece.word name, Piece.word "("] ++ commas params ++ [Piece.word ")"]

/-- The prototype of a function, on a line of its own; other statements have none. -/
def prototype : Stmt → List Piece
  | .function name result params _ =>
    signature name result (params.map Param.typePieces) ++ [Piece.word ";", lineBreak]
  | .constant .. | .call .. => []

mutual

/-- The definition that a statement becomes, whose `definitionLines` go down on the body of a
function. -/
def definition : Stmt → List Piece
  | .constant name type value =>
    [.word "const", .word type, .word name, .word "=", value.piece, .word ";"]
  | .function name result params body =>
    signature name result (params.map Param.pieces) ++ [Piece.word "\x7b", lineBreak]
      ++ definitionLines body ++ [Piece.word "\x7d"]
  | .call callee args =>
    [Piece.word callee, Piece.word "("] ++ commas (args.map fun arg => [arg.piece])
      ++ [Piece.word ")", Piece.word ";"]

/-- The definitions of statements in order, each with a `lineBreak` behind it. -/
def definitionLines : List Stmt → List Piece
  | [] => []
  | statement :: others => definition statement ++ lineBreak :: definitionLines others

end

end Stmt

namespace Module

/-- The preamble and the line with the name of a module. -/
def banner (program : Module) : List Piece :=
  [.raw preamble, .word ("/* module: " ++ program.name ++ " */"), lineBreak]

/-- The prototypes of the functions at the top of a module, each with its line. -/
def prototypes (program : Module) : List Piece := program.statements.flatMap Stmt.prototype

/-- The definitions that the statements of a module become. -/
def definitions (program : Module) : List Piece := Stmt.definitionLines program.statements

/-- The pieces of the C text of a module: its `banner`, its `prototypes`, an empty line and its
`definitions`. -/
def pieces (program : Module) : List Piece :=
  program.banner ++ program.prototypes ++ [lineBreak] ++ program.definitions

end Module

namespace CText

/-- Writes the prototype of a statement behind a text, which other statements than functions leave
as it is. -/
def appendPrototype (text : String) (statement : Stmt) : String :=
  append text statement.prototype

/-- Writes the definition of a statement behind a text. -/
def appendDefinition (text : String) (statement : Stmt) : String :=
  append text statement.definition

/-- Writes a module behind a text. -/
def appendModule (text : String) (program : Module) : String := append text program.pieces

/-- The C text of a module, which is what `appendModule` writes behind no text. -/
def ofModule (program : Module) : String := appendModule "" program

end CText

end Modlet
