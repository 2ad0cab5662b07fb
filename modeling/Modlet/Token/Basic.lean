import Modlet.Source.Position

/-!
# Tokens

A token is a kind, a text and the place of its first character. The text of most tokens is
what was written; that of a string is its contents, and that of an invalid token is the
message that tells what is wrong. The end of the source is a token with an empty text.
-/

namespace Modlet

/-- The words that are not identifiers. -/
inductive Keyword
  | fn
  | let
  | module
  | return
  | if
deriving DecidableEq, Repr, Inhabited

namespace Keyword

/-- The spelling of a keyword. -/
def spelling : Keyword → String
  | .fn => "fn"
  | .let => "let"
  | .module => "module"
  | .return => "return"
  | .if => "if"

/-- Every keyword. -/
def all : List Keyword := [.fn, .let, .module, .return, .if]

/-- The keyword whose `spelling` is `word`, if there is one. -/
def ofWord? (word : String) : Option Keyword := all.find? (·.spelling = word)

/-- A keyword is read back from its `spelling`. -/
@[simp]
theorem ofWord?_spelling (k : Keyword) : ofWord? k.spelling = some k := by
  cases k <;> decide

/-- A word that `ofWord?` reads as a keyword is the `spelling` of that keyword. -/
theorem spelling_of_ofWord? {word : String} {k : Keyword} (h : ofWord? word = some k) :
    k.spelling = word := by
  simpa using List.find?_some h

end Keyword

namespace Token

/-- What a token is. -/
inductive Kind
  | endOfFile
  | invalid
  | keyword (word : Keyword)
  | identifier
  | integer
  | string
  | leftParen
  | rightParen
  | leftSquare
  | rightSquare
  | leftBrace
  | rightBrace
  | colon
  | comma
  | semicolon
  | assign
  | greater
  | greaterEqual
  | divide
deriving DecidableEq, Repr, Inhabited

namespace Kind

/-- The spelling of a keyword or a mark; tokens of the other kinds have none of their own. -/
def spelling : Kind → String
  | .keyword word => word.spelling
  | .leftParen => "("
  | .rightParen => ")"
  | .leftSquare => "["
  | .rightSquare => "]"
  | .leftBrace => "\x7b"
  | .rightBrace => "\x7d"
  | .colon => ":"
  | .comma => ","
  | .semicolon => ";"
  | .assign => "="
  | .greater => ">"
  | .greaterEqual => ">="
  | .divide => "/"
  | .endOfFile | .invalid | .identifier | .integer | .string => ""

/-- The name of a kind of token in a message. -/
def name : Kind → String
  | .endOfFile => "end of file"
  | .invalid => "invalid token"
  | .keyword word => "keyword `" ++ word.spelling ++ "`"
  | .identifier => "identifier"
  | .integer => "integer"
  | .string => "string"
  | mark => "`" ++ mark.spelling ++ "`"

/-- Every kind of mark. The other kinds have a `spelling` that is empty or that of a keyword. -/
def marks : List Kind :=
  [.leftParen, .rightParen, .leftSquare, .rightSquare, .leftBrace, .rightBrace, .colon, .comma,
    .semicolon, .assign, .greater, .greaterEqual, .divide]

/-- The kind of the mark whose `spelling` is `text`, if there is one. -/
def ofMark? (text : List Char) : Option Kind := marks.find? (·.spelling.toList = text)

/-- A mark is read back from its `spelling`. -/
theorem ofMark?_spelling {k : Kind} (h : k ∈ marks) : ofMark? k.spelling.toList = some k := by
  revert k
  decide

/-- A text that `ofMark?` reads as a mark is the `spelling` of that mark. -/
theorem spelling_of_ofMark? {text : List Char} {k : Kind} (h : ofMark? text = some k) :
    k ∈ marks ∧ k.spelling.toList = text :=
  ⟨List.mem_of_find?_eq_some h, by simpa using List.find?_some h⟩

end Kind

end Token

/-- A token of a source text. -/
structure Token where
  /-- What the token is. -/
  kind : Token.Kind
  /-- The text of the token: the contents of a string, the message of an invalid token, and
  what was written for every other. -/
  text : String
  /-- The place of its first character. -/
  pos : Position := .start
deriving DecidableEq, Repr, Inhabited

namespace Token

/-- The end of a source at the given place. -/
def endAt (pos : Position) : Token := ⟨.endOfFile, "", pos⟩

/-- What was found, as a message says it. Tokens whose text varies are shown with it, all others by
the `Kind.name` of their kind. -/
def describe (t : Token) : String :=
  match t.kind with
  | .identifier => "identifier `" ++ t.text ++ "`"
  | .integer => "integer `" ++ t.text ++ "`"
  | .string => "string \"" ++ t.text ++ "\""
  | .invalid => "invalid token (" ++ t.text ++ ")"
  | kind => kind.name

/-- A token without its place: its kind and its text. -/
abbrev Content := Kind × String

/-- The kind and the text of a token, without its place. -/
def content (t : Token) : Content := (t.kind, t.text)

/-- A keyword or a mark, whose text is its `spelling`. -/
def Kind.fixed (k : Kind) : Content := (k, k.spelling)

end Token

end Modlet
