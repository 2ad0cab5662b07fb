import Modlet.Token.Basic

/-!
# What is wrong with a program

Reading a program stops at the first token that cannot go on with what stands before it. The
fault names that token and what would have been accepted in its place. Together with the name of
the file it makes the error that is reported.
-/

namespace Modlet

/-- What would have been accepted at a token. -/
inductive Expectation
  | token (kind : Token.Kind)
  | statement
  | expression
  | type
deriving DecidableEq, Repr

/-- The name of an expectation in a message. -/
def Expectation.name : Expectation → String
  | .token kind => kind.name
  | .statement => "a statement"
  | .expression => "an expression"
  | .type => "a type"

/-- Why reading a program stopped. Each fault keeps the token it is about. -/
inductive Fault
  /-- The token found is not what is wanted there. -/
  | unexpected (wanted : Expectation) (found : Token)
  /-- An integer literal has a value that is out of range. -/
  | integerOutOfRange (literal : Token)
deriving DecidableEq, Repr

namespace Fault

/-- The token at which reading stopped, which is where the error is reported. -/
def token : Fault → Token
  | .unexpected _ found => found
  | .integerOutOfRange literal => literal

/-- The wording of a fault. The token found is named by `Token.describe`. -/
def message : Fault → String
  | .unexpected wanted found => "expected " ++ wanted.name ++ ", found " ++ found.describe
  | .integerOutOfRange literal => "integer literal " ++ literal.text ++ " out of range"

theorem message_unexpected (wanted : Expectation) (found : Token) :
    message (.unexpected wanted found) =
      "expected " ++ wanted.name ++ ", found " ++ found.describe := rfl

theorem message_integerOutOfRange (literal : Token) :
    message (.integerOutOfRange literal) =
      "integer literal " ++ literal.text ++ " out of range" := rfl

end Fault

/-- An error in a source file, with the place where it is reported. -/
structure SourceError where
  /-- What is wrong. -/
  message : String
  /-- The name of the file. -/
  file : String
  /-- The place in the file. -/
  pos : Position
deriving DecidableEq, Repr

namespace SourceError

/-- A fault in the given file is reported at the place of its `Fault.token`, with its
`Fault.message`. -/
def ofFault (file : String) (fault : Fault) : SourceError :=
  ⟨fault.message, file, fault.token.pos⟩

/-- An error is shown behind its file, line and column. -/
def toText (e : SourceError) : String := e.file ++ ":" ++ e.pos.toText ++ " " ++ e.message

instance : ToString SourceError := ⟨toText⟩

end SourceError

end Modlet
