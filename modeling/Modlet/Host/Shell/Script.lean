import Modlet.Text.Octets

/-!
# Scripts of the shell

A script is commands, which are made of other commands or of words. A word is characters, quoted or
not, and what is filled in when the command is run: values of parameters, outputs of commands and
results of calculations.
-/

namespace Modlet.Shell

/-- What is done with the value of a parameter. With `orNull` an empty value counts as none. -/
inductive Use
  /-- The value. -/
  | value
  /-- The number of its bytes. -/
  | length
  /-- The value, or else the word. -/
  | orElse (orNull : Bool)
  /-- The value, or else the word, which becomes the value. -/
  | orAssign (orNull : Bool)
  /-- The value, or else the word is an error. -/
  | orFail (orNull : Bool)
  /-- The word if there is a value. -/
  | instead (orNull : Bool)
  /-- The value without what matches the word at its front. -/
  | trimFront (longest : Bool)
  /-- The value without what matches the word at its end. -/
  | trimBack (longest : Bool)
  /-- Nothing that is known. -/
  | invalid
deriving DecidableEq, Repr

/-- How the file of a redirection is used. -/
inductive Manner
  | read
  | write
  | append
  /-- Writes even over a file that is protected. -/
  | overwrite
  | readWrite
deriving DecidableEq, Repr

mutual

/-- A part of a word. -/
inductive Piece
  | char (c : Char) (quoted : Bool)
  /-- Quotes with nothing between them. -/
  | empty
  | parameter (name : Octets) (use : Use) (word : List Piece) (quoted : Bool)
  | command (body : Option Node) (quoted : Bool)
  | arithmetic (word : List Piece) (quoted : Bool)
  /-- Nothing behind it counts. -/
  | stop

/-- Where a stream of a command goes. -/
inductive Redirect
  | file (stream : Nat) (manner : Manner) (name : List Piece)
  /-- To where the stream with the number that the word is goes. -/
  | copy (stream : Nat) (source : List Piece)
  /-- To a text in the script, by its number. -/
  | document (stream : Nat) (number : Nat)

/-- A command. -/
inductive Node
  /-- Settings and words; the first word names the command. -/
  | simple (line : Nat) (settings : List (Octets × List Piece)) (words : List (List Piece))
    (redirects : List Redirect)
  /-- Commands of which each reads what the one before it writes. -/
  | pipeline (commands : List Node)
  /-- The second only if the first succeeds. -/
  | both (first second : Node)
  /-- The second only if the first fails. -/
  | either (first second : Node)
  | sequence (first second : Node)
  | negation (body : Node)
  | background (body : Node)
  /-- A command in a shell of its own. -/
  | subshell (line : Nat) (body : Node) (redirects : List Redirect)
  | redirected (line : Nat) (body : Node) (redirects : List Redirect)
  | choice (test yes : Node) (no : Option Node)
  /-- The body as long as the test succeeds, or with `fails` as long as it fails. -/
  | loop (fails : Bool) (test body : Node)
  | forEach (line : Nat) (name : Octets) (words : List (List Piece)) (body : Node)
  | select (line : Nat) (subject : List Piece) (cases : List (List (List Piece) × Option Node))
  | define (name : Octets) (body : Node)

end

/-- A word before anything is filled in. -/
abbrev Word := List Piece

instance : Inhabited Node := ⟨.simple 0 [] [] []⟩

/-- Whether a name can begin with the character. -/
def isNameStart (c : Char) : Bool := c.isAlpha || c = '_'

/-- Whether a name can go on with the character. -/
def isNamePart (c : Char) : Bool := c.isAlphanum || c = '_'

/-- Whether a text is the name of a variable. -/
def isName (text : Octets) : Bool :=
  match text.toList with
  | [] => false
  | c :: rest => isNameStart c && rest.all isNamePart

/-- Whether the character is a parameter of its own. -/
def isSpecialParameter (c : Char) : Bool := ['!', '@', '*', '#', '?', '$', '-'].contains c

/-- The words that commands are put together with. -/
def reservedWords : List Octets :=
  ["!", "\x7b", "\x7d", "case", "do", "done", "elif", "else", "esac", "fi", "for", "if", "in",
    "then", "until", "while"]

/-- A text of characters that stand for themselves; nothing for any other word. -/
def plainText? (word : Word) : Option Octets :=
  (word.mapM fun piece =>
    match piece with
    | Piece.char c false => some c
    | _ => none).map String.ofList

/-- What counts of a word. -/
def beforeStop (word : Word) : Word :=
  word.takeWhile fun piece =>
    match piece with
    | .stop => false
    | _ => true

/-- The pieces for a calculation. What counts of its word is worked out, and the rest stands behind
the outcome and ends everything. -/
def calculation (word : Word) (quoted : Bool) : Word :=
  let front := beforeStop word
  .arithmetic front quoted :: word.drop (front.length + 1) ++
    if front.length < word.length then [.stop] else []

/-- The characters of a word, quoted or not. -/
def characters (word : Word) : List Char :=
  word.filterMap fun piece =>
    match piece with
    | .char c _ => some c
    | _ => none

/-- The name and the value of a word that sets a variable. -/
def splitSetting? (word : Word) : Option (Octets × Word) :=
  let front := word.takeWhile fun piece =>
    match piece with
    | .char c false => c ≠ '='
    | _ => false
  match word.drop front.length, plainText? front with
  | .char '=' false :: value, some name => if isName name then some (name, value) else none
  | _, _ => none

end Modlet.Shell
