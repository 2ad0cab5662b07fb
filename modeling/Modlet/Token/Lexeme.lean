import Modlet.Text.Quoted
import Modlet.Text.Numeral
import Modlet.Token.Basic

/-!
# Gaps and lexemes

A source is gaps and lexemes in turn. A gap is any run of spaces, tabs, carriage returns, line
feeds and comments, where a comment begins with two slashes and ends with its line. A lexeme is
the longest piece at the front of a text that belongs together; what it means depends only on
its own characters.
-/

namespace Modlet

/-- Whether a character only separates tokens. -/
def isSpacing (c : Char) : Bool := c = ' ' || c = '\t' || c = '\r' || c = '\n'

/-- Whether a word can begin with the character. -/
def isWordStart (c : Char) : Bool := c.isAlpha || c = '_'

/-- Whether a word can go on with the character. -/
def isWordPart (c : Char) : Bool := c.isAlphanum || c = '_'

/-- Splits a text behind the longest gap at its front. With `comment` the front is inside a
comment, which the next line feed ends. -/
def splitGap (comment : Bool) : List Char → List Char × List Char
  | [] => ([], [])
  | c :: rest =>
    if comment then
      let (gap, more) := splitGap (c ≠ '\n') rest
      (c :: gap, more)
    else if isSpacing c then
      let (gap, more) := splitGap false rest
      (c :: gap, more)
    -- The second slash is met inside the comment.
    else if c = '/' ∧ rest.head? = some '/' then
      let (gap, more) := splitGap true rest
      (c :: gap, more)
    else ([], c :: rest)

/-- What can be wrong with a lexeme. -/
inductive LexicalError
  | unexpectedCharacter (c : Char)
  | integerOutOfRange (digits : String)
  | unterminatedString
deriving DecidableEq, Repr

/-- The wording of a lexical error, which is the text of the invalid token that `toToken` makes of
it. -/
def LexicalError.message : LexicalError → String
  | .unexpectedCharacter c => "unexpected character " ++ Text.quotedChar c
  | .integerOutOfRange digits => "integer literal " ++ digits ++ " out of range"
  | .unterminatedString => "unterminated string literal"

namespace Lexeme

/-- Splits a text that goes on behind an opening quotation mark behind its closing mark, or at
its end if there is none. -/
def splitString (rest : List Char) : List Char × List Char :=
  let body := rest.takeWhile (· ≠ '"')
  match rest.dropWhile (· ≠ '"') with
  | [] => (body, [])
  | quote :: more => (body ++ [quote], more)

/-- Splits the text `c :: rest` behind the longest lexeme at its front, of which `c` is the first
character and the first part of the result the others. -/
def split (c : Char) (rest : List Char) : List Char × List Char :=
  if c = '"' then splitString rest
  else if c.isDigit then (rest.takeWhile Char.isDigit, rest.dropWhile Char.isDigit)
  else if isWordStart c then (rest.takeWhile isWordPart, rest.dropWhile isWordPart)
  -- No other mark has a second character.
  else if c = '>' ∧ rest.head? = some '=' then (['='], rest.tail)
  else ([], rest)

/-- The kind and the text of a word, which is a keyword if `Keyword.ofWord?` says so. -/
def ofWord (word : String) : Token.Kind × String :=
  match Keyword.ofWord? word with
  | some keyword => (.keyword keyword, word)
  | none => (.identifier, word)

/-- What the lexeme `c :: more` means: a kind and a text, or the `LexicalError` that is in it. -/
def read (c : Char) (more : List Char) : Except LexicalError (Token.Kind × String) :=
  let written := String.ofList (c :: more)
  if c = '"' then
    if more.getLast? = some '"' then .ok (.string, String.ofList more.dropLast)
    else .error .unterminatedString
  else if c.isDigit then
    match Numeral.read? (c :: more) with
    | some _ => .ok (.integer, written)
    | none => .error (.integerOutOfRange written)
  else if isWordStart c then .ok (ofWord written)
  else
    match Token.Kind.ofMark? (c :: more) with
    | some kind => .ok (kind, written)
    | none => .error (.unexpectedCharacter c)

/-- The token of the lexeme `c :: more` at the given place. A lexeme that `read` refuses becomes an
invalid token with the message for its text. -/
def toToken (c : Char) (more : List Char) (pos : Position) : Token :=
  match read c more with
  | .ok (kind, text) => ⟨kind, text, pos⟩
  | .error fault => ⟨.invalid, fault.message, pos⟩

end Lexeme

/-- The two results of `splitGap` make up the text. -/
theorem splitGap_append (comment : Bool) (text : List Char) :
    (splitGap comment text).1 ++ (splitGap comment text).2 = text := by
  induction text generalizing comment with
  | nil => rfl
  | cons c rest ih =>
    unfold splitGap
    split
    · simp [ih]
    · split
      · simp [ih]
      · split
        · simp [ih]
        · rfl

/-- What `splitGap` leaves is no longer than the text. -/
theorem splitGap_length (comment : Bool) (text : List Char) :
    (splitGap comment text).2.length ≤ text.length := by
  have := congrArg List.length (splitGap_append comment text)
  simp only [List.length_append] at this
  omega

namespace Lexeme

/-- The two results of `splitString` make up the text. -/
theorem splitString_append (rest : List Char) :
    (splitString rest).1 ++ (splitString rest).2 = rest := by
  unfold splitString
  have whole := List.takeWhile_append_dropWhile (p := (· ≠ '"')) (l := rest)
  split
  · next h => rw [h] at whole; exact whole
  · next quote more h => rw [h] at whole; simpa using whole

/-- The two results of `split` make up the text behind `c`. -/
theorem split_append (c : Char) (rest : List Char) :
    (split c rest).1 ++ (split c rest).2 = rest := by
  unfold split
  repeat' split
  · exact splitString_append rest
  · exact List.takeWhile_append_dropWhile
  · exact List.takeWhile_append_dropWhile
  · next h => cases rest with
    | nil => simp at h
    | cons d more => simp_all
  · rfl

/-- What `split` leaves is no longer than what stands behind `c`. -/
theorem split_length (c : Char) (rest : List Char) :
    (split c rest).2.length ≤ rest.length := by
  have := congrArg List.length (split_append c rest)
  simp only [List.length_append] at this
  omega

/-- No text reads as the end of the file, which has an empty spelling but is no mark. -/
theorem ofMark?_ne_endOfFile (text : List Char) :
    Token.Kind.ofMark? text ≠ some .endOfFile := by
  intro h
  exact absurd (Token.Kind.spelling_of_ofMark? h).1 (by decide)

/-- The token that `toToken` makes of a lexeme never is the end of the file. -/
theorem toToken_kind_ne (c : Char) (more : List Char) (pos : Position) :
    (toToken c more pos).kind ≠ .endOfFile := by
  unfold toToken read ofWord
  have := ofMark?_ne_endOfFile (c :: more)
  grind

/-- The token that `toToken` makes of a lexeme stands where it is put. -/
@[simp]
theorem toToken_pos (c : Char) (more : List Char) (pos : Position) :
    (toToken c more pos).pos = pos := by
  unfold toToken
  split <;> rfl

end Lexeme

end Modlet
