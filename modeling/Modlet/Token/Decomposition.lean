import Modlet.Program.WellFormed
import Modlet.Token.Cursor
import Modlet.Token.Layout

/-!
# The longest pieces of a source

A source is cut into gaps and lexemes in turn, each as long as it can be where it begins. The
relations here say what a gap, a lexeme and a cut are, and what a lexeme means, without saying how a
source is read. They stand beside `Cursor.tokens`, which reads it.

* `Longest`: a piece that cannot be made longer with what stands behind it.
* `IsGapBefore`, `IsLexemeBefore`: gaps and lexemes, each before the text behind it.
* `Decomposes`: the cut of a whole source into parts and a last gap.
* `Means`: the kind and the text of the token that a lexeme stands for.
-/

namespace Modlet

/-- A `piece` that has the property `P` before `behind`, while no longer piece has it before what is
left of `behind`. -/
def Longest (P : List Char → List Char → Prop) (piece behind : List Char) : Prop :=
  P piece behind ∧
    ∀ more rest, behind = more ++ rest → more ≠ [] → ¬ P (piece ++ more) rest

/-- A gap before the given text: an `IsGap`, or at the end of a source one whose last comment has no
line feed. -/
inductive IsGapBefore : List Char → List Char → Prop
  | closed {gap : List Char} (behind : List Char) : IsGap gap → IsGapBefore gap behind
  | trailing {gap body : List Char} :
      IsGap gap → '\n' ∉ body → IsGapBefore (gap ++ '/' :: '/' :: body) []

/-- A character that belongs to no lexeme but that of its own. -/
def IsStray (c : Char) : Prop :=
  isWordStart c = false ∧ c.isDigit = false ∧ c ≠ '"' ∧ isSpacing c = false
    ∧ Token.Kind.ofMark? [c] = none

/-- A lexeme before the given text: a mark, a word, digits, a string, or one character that belongs
nowhere (`IsStray`). A string without its closing mark goes on to the end of the source. -/
inductive IsLexemeBefore : List Char → List Char → Prop
  | mark {kind : Token.Kind} (behind : List Char) :
      kind ∈ Token.Kind.marks → IsLexemeBefore kind.spelling.toList behind
  | word {text : List Char} (behind : List Char) :
      isWord text = true → IsLexemeBefore text behind
  | digits {text : List Char} (behind : List Char) :
      text ≠ [] → text.all Char.isDigit = true → IsLexemeBefore text behind
  | string {body : List Char} (behind : List Char) :
      '"' ∉ body → IsLexemeBefore ('"' :: body ++ ['"']) behind
  | unterminated {body : List Char} : '"' ∉ body → IsLexemeBefore ('"' :: body) []
  | stray {c : Char} (behind : List Char) : IsStray c → IsLexemeBefore [c] behind

/-- A lexeme with the gap before it. -/
structure Part where
  /-- The gap. -/
  gap : List Char
  /-- The lexeme behind the gap. -/
  lexeme : List Char
deriving DecidableEq, Repr

/-- The characters of a part: those of its gap, then those of its lexeme. -/
def Part.text (part : Part) : List Char := part.gap ++ part.lexeme

/-- The cut of a text into parts and a last gap, every gap and every lexeme the `Longest` that is
possible there. -/
inductive Decomposes : List Char → List Part → List Char → Prop
  | last {gap : List Char} : Longest IsGapBefore gap [] → Decomposes gap [] gap
  | part {part : Part} {behind gap : List Char} {parts : List Part} :
      Longest IsGapBefore part.gap (part.lexeme ++ behind) →
      Longest IsLexemeBefore part.lexeme behind →
      Decomposes behind parts gap →
      Decomposes (part.text ++ behind) (part :: parts) gap

/-- The places where the lexemes of parts begin, when the first part begins at `start`. -/
def lexemePlaces (start : Position) : List Part → List Position
  | [] => []
  | part :: parts => start.after part.gap :: lexemePlaces (start.after part.text) parts

/-- What a lexeme stands for. Words are keywords or identifiers, digits are integers as long as
`Numeral.read?` takes them, and what is between the marks of a string is its text. All else is
invalid, with the message of a `LexicalError` as its text. -/
inductive Means : List Char → Token.Content → Prop
  | mark {kind : Token.Kind} : kind ∈ Token.Kind.marks → Means kind.spelling.toList kind.fixed
  | keyword (word : Keyword) : Means word.spelling.toList (Token.Kind.keyword word).fixed
  | identifier {name : String} : IsIdentifier name → Means name.toList (.identifier, name)
  | integer {text : List Char} :
      text ≠ [] → text.all Char.isDigit = true → Numeral.value text ≤ Numeral.greatest →
      Means text (.integer, String.ofList text)
  | string {body : List Char} :
      '"' ∉ body → Means ('"' :: body ++ ['"']) (.string, String.ofList body)
  | outOfRange {text : List Char} :
      text.all Char.isDigit = true → Numeral.greatest < Numeral.value text →
      Means text (.invalid, (LexicalError.integerOutOfRange (String.ofList text)).message)
  | unterminated {body : List Char} :
      '"' ∉ body → Means ('"' :: body) (.invalid, LexicalError.unterminatedString.message)
  | unexpected {c : Char} :
      IsStray c → Means [c] (.invalid, (LexicalError.unexpectedCharacter c).message)

/-- A cut loses no character and reads none twice: the texts of the parts and the last `gap` make up
`text`. -/
theorem Decomposes.text_eq {text gap : List Char} {parts : List Part}
    (h : Decomposes text parts gap) : text = parts.flatMap Part.text ++ gap := by
  induction h with
  | last => rfl
  | part _ _ _ ih => simp [← ih]

end Modlet
