import Modlet.Token.Lexeme

/-!
# Texts that spell tokens

The tokens of a program can be written with gaps between them as one likes, as long as tokens that
would run together are kept apart. The relations here say which texts spell which tokens.

* `IsGap`: spaces, tabs, ends of lines and comments that end with their line.
* `Token.IsWritten`: tokens that have a spelling.
* `Token.Spells`: texts that spell tokens in order, with gaps where they are wanted.
* `Token.KeptApart`: tokens with gaps behind them that keep them apart.
-/

namespace Modlet

/-- A gap that can be followed by anything: every comment in it has ended. -/
inductive IsGap : List Char → Prop
  | nil : IsGap []
  | spacing {c : Char} {gap : List Char} : isSpacing c = true → IsGap gap → IsGap (c :: gap)
  | comment {body gap : List Char} :
      '\n' ∉ body → IsGap gap → IsGap ('/' :: '/' :: body ++ '\n' :: gap)

namespace Token

/-- The characters that spell a token: a string stands between quotation marks, and all else is its
text. -/
def spelled : Content → List Char
  | (.string, text) => '"' :: text.toList ++ ['"']
  | (_, text) => text.toList

/-- A token that has a spelling: the text fits its kind, so that `spelled` gives a lexeme that means
it. -/
def IsWritten (t : Content) : Prop :=
  match t.1 with
  | .endOfFile | .invalid => False
  | .identifier => ∃ c rest, t.2.toList = c :: rest ∧ isWordStart c = true
      ∧ rest.all isWordPart = true ∧ Keyword.ofWord? t.2 = none
  | .integer => (Numeral.read? t.2.toList).isSome = true
  | .string => '"' ∉ t.2.toList
  | kind => t.2 = kind.spelling

/-- Whether a token is an identifier or a keyword. -/
def Kind.isWordLike : Kind → Bool
  | .identifier | .keyword _ => true
  | _ => false

/-- Whether two tokens with nothing between them run together. Words and integers do where the
second could go on the first, and so does `>` before `=`. -/
def Fuses (left right : Kind) : Prop :=
  (left.isWordLike = true ∧ (right.isWordLike = true ∨ right = .integer))
    ∨ (left = .integer ∧ right = .integer) ∨ (left = .greater ∧ right = .assign)

/-- Whether a `gap` keeps two tokens apart. Tokens that `Fuses` relates need one, and behind a
single slash neither a slash nor a comment may follow at once. -/
def Apart (left : Content) (gap : List Char) (right : Content) : Prop :=
  (Fuses left.1 right.1 → gap ≠ []) ∧
    (left.1 = .divide → (gap ≠ [] ∨ right.1 = .divide) → ∃ c ∈ gap.head?, isSpacing c = true)

/-- Texts that spell tokens in order and begin with the first of them. Between two tokens stands a
gap that keeps them apart in the sense of `Sep`, and behind the last one any gap. -/
inductive SpellsFrom (Sep : Content → List Char → Content → Prop) :
    List Content → List Char → Prop
  | one {gap : List Char} (t : Content) : IsGap gap → SpellsFrom Sep [t] (spelled t ++ gap)
  | cons {gap text : List Char} {t u : Content} {ts : List Content} :
      IsGap gap → Sep t gap u → SpellsFrom Sep (u :: ts) text →
      SpellsFrom Sep (t :: u :: ts) (spelled t ++ gap ++ text)

/-- Texts that spell tokens in order as `SpellsFrom` does, with one more gap at their beginning. -/
inductive Spells (Sep : Content → List Char → Content → Prop) : List Content → List Char → Prop
  | none {gap : List Char} : IsGap gap → Spells Sep [] gap
  | some {gap text : List Char} {ts : List Content} :
      IsGap gap → SpellsFrom Sep ts text → Spells Sep ts (gap ++ text)

/-- A token that can be written (`IsWritten`), with a gap behind it. -/
structure Spaced where
  /-- The token. -/
  content : Content
  /-- The gap. -/
  gap : List Char
  /-- The token can be written. -/
  isWritten : IsWritten content
  /-- The gap can be followed by anything. -/
  isGap : IsGap gap

/-- The characters that spell a token and the gap behind it. -/
def Spaced.text (item : Spaced) : List Char := spelled item.content ++ item.gap

/-- The first of some tokens. Where there is none the file ends, so it is `Kind.endOfFile` with no
text. -/
def Spaced.first (items : List Spaced) : Content :=
  (items.head?.map Spaced.content).getD (.endOfFile, "")

/-- Whether each gap keeps the token before it `Apart` from the one behind it. The last gap stands
before the end of the file, with which nothing runs together. -/
def KeptApart : List Spaced → Prop
  | [] => True
  | item :: items => Apart item.content item.gap (Spaced.first items) ∧ KeptApart items

end Token

end Modlet
