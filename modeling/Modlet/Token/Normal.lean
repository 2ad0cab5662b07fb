import Modlet.Text.Numeral
import Modlet.Token.Basic

/-!
# Tokens without what makes no difference

Two spellings of one program differ in three ways: in their gaps, which are no tokens, in commas
behind the last item of a list, and in leading zeros. Tokens in normal form have neither such commas
nor such zeros.
-/

namespace Modlet.Token

/-- An integer without leading zeros, as `Numeral.value` reads it; any other token as it is. -/
def canonical : Content → Content
  | (.integer, text) => (.integer, (Numeral.value text.toList).repr)
  | other => other

/-- Whether a closing parenthesis comes first. -/
def startsWithClosing (ts : List Content) : Bool := (ts.head?.map Prod.fst) = some .rightParen

/-- The normal form of tokens: no comma directly before a closing parenthesis, and every integer
`canonical`. -/
def normalForm : List Content → List Content
  | [] => []
  | t :: ts =>
    if t.1 = .comma ∧ startsWithClosing ts then normalForm ts else canonical t :: normalForm ts

end Modlet.Token
