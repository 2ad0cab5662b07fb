import Modlet.Text.Fractional

/-!
# Names in messages

In the messages of programs, names stand between quotes, always or only where that is needed.
Characters that cannot be printed are written as escapes.
-/

namespace Modlet.Tool

/-- The letter for a control character behind a backslash. -/
def escapeLetter? (c : Char) : Option Char :=
  match c.toNat with
  | 7 => some 'a'
  | 8 => some 'b'
  | 9 => some 't'
  | 10 => some 'n'
  | 11 => some 'v'
  | 12 => some 'f'
  | 13 => some 'r'
  | _ => none

/-- Whether a character can be printed. -/
def isPrinted (c : Char) : Bool := 32 ≤ c.toNat && c.toNat < 127

/-- The escape for a character that cannot be printed. -/
def escapeOf (c : Char) : List Char :=
  match escapeLetter? c with
  | some letter => ['\\', letter]
  | none => '\\' :: Fractional.padFront 3 '0' (Nat.toDigits 8 c.toNat)

/-- A text between quotes, with escapes in it. -/
def quote (text : Octets) : Octets :=
  let body := text.toList.flatMap fun c =>
    if c = '\'' || c = '\\' then ['\\', c] else if isPrinted c then [c] else escapeOf c
  String.ofList (['\''] ++ body ++ ['\''])

/-- A text between double quotes, with escapes in it. -/
def quoteDouble (text : Octets) : Octets :=
  let body := text.toList.flatMap fun c =>
    if c = '"' || c = '\\' then ['\\', c] else if isPrinted c then [c] else escapeOf c
  String.ofList (['"'] ++ body ++ ['"'])

/-- Whether a character has a meaning for a shell, at the front of a word or behind it. -/
def isSpecial (front : Bool) (c : Char) : Bool :=
  !isPrinted c || " !\"$&()*;<=>[^\x60|'\\?".toList.contains c
    || (front && (c = '#' || c = '~'))

/-- Whether a character means the same between double quotes. -/
def isPlainInDouble (front : Bool) (c : Char) : Bool :=
  c.isAlphanum || " '%+,-./:@]_".toList.contains c || (front && (c = '#' || c = '~'))

/-- The characters of a text for a shell, between quotes. Those that cannot be printed are put in
quotes of their own kind; `escaping` tells whether such are open. -/
def quoteBody (escaping : Bool) : List Char → List Char
  | [] => []
  | c :: rest =>
    if isPrinted c then
      (if escaping then ['\'', '\''] else [])
        ++ (if c = '\'' then ['\'', '\\', '\'', '\''] else [c]) ++ quoteBody false rest
    else
      (if escaping then [] else ['\'', '$', '\'']) ++ escapeOf c ++ quoteBody true rest

/-- A name as a shell reads it, between quotes. -/
def quoteAlways (text : Octets) : Octets :=
  let chars := text.toList
  let isPlain := match chars with
    | [] => true
    | c :: rest => isPlainInDouble true c && rest.all (isPlainInDouble false)
  if chars.contains '\'' && isPlain then "\"" ++ text ++ "\""
  else String.ofList (['\''] ++ quoteBody false chars ++ ['\''])

/-- A name as a shell reads it, between quotes if that makes a difference. -/
def quoteIfNeeded (text : Octets) : Octets :=
  match text.toList with
  | [] => "''"
  | ['\x7b'] | ['\x7d'] => quoteAlways text
  | c :: rest =>
    if isSpecial true c || rest.any (isSpecial false) then quoteAlways text else text

end Modlet.Tool
