import Modlet.Text.Unprintable
import Modlet.Text.Combining

/-!
# Quoted characters and texts

A text is shown in a message between quotation marks. The mark itself, the backslash and the
usual controls are written with a backslash; a character that would not be seen by itself is
written by its code point; every other character stands for itself.
-/

namespace Modlet.Text

/-- The hexadecimal numeral of a code point, in lower case and without leading zeros. -/
def codePoint (c : Char) : List Char := Nat.toDigits 16 c.toNat

/-- A character as it is written between marks `mark`. -/
def quoteChar (mark c : Char) : List Char :=
  if c = '\x00' then ['\\', '0']
  else if c = '\t' then ['\\', 't']
  else if c = '\r' then ['\\', 'r']
  else if c = '\n' then ['\\', 'n']
  else if c = '\\' then ['\\', '\\']
  else if c = mark then ['\\', mark]
  else if isCombining c || isFiller c || isUnprintable c then
    ['\\', 'u', '\x7b'] ++ codePoint c ++ ['\x7d']
  else [c]

/-- A text between marks `mark`. -/
def quote (mark : Char) (text : List Char) : List Char :=
  mark :: text.flatMap (quoteChar mark) ++ [mark]

/-- A single character between apostrophes. -/
def quotedChar (c : Char) : String := String.ofList (quote '\'' [c])

/-- A text between double quotation marks. -/
def quotedText (s : String) : String := String.ofList (quote '"' s.toList)

/-- A character of an argument of a command as it is written between double quotation marks. The
apostrophe has a backslash here too, and a control without a letter of its own is written by its
byte. -/
def quoteArgumentChar (c : Char) : List Char :=
  if c = '\'' then ['\\', '\'']
  else if (c.toNat < 0x20 && c ∉ ['\t', '\r', '\n']) || c = '\x7f' then
    ['\\', 'x'] ++ (if c.toNat < 0x10 then ['0'] else []) ++ codePoint c
  else quoteChar '"' c

/-- An argument of a command between double quotation marks. -/
def quotedArgument (s : String) : String :=
  String.ofList ('"' :: s.toList.flatMap quoteArgumentChar ++ ['"'])

end Modlet.Text
