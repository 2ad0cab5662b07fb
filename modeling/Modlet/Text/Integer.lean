import Modlet.Text.Octets

/-!
# Integers at the front of a text

Commands read an integer off the front of a text: blanks, a sign, and digits. The base is ten, or it
is told by what the digits begin with. What does not fit into 64 bits becomes the nearest number
that does.
-/

namespace Modlet.Integer

/-- The least number of 64 bits with a sign. -/
def least : Int := -0x8000000000000000

/-- The greatest number of 64 bits with a sign. -/
def greatest : Int := 0x7FFFFFFFFFFFFFFF

/-- The number of 64 bits with a sign that a number is with only its last 64 bits. -/
def wrap (n : Int) : Int := Int.bmod n 0x10000000000000000

/-- The value of a digit, in any base up to 36. -/
def digitValue (c : Char) : Nat :=
  if c.isDigit then c.toNat - 48
  else if 'a' ≤ c && c ≤ 'z' then c.toNat - 87
  else if 'A' ≤ c && c ≤ 'Z' then c.toNat - 55
  else 99

/-- The value of digits in a base. -/
def digitsValue (base : Nat) (digits : List Char) : Nat :=
  digits.foldl (fun n c => n * base + digitValue c) 0

/-- Whether a character is a blank before a number. -/
def isBlank (c : Char) : Bool := c = ' ' || (9 ≤ c.toNat && c.toNat ≤ 13)

/-- The digits at the front of a text, without what tells their base, with the base, and what stands
behind them. -/
def splitDigits (base : Nat) (text : List Char) : Nat × List Char × List Char :=
  let split (base : Nat) (text : List Char) :=
    let digits := text.takeWhile fun c => digitValue c < base
    (base, digits, text.drop digits.length)
  match base, text with
  | 0, '0' :: x :: d :: rest =>
    if (x = 'x' || x = 'X') && digitValue d < 16 then split 16 (d :: rest)
    else split 8 ('0' :: x :: d :: rest)
  | 0, '0' :: rest => split 8 ('0' :: rest)
  | 0, text => split 10 text
  | base, text => split base text

/-- The integer at the front of a text and what stands behind it; nothing if there is none. A base
of zero is told by the digits. -/
def read? (base : Nat) (text : List Char) : Option (Int × List Char) :=
  let bare := text.dropWhile isBlank
  let (negative, bare) := match bare with
    | '-' :: rest => (true, rest)
    | '+' :: rest => (false, rest)
    | rest => (false, rest)
  match splitDigits base bare with
  | (_, [], _) => none
  | (base, digits, rest) =>
    let n : Int := digitsValue base digits
    some (if negative then -n else n, rest)

/-- The number of 64 bits with a sign that is nearest to a number. -/
def clamp (n : Int) : Int := max least (min greatest n)

/-- The integer that a whole text is, with blanks around it; nothing for any other text. -/
def readWhole? (base : Nat) (text : Octets) : Option Int :=
  match read? base text.toList with
  | some (n, rest) => if rest.all isBlank && clamp n = n then some n else none
  | none => none

/-- The numeral of a number in a base, in lower case. -/
def numeral (base n : Nat) : List Char := Nat.toDigits base n

end Modlet.Integer
