import Modlet.Text.Fractional

/-!
# Directives of formats

A directive says how a value is written: in what width, with how many digits, and filled up on which
side.
-/

namespace Modlet

/-- How a value is written. -/
structure Directive where
  /-- Blanks are behind the value. -/
  leftmost : Bool := false
  /-- There is a sign even if it is a plus. -/
  plus : Bool := false
  /-- There is a blank in the place of a plus. -/
  blank : Bool := false
  /-- What the base is, or that there is a fraction, can be seen. -/
  alternate : Bool := false
  /-- Noughts fill up the width. -/
  noughts : Bool := false
  /-- The least number of characters. -/
  width : Nat := 0
  /-- The number of digits, or the greatest number of characters. -/
  places? : Option Nat := none
deriving DecidableEq, Repr

namespace Directive

/-- The directive with a flag. -/
def withFlag (d : Directive) : Char → Directive
  | '-' => { d with leftmost := true }
  | '+' => { d with plus := true }
  | ' ' => { d with blank := true }
  | '#' => { d with alternate := true }
  | '0' => { d with noughts := true }
  | _ => d

/-- The directive with a width, which is on the left if it is negative. -/
def withWidth (d : Directive) (n : Int) : Directive :=
  if n < 0 then { d with leftmost := true, width := n.natAbs } else { d with width := n.natAbs }

/-- The directive with a number of places, which says nothing if it is negative. -/
def withPlaces (d : Directive) (n : Int) : Directive :=
  { d with places? := if n < 0 then none else some n.natAbs }

/-- Fills a value up to the width. What stands at its front stays there. -/
def fill (d : Directive) (noughts : Bool) (front body : List Char) : List Char :=
  let missing := d.width - (front.length + body.length)
  if d.leftmost then front ++ body ++ List.replicate missing ' '
  else if noughts then front ++ List.replicate missing '0' ++ body
  else List.replicate missing ' ' ++ front ++ body

/-- A text. -/
def text (d : Directive) (value : List Char) : List Char :=
  d.fill false [] (match d.places? with
    | some n => value.take n
    | none => value)

/-- A character. -/
def character (d : Directive) (c : Char) : List Char := d.fill false [] [c]

/-- The sign of a number. -/
def sign (d : Directive) (negative : Bool) : List Char :=
  if negative then ['-'] else if d.plus then ['+'] else if d.blank then [' '] else []

/-- The digits of a whole number. -/
def digits (d : Directive) (base n : Nat) : List Char :=
  match d.places? with
  | some 0 => if n = 0 then [] else Nat.toDigits base n
  | some places => Fractional.padFront places '0' (Nat.toDigits base n)
  | none => Nat.toDigits base n

/-- A whole number with a sign. -/
def signed (d : Directive) (n : Int) : List Char :=
  d.fill (d.noughts && d.places?.isNone) (d.sign (n < 0)) (d.digits 10 n.natAbs)

/-- A whole number without a sign, by the letter of its base. -/
def unsigned (d : Directive) (letter : Char) (n : Nat) : List Char :=
  let fill := d.fill (d.noughts && d.places?.isNone)
  match letter with
  | 'o' =>
    let digits := d.digits 8 n
    fill [] (if d.alternate && digits.head? ≠ some '0' then '0' :: digits else digits)
  | 'x' => fill (if d.alternate && n ≠ 0 then ['0', 'x'] else []) (d.digits 16 n)
  | 'X' =>
    fill (if d.alternate && n ≠ 0 then ['0', 'X'] else []) ((d.digits 16 n).map Char.toUpper)
  | _ => fill [] (d.digits 10 n)

/-- A number with a fraction, by the letter of the way. -/
def fractional (d : Directive) (width : Fractional.Width) (letter : Char) (x : Fractional) :
    List Char :=
  let isFinite := match x with
    | .finite .. => true
    | _ => false
  let body := x.text width letter.toLower d.places? d.alternate
  let body := if letter.isUpper then body.map Char.toUpper else body
  let (front, body) :=
    if letter.toLower = 'a' && isFinite then (body.take 2, body.drop 2) else ([], body)
  d.fill (d.noughts && isFinite) (d.sign x.isNegative ++ front) body

end Directive

end Modlet
