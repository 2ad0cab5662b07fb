/-!
# Decimal numerals

A numeral is a run of decimal digits, with any number of leading zeros. It is in range if
its value is representable as a signed word of 64 bits.
-/

namespace Modlet.Numeral

/-- The greatest value that a numeral may have, that of a signed word of 64 bits. -/
def greatest : Nat := 0x7FFFFFFFFFFFFFFF

/-- The value of a run of decimal digits. -/
def value (digits : List Char) : Nat := Nat.ofDigitChars 10 digits 0

/-- The `value` of a numeral; nothing for a text that is no run of digits or is out of range. -/
def read? (text : List Char) : Option Nat :=
  if text ≠ [] ∧ text.all Char.isDigit ∧ value text ≤ greatest then some (value text) else none

/-- The numeral of an integer: no leading zeros, and a minus sign before a negative one. -/
def ofInt (n : Int) : String := n.repr

/-- A run of digits is read by `read?` exactly if its `value` is in range. -/
theorem read?_of_digits {text : List Char} (ne : text ≠ []) (digits : text.all Char.isDigit) :
    read? text = if value text ≤ greatest then some (value text) else none := by
  simp [read?, ne, digits]

/-- Writing a natural number with `Nat.toDigits` and reading it back gives the number. -/
theorem value_toDigits (n : Nat) : value (Nat.toDigits 10 n) = n :=
  Nat.ofDigitChars_toDigits (by decide) (by decide)

end Modlet.Numeral
