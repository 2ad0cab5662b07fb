import Modlet.Text.Utf8

/-!
# Texts of bytes

Commands, their arguments and what they read and write are bytes, which need not be UTF-8. A text of
bytes has one character for each byte, the one with its number, so that what is ASCII reads as it
is.
-/

namespace Modlet

/-- A text whose characters stand for bytes. -/
abbrev Octets := String

namespace Octets

/-- The text of the given bytes. -/
def ofBytes (bytes : ByteArray) : Octets :=
  String.ofList (bytes.toList.map fun b => Char.ofNat b.toNat)

/-- The bytes of a text. -/
def toBytes (text : Octets) : ByteArray :=
  ⟨(text.toList.map fun c => c.toNat.toUInt8).toArray⟩

/-- A text in UTF-8. -/
def ofText (text : String) : Octets := ofBytes text.toUTF8

/-- The text that bytes are in UTF-8, with the replacement character for what is none. -/
def toText (text : Octets) : String := Text.Utf8.decodeLossy (toBytes text)

/-- A text that ends its last line. -/
def line (text : Octets) : Octets := text ++ "\n"

/-- The records of a text, each with the character that ends it; the last need not have one. -/
def recordsOf (ender : Char) : List Char → List (List Char)
  | [] => []
  | c :: rest =>
    if c = ender then [ender] :: recordsOf ender rest
    else
      match recordsOf ender rest with
      | [] => [[c]]
      | first :: others => (c :: first) :: others

/-- The lines of a text, each with the line feed that ends it; the last need not have one. -/
def linesOf : List Char → List (List Char) := recordsOf '\n'

end Octets

end Modlet
