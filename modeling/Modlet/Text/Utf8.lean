/-!
# Bytes as text

A byte sequence in UTF-8 is read one character at a time. Where it is malformed, the longest
beginning of a character that stands there counts as one broken piece: a strict reader refuses
the whole, a lenient one puts the replacement character in its place.
-/

namespace Modlet.Text.Utf8

/-- What a leading byte announces. -/
structure Lead where
  /-- The bits of the character that the leading byte carries. -/
  bits : Nat
  /-- The number of bytes that follow. -/
  following : Nat
  /-- The least byte that may come next. -/
  low : Nat := 0x80
  /-- The greatest byte that may come next. -/
  high : Nat := 0xBF

/-- What the byte `b` announces as the first of a character; nothing if it cannot be one. -/
def lead? (b : Nat) : Option Lead :=
  if b < 0x80 then some { bits := b, following := 0 }
  -- What begins so either follows another byte or would fit into fewer bytes.
  else if b < 0xC2 then none
  else if b < 0xE0 then some { bits := b - 0xC0, following := 1 }
  else if b = 0xE0 then some { bits := 0, following := 2, low := 0xA0 }
  -- Surrogates are no characters.
  else if b = 0xED then some { bits := 0xD, following := 2, high := 0x9F }
  else if b < 0xF0 then some { bits := b - 0xE0, following := 2 }
  else if b = 0xF0 then some { bits := 0, following := 3, low := 0x90 }
  else if b < 0xF4 then some { bits := b - 0xF0, following := 3 }
  else if b = 0xF4 then some { bits := 4, following := 3, high := 0x8F }
  else none

/-- Reads `count` further bytes of a character whose bits so far are `bits`, the first of them
between `low` and `high`. A byte that does not fit is left for the next character. -/
def continueWith (low high bits : Nat) : Nat → List UInt8 → Option Nat × List UInt8
  | 0, bytes => (some bits, bytes)
  | _ + 1, [] => (none, [])
  | count + 1, b :: bytes =>
    if low ≤ b.toNat ∧ b.toNat ≤ high then
      continueWith 0x80 0xBF (bits * 64 + (b.toNat - 0x80)) count bytes
    else (none, b :: bytes)

/-- The first character of the bytes `b :: bytes`, or nothing for a broken piece, and the bytes
behind it. -/
def readOne (b : UInt8) (bytes : List UInt8) : Option Char × List UInt8 :=
  match lead? b.toNat with
  | none => (none, bytes)
  | some lead =>
    match continueWith lead.low lead.high lead.bits lead.following bytes with
    | (code, rest) => (code.map Char.ofNat, rest)

/-- What `continueWith` leaves behind a character is never more than what stood there. -/
theorem continueWith_length (low high bits count : Nat) (bytes : List UInt8) :
    (continueWith low high bits count bytes).2.length ≤ bytes.length := by
  induction count generalizing low high bits bytes with
  | zero => simp [continueWith]
  | succ count ih =>
    cases bytes with
    | nil => simp [continueWith]
    | cons b bytes =>
      simp only [continueWith]
      split
      · exact Nat.le_succ_of_le (ih _ _ _ _)
      · exact Nat.le_refl _

/-- Reading one character with `readOne` leaves no more than the bytes behind its first. -/
theorem readOne_length (b : UInt8) (bytes : List UInt8) :
    (readOne b bytes).2.length ≤ bytes.length := by
  unfold readOne
  split
  · exact Nat.le_refl _
  · exact continueWith_length _ _ _ _ _

/-- The characters of a byte sequence, with nothing for each broken piece. -/
def characters : List UInt8 → List (Option Char)
  | [] => []
  | b :: bytes => (readOne b bytes).1 :: characters (readOne b bytes).2
termination_by bytes => bytes.length
decreasing_by exact Nat.lt_succ_of_le (readOne_length b bytes)

/-- The character that stands for a broken piece. -/
def replacement : Char := '\uFFFD'

/-- The text of a byte sequence, with `replacement` for each broken piece. -/
def decodeLossy (bytes : ByteArray) : String :=
  String.ofList ((characters bytes.toList).map (·.getD replacement))

/-- The text of a byte sequence; nothing if any of its `characters` is broken. -/
def decode? (bytes : ByteArray) : Option String := String.fromUTF8? bytes

/-- The bytes of a text. -/
def encode (text : String) : ByteArray := text.toUTF8

end Modlet.Text.Utf8
