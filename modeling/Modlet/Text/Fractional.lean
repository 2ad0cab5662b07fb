import Modlet.Text.Integer

/-!
# Numbers with a fraction

Commands calculate with numbers that have 53 or 64 binary digits and an exponent. A number is read
to the nearest one, and written by rounding the exact value to the digits that are wanted; halves go
to the even digit.
-/

namespace Modlet

/-- A number with a fraction. -/
inductive Fractional
  /-- A whole number times a power of two, with a sign. -/
  | finite (negative : Bool) (whole : Nat) (exponent : Int)
  | infinite (negative : Bool)
  /-- No number. -/
  | none (negative : Bool)
deriving DecidableEq, Repr

namespace Fractional

/-- Nought. -/
def zero : Fractional := .finite false 0 0

/-- How precise numbers are, and how far they go. -/
structure Width where
  /-- The number of binary digits. -/
  precision : Nat
  /-- The least exponent. -/
  leastExponent : Int
  /-- The greatest exponent. -/
  greatestExponent : Int
deriving DecidableEq, Repr

/-- The usual numbers. -/
def Width.double : Width := { precision := 53, leastExponent := -1074, greatestExponent := 971 }

/-- Numbers with a few digits more. -/
def Width.extended : Width :=
  { precision := 64, leastExponent := -16445, greatestExponent := 16320 }

/-- A fraction rounded to a whole number. -/
def roundHalfEven (above below : Nat) : Nat :=
  let whole := above / below
  let twice := 2 * (above % below)
  if twice > below || (twice = below && whole % 2 = 1) then whole + 1 else whole

/-- A fraction times a power of two, rounded to a whole number. -/
def scaledRound (above below : Nat) (power : Int) : Nat :=
  match power with
  | .ofNat n => roundHalfEven (above * Nat.pow 2 n) below
  | .negSucc n => roundHalfEven above (below * Nat.pow 2 (n + 1))

/-- The number that is nearest to a fraction. -/
def ofRatio (width : Width) (negative : Bool) (above below : Nat) : Fractional :=
  let precision := width.precision
  if above = 0 then .finite negative 0 0
  else
    -- The quotient of the whole has as many digits as are wanted, or one less, with this exponent.
    let guess : Int := (Nat.log2 above : Int) - (Nat.log2 below : Int) - (precision - 1 : Nat)
    let tooGreat := scaledRound above below (-guess) ≥ Nat.pow 2 precision
    let tooSmall := scaledRound above below (-guess) < Nat.pow 2 (precision - 1)
    let exponent := max width.leastExponent
      (if tooGreat then guess + 1 else if tooSmall then guess - 1 else guess)
    let whole := scaledRound above below (-exponent)
    let (whole, exponent) :=
      if whole = Nat.pow 2 precision then (Nat.pow 2 (precision - 1), exponent + 1)
      else (whole, exponent)
    if exponent > width.greatestExponent then .infinite negative
    else .finite negative whole exponent

/-- The number that an integer is. -/
def ofInt (n : Int) : Fractional := .finite (n < 0) n.natAbs 0

/-- Whether it has a minus sign. -/
def isNegative : Fractional → Bool
  | .finite negative .. | .infinite negative | .none negative => negative

/-- The fraction that a number is. -/
def ratio (whole : Nat) (exponent : Int) : Nat × Nat :=
  match exponent with
  | .ofNat n => (whole * Nat.pow 2 n, 1)
  | .negSucc n => (whole, Nat.pow 2 (n + 1))

/-! ### Reading -/

/-- The greatest power of ten that makes a difference. -/
def greatestPower : Nat := 5000

/-- The fraction that digits are with a power of their base, of which some stand behind the
point. -/
def ratioOfDigits (base : Nat) (digits : List Char) (scale : Nat) (power : Int) : Nat × Nat :=
  let n := Integer.digitsValue base digits
  let limit : Int := greatestPower + digits.length
  let power := max (-limit) (min limit power)
  if base = 16 then
    match power - 4 * scale with
    | .ofNat k => (n * Nat.pow 2 k, 1)
    | .negSucc k => (n, Nat.pow 2 (k + 1))
  else
    match power - scale with
    | .ofNat k => (n * Nat.pow 10 k, 1)
    | .negSucc k => (n, Nat.pow 10 (k + 1))

/-- What is read at the front of a text. -/
structure Reading where
  /-- The number. -/
  value : Fractional
  /-- What stands behind it. -/
  rest : List Char
  /-- Whether what is written is too great for any number, or so small that digits of it are
  lost. -/
  strays : Bool := false

/-- The reading of a fraction. -/
def Reading.ofRatio (width : Width) (negative : Bool) (ratio : Nat × Nat) (rest : List Char) :
    Reading :=
  let (above, below) := ratio
  let value := Fractional.ofRatio width negative above below
  let strays : Bool := match value with
    | .finite _ whole exponent =>
      let (a, b) := Fractional.ratio whole exponent
      whole < Nat.pow 2 (width.precision - 1) && exponent = width.leastExponent
        && a * below ≠ above * b
    | _ => true
  { value, rest, strays }

/-- The exponent at the front of a text, behind its letter, and what stands behind it. -/
def readExponent (letters : List Char) (text : List Char) : Int × List Char :=
  match text with
  | c :: rest =>
    if letters.contains c then
      let (negative, digits) := match rest with
        | '-' :: digits => (true, digits)
        | '+' :: digits => (false, digits)
        | digits => (false, digits)
      let front := digits.takeWhile Char.isDigit
      if front.isEmpty then (0, text)
      else
        let n : Int := min 100000 (Integer.digitsValue 10 (front.take 100))
        (if negative then -n else n, digits.drop front.length)
    else (0, text)
  | [] => (0, [])

/-- Whether a text begins with a word in lower case, in any case. -/
def beginsWith (word : String) (text : List Char) : Bool :=
  word.toList.isPrefixOf (text.map Char.toLower)

/-- Reads the number at the front of a text without a sign. -/
def readUnsigned? (width : Width) (negative : Bool) (text : List Char) : Option Reading :=
  let digits (base : Nat) (letters : List Char) (text : List Char) : Option Reading :=
    let isDigit (c : Char) : Bool := Integer.digitValue c < base
    let whole := text.takeWhile isDigit
    let rest := text.drop whole.length
    let (part, rest) := match rest with
      | '.' :: behind => (behind.takeWhile isDigit, behind.dropWhile isDigit)
      | rest => ([], rest)
    if whole.isEmpty && part.isEmpty then Option.none
    else
      let (power, rest) := readExponent letters rest
      let ratio := ratioOfDigits base (whole ++ part) part.length power
      some (.ofRatio width negative ratio rest)
  if beginsWith "infinity" text then
    some { value := .infinite negative, rest := text.drop 8 }
  else if beginsWith "inf" text then some { value := .infinite negative, rest := text.drop 3 }
  else if beginsWith "nan" text then some { value := .none negative, rest := text.drop 3 }
  else
    match text with
    | '0' :: x :: rest =>
      if x = 'x' || x = 'X' then
        match digits 16 ['p', 'P'] rest with
        | some found => some found
        | Option.none => some { value := .finite negative 0 0, rest := x :: rest }
      else digits 10 ['e', 'E'] text
    | text => digits 10 ['e', 'E'] text

/-- Reads the number at the front of a text; nothing if there is none. -/
def read? (width : Width) (text : List Char) : Option Reading :=
  match text.dropWhile Integer.isBlank with
  | '-' :: rest => readUnsigned? width true rest
  | '+' :: rest => readUnsigned? width false rest
  | rest => readUnsigned? width false rest

/-! ### Writing -/

/-- A text filled up at its front. -/
def padFront (width : Nat) (c : Char) (text : List Char) : List Char :=
  List.replicate (width - text.length) c ++ text

/-- A whole number with a point before its last digits. -/
def withPoint (places : Nat) (always : Bool) (n : Nat) : List Char :=
  let digits := padFront (places + 1) '0' (Nat.toDigits 10 n)
  let cut := digits.length - places
  digits.take cut ++ (if places > 0 || always then ['.'] else []) ++ digits.drop cut

/-- A fraction with some digits behind the point. -/
def fixed (places : Nat) (point : Bool) (above below : Nat) : List Char :=
  withPoint places point (roundHalfEven (above * Nat.pow 10 places) below)

/-- The exponent of ten of a fraction above nought. -/
def tenExponent (above below : Nat) : Int :=
  let guess : Int := (Nat.toDigits 10 above).length - (Nat.toDigits 10 below).length
  let isBelow : Bool := match guess with
    | .ofNat n => decide (above < below * Nat.pow 10 n)
    | .negSucc n => decide (above * Nat.pow 10 (n + 1) < below)
  if isBelow then guess - 1 else guess

/-- The digits of a fraction, one more than `places`, and the exponent of the first. -/
def digitsOf (places : Nat) (above below : Nat) : Nat × Int :=
  if above = 0 then (0, 0)
  else
    let exponent := tenExponent above below
    let n := match (places : Int) - exponent with
      | .ofNat k => roundHalfEven (above * Nat.pow 10 k) below
      | .negSucc k => roundHalfEven above (below * Nat.pow 10 (k + 1))
    if n ≥ Nat.pow 10 (places + 1) then (n / 10, exponent + 1) else (n, exponent)

/-- An exponent with its letter. -/
def exponentText (letter : Char) (width : Nat) (exponent : Int) : List Char :=
  letter :: (if exponent < 0 then '-' else '+')
    :: padFront width '0' (Nat.toDigits 10 exponent.natAbs)

/-- A fraction with one digit before the point, and an exponent. -/
def scientific (places : Nat) (point : Bool) (above below : Nat) : List Char :=
  let (n, exponent) := digitsOf places above below
  withPoint places point n ++ exponentText 'e' 2 exponent

/-- A text without noughts at the end of its fraction. -/
def trimNoughts (text : List Char) : List Char :=
  if text.contains '.' then
    let bare := (text.reverse.dropWhile (· = '0')).reverse
    if bare.getLast? = some '.' then bare.dropLast else bare
  else text

/-- A fraction with some digits, in the shorter of the two ways. -/
def general (digits : Nat) (point : Bool) (above below : Nat) : List Char :=
  let digits := max 1 digits
  let (n, exponent) := digitsOf (digits - 1) above below
  let trim (text : List Char) : List Char := if point then text else trimNoughts text
  if exponent < -4 || exponent ≥ digits then
    trim (withPoint (digits - 1) point n) ++ exponentText 'e' 2 exponent
  else trim (fixed ((digits : Int) - 1 - exponent).toNat point above below)

/-- A number in binary digits, written in base sixteen. As many binary digits stand before the point
as whole digits of base sixteen leave over behind it. -/
def hexadecimal (width : Width) (places? : Option Nat) (point : Bool) (whole : Nat)
    (exponent : Int) : List Char :=
  let behind := (width.precision - 1) / 4
  let last := width.precision - 1
  let shift := if whole = 0 then 0 else last - Nat.log2 whole
  let (whole, exponent) :=
    if whole = 0 then (0, (0 : Int))
    else if exponent - shift < width.leastExponent then
      (whole * Nat.pow 2 (exponent - width.leastExponent).toNat, width.leastExponent + 4 * behind)
    else (whole * Nat.pow 2 shift, exponent - shift + 4 * behind)
  let (first, part, places) := match places? with
    | some places =>
      if places < behind then
        let n := roundHalfEven whole (Nat.pow 2 (4 * (behind - places)))
        (n / Nat.pow 16 places, n % Nat.pow 16 places, places)
      else
        (whole / Nat.pow 16 behind, whole % Nat.pow 16 behind * Nat.pow 16 (places - behind),
          places)
    | Option.none => (whole / Nat.pow 16 behind, whole % Nat.pow 16 behind, behind)
  let (first, exponent) := if first = 16 then (1, exponent + 4) else (first, exponent)
  let digits := if places = 0 then [] else padFront places '0' (Nat.toDigits 16 part)
  let digits := if places?.isNone then (digits.reverse.dropWhile (· = '0')).reverse else digits
  "0x".toList ++ Nat.toDigits 16 first ++ (if digits.isEmpty && !point then [] else ['.'])
    ++ digits ++ exponentText 'p' 1 exponent

/-- A number without its sign, as the letter says. -/
def text (width : Width) (letter : Char) (places? : Option Nat) (point : Bool) :
    Fractional → List Char
  | .infinite _ => "inf".toList
  | .none _ => "nan".toList
  | .finite _ whole exponent =>
    let (above, below) := ratio whole exponent
    match letter with
    | 'e' => scientific (places?.getD 6) point above below
    | 'g' => general (places?.getD 6) point above below
    | 'a' => hexadecimal width places? point whole exponent
    | _ => fixed (places?.getD 6) point above below

/-! ### Comparing -/

/-- The value as a fraction with a sign; nothing for what has none. -/
def signedRatio? : Fractional → Option (Int × Nat)
  | .finite negative whole exponent =>
    let (above, below) := ratio whole exponent
    some (if negative then -(above : Int) else above, below)
  | _ => Option.none

/-- Whether the first is less than the second. -/
def less (a b : Fractional) : Bool :=
  match a, b with
  | .none _, _ | _, .none _ => false
  | .infinite s, .infinite t => s && !t
  | .infinite s, _ => s
  | _, .infinite t => !t
  | a, b =>
    match a.signedRatio?, b.signedRatio? with
    | some (p, q), some (r, s) => decide (p * s < r * q)
    | _, _ => false

end Fractional

end Modlet
