import Modlet.Host.Tool.Lines

/-!
# Bytes in writing

Bytes are written as characters or as numbers, in lines with the place of the first byte in front.
They are also written with sixty-four signs only, and read back from these.
-/

namespace Modlet.Tool

open Job

/-- How some bytes are written. -/
structure DumpStyle where
  /-- The sort: named or escaped characters, or numbers by the letter of their base. -/
  sort : Char
  /-- The number of bytes of each. -/
  size : Nat
  /-- Characters follow at the end of the line. -/
  shows : Bool := false
deriving DecidableEq, Repr

namespace DumpStyle

/-- The width of a field. -/
def width (s : DumpStyle) : Nat :=
  match s.sort with
  | 'a' | 'c' => 3
  | 'o' => match s.size with
    | 1 => 3
    | 2 => 6
    | 4 => 11
    | _ => 22
  | 'x' => 2 * s.size
  | 'u' => match s.size with
    | 1 => 3
    | 2 => 5
    | 4 => 10
    | _ => 20
  | _ => match s.size with
    | 1 => 4
    | 2 => 6
    | 4 => 11
    | _ => 20

/-- The names of the characters that cannot be printed. -/
def characterNames : List String :=
  ["nul", "soh", "stx", "etx", "eot", "enq", "ack", "bel", "bs", "ht", "nl", "vt", "ff", "cr",
    "so", "si", "dle", "dc1", "dc2", "dc3", "dc4", "nak", "syn", "etb", "can", "em", "sub", "esc",
    "fs", "gs", "rs", "us", "sp"]

/-- The bytes of one field in writing. -/
def text (s : DumpStyle) (bytes : List Char) : List Char :=
  let first := (bytes.head?.getD '\x00').toNat
  let n := bytes.foldr (fun c n => n * 256 + c.toNat) 0
  match s.sort with
  | 'a' =>
    let n := first % 128
    if n = 127 then "del".toList
    else match characterNames[n]? with
      | some name => name.toList
      | none => [Char.ofNat n]
  | 'c' =>
    match escapeLetter? (Char.ofNat first) with
    | some letter => ['\\', letter]
    | none =>
      if first = 0 then ['\\', '0']
      else if isPrinted (Char.ofNat first) then [Char.ofNat first]
      else Fractional.padFront 3 '0' (Nat.toDigits 8 first)
  | 'o' => Fractional.padFront s.width '0' (Nat.toDigits 8 n)
  | 'x' => Fractional.padFront s.width '0' (Nat.toDigits 16 n)
  | 'u' => Nat.toDigits 10 n
  | _ =>
    let limit := Nat.pow 256 s.size
    let value : Int := if 2 * n ≥ limit then (n : Int) - limit else n
    value.repr.toList

end DumpStyle

/-- The styles that the value of an option describes. -/
def readStyles (value : Octets) : Nat → List Char → Job (List DumpStyle)
  | 0, _ => return []
  | bound + 1, text => do
    match text with
    | [] => return []
    | c :: rest =>
      let add (s : DumpStyle) (rest : List Char) : Job (List DumpStyle) := do
        match rest with
        | 'z' :: rest => return { s with shows := true } :: (← readStyles value bound rest)
        | rest => return s :: (← readStyles value bound rest)
      match c with
      | 'a' | 'c' => add ⟨c, 1, false⟩ rest
      | 'd' | 'o' | 'u' | 'x' =>
        match rest with
        | 'C' :: rest => add ⟨c, 1, false⟩ rest
        | 'S' :: rest => add ⟨c, 2, false⟩ rest
        | 'I' :: rest => add ⟨c, 4, false⟩ rest
        | 'L' :: rest => add ⟨c, 8, false⟩ rest
        | rest =>
          let digits := rest.takeWhile Char.isDigit
          let size := if digits.isEmpty then 4 else Integer.digitsValue 10 digits
          if [1, 2, 4, 8].contains size then add ⟨c, size, false⟩ (rest.drop digits.length)
          else
            fail 1 ("invalid type string " ++ quote value ++ ";\nthis system doesn't provide a "
              ++ size.repr ++ "-byte integral type")
      | c =>
        fail 1 ("invalid character '" ++ String.ofList [c] ++ "' in type string " ++ quote value)

/-- The bytes in groups of a size; the last one is filled up with noughts. -/
def groupsOf (size : Nat) : Nat → List Char → List (List Char)
  | 0, _ => []
  | bound + 1, bytes =>
    if bytes.isEmpty then []
    else
      let group := bytes.take size
      (group ++ List.replicate (size - group.length) '\x00')
        :: groupsOf size bound (bytes.drop size)

/-- The fields of a line in one style. With several styles, each has room for the widest. -/
def dumpFields (perLine room : Nat) (s : DumpStyle) (bytes : List Char) : List Char :=
  let fields := perLine / s.size
  let pad := room - s.width * fields
  let groups := groupsOf s.size (bytes.length + 1) bytes
  (groups.zipIdx.flatMap fun (group, n) =>
    let before := pad * (fields - n) / fields
    let behind := pad * (fields - n - 1) / fields
    Fractional.padFront (s.width + before - behind) ' ' (s.text group))

/-- The characters of bytes at the end of a line. -/
def dumpCharacters (perLine : Nat) (room : Nat) (s : DumpStyle) (bytes : List Char) : List Char :=
  let fields := perLine / s.size
  let missing := fields - (bytes.length + s.size - 1) / s.size
  let pad := room - s.width * fields
  List.replicate (missing * s.width + pad * missing / fields) ' ' ++ "  >".toList
    ++ bytes.map (fun c => if isPrinted c then c else '.') ++ ['<']

/-- Writes bytes as characters and numbers. -/
def od : Job Unit := do
  let a ← arguments
    ([⟨'A', "address-radix", .needed, false⟩, ⟨'j', "skip-bytes", .needed, false⟩,
      ⟨'N', "read-bytes", .needed, false⟩, ⟨'S', "strings", .possible, false⟩,
      ⟨'t', "format", .needed, false⟩, ⟨'v', "output-duplicates", .none, false⟩,
      ⟨'w', "width", .possible, false⟩]
      ++ "abcdhiloxs".toList.map fun c => ⟨c, "", .none, false⟩) 1
  let mut given : List DumpStyle := []
  for (letter, value) in a.options do
    let found ← match letter with
      | 't' => readStyles value (value.length + 1) value.toList
      | 'a' => pure [⟨'a', 1, false⟩]
      | 'b' => pure [⟨'o', 1, false⟩]
      | 'c' => pure [⟨'c', 1, false⟩]
      | 'd' => pure [⟨'u', 2, false⟩]
      | 'h' | 'x' => pure [⟨'x', 2, false⟩]
      | 'i' => pure [⟨'d', 4, false⟩]
      | 'l' => pure [⟨'d', 8, false⟩]
      | 'o' => pure [⟨'o', 2, false⟩]
      | 's' => pure [⟨'d', 2, false⟩]
      | _ => pure []
    given := given ++ found
  let styles := if given.isEmpty then [⟨'o', 2, false⟩] else given
  let amount (letter : Char) : Job (Option Nat) := do
    match a.last? letter with
    | none => return none
    | some value =>
      match Integer.read? 0 value.toList with
      | some (n, rest) =>
        match unit? rest with
        | some unit => return some (n.toNat * unit)
        | none => fail 1 ("invalid -" ++ String.ofList [letter] ++ " argument " ++ quote value)
      | none => fail 1 ("invalid -" ++ String.ofList [letter] ++ " argument " ++ quote value)
  let skipped := (← amount 'j').getD 0
  let limit? ← amount 'N'
  let radix ← match (a.last? 'A').map String.toList with
    | none | some ('o' :: _) => pure (some (8, 7))
    | some ('d' :: _) => pure (some (10, 7))
    | some ('x' :: _) => pure (some (16, 6))
    | some ('n' :: _) => pure none
    | some text =>
      fail 1 ("invalid output address radix '" ++ String.ofList (text.take 1)
        ++ "'; it must be one character from [doxn]")
  let unit := (styles.map DumpStyle.size).foldl Nat.lcm 1
  let perLine ← match a.last? 'w' with
    | none => pure 16
    | some "" => pure 32
    | some value =>
      match Integer.readWhole? 10 value with
      | some n => pure (if n.toNat % unit = 0 && n > 0 then n.toNat else unit)
      | none => fail 1 ("invalid -w argument " ++ quote value)
  let room := (styles.map fun s => (s.width + 1) * (perLine / s.size)).foldl max 0
  let mut all : List Char := []
  let mut anyOpened := false
  for name in if a.operands.isEmpty then ["-"] else a.operands do
    match ← readOperand name with
    | .ok text =>
      all := all ++ text.toList
      anyOpened := true
    | .error e =>
      if e = .isDirectory then
        warn (quoteIfNeeded name ++ ": read error: " ++ reason e)
        anyOpened := true
      else warn (quoteIfNeeded name ++ ": " ++ reason e)
  if !anyOpened then throw (.exited 1)
  if skipped > all.length then fail 1 "cannot skip past end of combined input"
  let bytes := all.drop skipped
  let bytes := match limit? with
    | some n => bytes.take n
    | none => bytes
  let address (n : Nat) : List Char := match radix with
    | some (base, width) => Fractional.padFront width '0' (Nat.toDigits base n)
    | none => []
  let gap : List Char := match radix with
    | some (_, width) => List.replicate width ' '
    | none => []
  let count := (bytes.length + perLine - 1) / perLine
  let mut before : List Char := []
  let mut starred := false
  for n in List.range count do
    let line := (bytes.drop (n * perLine)).take perLine
    if n > 0 && line = before && line.length = perLine && !a.has 'v' then
      if !starred then say "*\n"
      starred := true
    else
      starred := false
      for (s, k) in styles.zipIdx do
        sayChars ((if k = 0 then address (skipped + n * perLine) else gap)
          ++ dumpFields perLine room s line
          ++ (if s.shows then dumpCharacters perLine room s line else []) ++ ['\n'])
    before := line
  if radix.isSome then sayChars (address (skipped + bytes.length) ++ ['\n'])

/-! ### Sixty-four signs -/

/-- The signs, in order. -/
def signs : List Char :=
  "ABCDEFGHIJKLMNOPQRSTUVWXYZabcdefghijklmnopqrstuvwxyz0123456789+/".toList

/-- Bytes in signs. -/
def encodeSigns : List Char → List Char
  | [] => []
  | [x] =>
    let n := x.toNat * 16
    sign (n / 64) :: sign n :: ['=', '=']
  | [x, y] =>
    let n := (x.toNat * 256 + y.toNat) * 4
    sign (n / 4096) :: sign (n / 64) :: sign n :: ['=']
  | x :: y :: z :: rest =>
    let n := (x.toNat * 256 + y.toNat) * 256 + z.toNat
    sign (n / 262144) :: sign (n / 4096) :: sign (n / 64) :: sign n :: encodeSigns rest
where
  /-- The sign of a number. -/
  sign (n : Nat) : Char := signs[n % 64]?.getD 'A'

/-- The value of a sign. -/
def signValue? (c : Char) : Option Nat := signs.findIdx? (· = c)

/-- The bytes that groups of four signs stand for, and whether all is in order. -/
def readSigns : Nat → List Char → List Char × Bool
  | 0, _ => ([], true)
  | bound + 1, text =>
    let byte (n : Nat) : Char := Char.ofNat (n % 256)
    match text with
    | [] => ([], true)
    | a :: b :: c :: d :: rest =>
      match signValue? a, signValue? b, signValue? c, signValue? d with
      | some x, some y, some z, some w =>
        let (others, good) := readSigns bound rest
        (byte (x * 4 + y / 16) :: byte (y * 16 + z / 4) :: byte (z * 64 + w) :: others, good)
      | some x, some y, some z, none =>
        if d = '=' then
          let (others, good) := readSigns bound rest
          (byte (x * 4 + y / 16) :: byte (y * 16 + z / 4) :: others, good)
        else ([byte (x * 4 + y / 16), byte (y * 16 + z / 4)], false)
      | some x, some y, none, _ =>
        if c = '=' && d = '=' then
          let (others, good) := readSigns bound rest
          (byte (x * 4 + y / 16) :: others, good)
        else ([byte (x * 4 + y / 16)], false)
      | _, _, _, _ => ([], false)
    | [a, b, c] =>
      match signValue? a, signValue? b, signValue? c with
      | some x, some y, some z => ([byte (x * 4 + y / 16), byte (y * 16 + z / 4)], false)
      | some x, some y, none => ([byte (x * 4 + y / 16)], false)
      | _, _, _ => ([], false)
    | [a, b] =>
      match signValue? a, signValue? b with
      | some x, some y => ([byte (x * 4 + y / 16)], false)
      | _, _ => ([], false)
    | _ => ([], false)

/-- Writes bytes in sixty-four signs, or reads them back. -/
def base64 : Job Unit := do
  let a ← arguments
    [⟨'d', "decode", .none, false⟩, ⟨'i', "ignore-garbage", .none, false⟩,
      ⟨'w', "wrap", .needed, false⟩] 1
  let width ← match a.last? 'w' with
    | none => pure 76
    | some value =>
      match Integer.readWhole? 10 value with
      | some n => if n ≥ 0 then pure n.toNat else fail 1 ("invalid wrap size: " ++ quote value)
      | none => fail 1 ("invalid wrap size: " ++ quote value)
  if let _ :: other :: _ := a.operands then extra 1 other
  let name := a.operands.head?.getD "-"
  match ← readOperand name with
  | .error e => fail 1 (quoteIfNeeded name ++ ": " ++ reason e)
  | .ok text =>
    if a.has 'd' then
      let kept := text.toList.filter fun c =>
        c ≠ '\n' && (!a.has 'i' || c = '=' || (signValue? c).isSome)
      let (found, good) := readSigns (kept.length + 1) kept
      sayChars found
      if !good then fail 1 "invalid input"
    else
      let all := encodeSigns text.toList
      if width = 0 then sayChars all
      else
        let pieces := foldLine width true false (all.length + 1) all
        if !all.isEmpty then sayChars (pieces.flatMap (· ++ ['\n']))

end Modlet.Tool
