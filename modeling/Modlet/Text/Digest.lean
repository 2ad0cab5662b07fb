import Modlet.Text.Octets

/-!
# Digests

A digest is a number of a fixed size that is worked out from all bytes of a text. Texts that differ
hardly ever have the same one. Three of them take the bytes in blocks of sixty-four and work on
words of 32 bits; the fourth is a remainder of polynomials.
-/

namespace Modlet.Digest

/-- The number of bytes of a block. -/
def blockSize : Nat := 64

/-- The bytes of a text, filled up to whole blocks: a bit behind the last byte, noughts, and the
number of bits in eight bytes. -/
def padded (bigEndian : Bool) (text : Octets) : List Nat :=
  let bytes := text.toList.map Char.toNat
  let size := bytes.length
  let noughts := (2 * blockSize - (size + 9) % blockSize) % blockSize
  let length := (List.range 8).map fun n => size * 8 / Nat.pow 256 n % 256
  bytes ++ 0x80 :: List.replicate noughts 0 ++ (if bigEndian then length.reverse else length)

/-- A word of 32 bits from four bytes, of which the first is the lowest. -/
def word (bytes : List Nat) : UInt32 := UInt32.ofNat (bytes.foldr (fun b n => n * 256 + b) 0)

/-- Words from bytes, four by four. -/
def words (bigEndian : Bool) : Nat → List Nat → List UInt32
  | 0, _ => []
  | bound + 1, bytes =>
    let four := bytes.take 4
    if four.isEmpty then []
    else word (if bigEndian then four.reverse else four) :: words bigEndian bound (bytes.drop 4)

/-- What a list holds, in pieces of a size. -/
def pieces {α : Type} (size : Nat) : Nat → List α → List (List α)
  | 0, _ => []
  | bound + 1, all =>
    if all.isEmpty then [] else all.take size :: pieces size bound (all.drop size)

/-- The blocks of a text, each as sixteen words. -/
def blocks (bigEndian : Bool) (text : Octets) : List (Array UInt32) :=
  let bytes := padded bigEndian text
  let all := words bigEndian bytes.length bytes
  (pieces 16 all.length all).map List.toArray

/-- The bits of a word, moved in a circle to the left. -/
def rotate (x : UInt32) (n : Nat) : UInt32 :=
  x <<< UInt32.ofNat n ||| x >>> UInt32.ofNat (32 - n)

/-- A byte in two digits of base sixteen. -/
def hexByte (n : Nat) : List Char :=
  let digits := Nat.toDigits 16 (n % 256)
  List.replicate (2 - digits.length) '0' ++ digits

/-- Words in digits of base sixteen. -/
def hex (bigEndian : Bool) (all : List UInt32) : Octets :=
  String.ofList (all.flatMap fun x =>
    let bytes := (List.range 4).map fun n => x.toNat / Nat.pow 256 n
    (if bigEndian then bytes.reverse else bytes).flatMap hexByte)

/-- The word at a place. -/
def at_ (all : Array UInt32) (place : Nat) : UInt32 := all[place]?.getD 0

/-! ### A digest of four words -/

/-- The words that are added in the rounds: sines of the numbers from one on. -/
def sines : Array UInt32 :=
  #[0xd76aa478, 0xe8c7b756, 0x242070db, 0xc1bdceee, 0xf57c0faf, 0x4787c62a, 0xa8304613, 0xfd469501,
    0x698098d8, 0x8b44f7af, 0xffff5bb1, 0x895cd7be, 0x6b901122, 0xfd987193, 0xa679438e, 0x49b40821,
    0xf61e2562, 0xc040b340, 0x265e5a51, 0xe9b6c7aa, 0xd62f105d, 0x02441453, 0xd8a1e681, 0xe7d3fbc8,
    0x21e1cde6, 0xc33707d6, 0xf4d50d87, 0x455a14ed, 0xa9e3e905, 0xfcefa3f8, 0x676f02d9, 0x8d2a4c8a,
    0xfffa3942, 0x8771f681, 0x6d9d6122, 0xfde5380c, 0xa4beea44, 0x4bdecfa9, 0xf6bb4b60, 0xbebfbc70,
    0x289b7ec6, 0xeaa127fa, 0xd4ef3085, 0x04881d05, 0xd9d4d039, 0xe6db99e5, 0x1fa27cf8, 0xc4ac5665,
    0xf4292244, 0x432aff97, 0xab9423a7, 0xfc93a039, 0x655b59c3, 0x8f0ccc92, 0xffeff47d, 0x85845dd1,
    0x6fa87e4f, 0xfe2ce6e0, 0xa3014314, 0x4e0811a1, 0xf7537e82, 0xbd3af235, 0x2ad7d2bb, 0xeb86d391]

/-- How far bits are moved in the rounds, by the quarter and the round in it. -/
def turns : Array (Array Nat) :=
  #[#[7, 12, 17, 22], #[5, 9, 14, 20], #[4, 11, 16, 23], #[6, 10, 15, 21]]

/-- Four words after a block. -/
def mixFour (state : UInt32 × UInt32 × UInt32 × UInt32) (block : Array UInt32) :
    UInt32 × UInt32 × UInt32 × UInt32 :=
  let (a, b, c, d) := (List.range 64).foldl
    (fun (a, b, c, d) n =>
      let (f, place) := match n / 16 with
        | 0 => (b &&& c ||| ~~~b &&& d, n)
        | 1 => (d &&& b ||| ~~~d &&& c, (5 * n + 1) % 16)
        | 2 => (b ^^^ c ^^^ d, (3 * n + 5) % 16)
        | _ => (c ^^^ (b ||| ~~~d), 7 * n % 16)
      let turn := (turns[n / 16]?.getD #[])[n % 4]?.getD 0
      let sum := a + f + at_ sines n + at_ block place
      (d, b + rotate sum turn, b, c)) state
  (state.1 + a, state.2.1 + b, state.2.2.1 + c, state.2.2.2 + d)

/-- The digest of four words, MD5, in digits of base sixteen. -/
def md5 (text : Octets) : Octets :=
  let (a, b, c, d) := (blocks false text).foldl mixFour
    (0x67452301, 0xefcdab89, 0x98badcfe, 0x10325476)
  hex false [a, b, c, d]

/-! ### A digest of five words -/

/-- Five words. -/
structure Five where
  a : UInt32
  b : UInt32
  c : UInt32
  d : UInt32
  e : UInt32

/-- Words of a block and those that follow from them, up to a number of them. -/
def extend (next : Array UInt32 → UInt32) (block : Array UInt32) (count : Nat) : Array UInt32 :=
  (List.range (count - block.size)).foldl (fun all _ => all.push (next all)) block

/-- Five words after a block. -/
def mixFive (s : Five) (block : Array UInt32) : Five :=
  let all := extend (fun all =>
    let n := all.size
    let together := at_ all (n - 3) ^^^ at_ all (n - 8) ^^^ at_ all (n - 14) ^^^ at_ all (n - 16)
    rotate together 1) block 80
  let r := (List.range 80).foldl
    (fun (s : Five) n =>
      let (f, k) : UInt32 × UInt32 := match n / 20 with
        | 0 => (s.b &&& s.c ||| ~~~s.b &&& s.d, 0x5a827999)
        | 1 => (s.b ^^^ s.c ^^^ s.d, 0x6ed9eba1)
        | 2 => (s.b &&& s.c ||| s.b &&& s.d ||| s.c &&& s.d, 0x8f1bbcdc)
        | _ => (s.b ^^^ s.c ^^^ s.d, 0xca62c1d6)
      { a := rotate s.a 5 + f + s.e + k + at_ all n, b := s.a, c := rotate s.b 30, d := s.c
        e := s.d }) s
  { a := s.a + r.a, b := s.b + r.b, c := s.c + r.c, d := s.d + r.d, e := s.e + r.e }

/-- The digest of five words, SHA-1, in digits of base sixteen. -/
def sha1 (text : Octets) : Octets :=
  let start : Five :=
    { a := 0x67452301, b := 0xefcdab89, c := 0x98badcfe, d := 0x10325476, e := 0xc3d2e1f0 }
  let s := (blocks true text).foldl mixFive start
  hex true [s.a, s.b, s.c, s.d, s.e]

/-! ### A digest of eight words -/

/-- The first prime numbers. -/
def primes (count : Nat) : List Nat :=
  ((List.range 320).filter fun n =>
    n ≥ 2 && (List.range n).all fun d => d < 2 || n % d ≠ 0).take count

/-- The greatest number whose power is not above another, found bit by bit. -/
def root (power n : Nat) : Nat :=
  (List.range 40).foldl
    (fun found k =>
      let next := found + Nat.pow 2 (39 - k)
      if Nat.pow next power ≤ n then next else found) 0

/-- The first 32 bits behind the point of the square or cube roots of prime numbers. -/
def rootBits (power count : Nat) : Array UInt32 :=
  ((primes count).map fun p => UInt32.ofNat (root power (p * Nat.pow 2 (32 * power)))).toArray

/-- Eight words after a block, given the words that are added in the rounds. -/
def mixEight (added : Array UInt32) (state block : Array UInt32) : Array UInt32 :=
  let right (x : UInt32) (n : Nat) := rotate x (32 - n)
  let all := extend (fun all =>
    let n := all.size
    let x := at_ all (n - 15)
    let y := at_ all (n - 2)
    at_ all (n - 16) + (right x 7 ^^^ right x 18 ^^^ x >>> 3) + at_ all (n - 7)
      + (right y 17 ^^^ right y 19 ^^^ y >>> 10)) block 64
  let mixed := (List.range 64).foldl
    (fun (s : Array UInt32) n =>
      let a := at_ s 0
      let b := at_ s 1
      let c := at_ s 2
      let e := at_ s 4
      let first := at_ s 7 + (right e 6 ^^^ right e 11 ^^^ right e 25)
        + (e &&& at_ s 5 ^^^ ~~~e &&& at_ s 6) + at_ added n + at_ all n
      let second := (right a 2 ^^^ right a 13 ^^^ right a 22)
        + (a &&& b ^^^ a &&& c ^^^ b &&& c)
      #[first + second, a, b, c, at_ s 3 + first, e, at_ s 5, at_ s 6]) state
  Array.zipWith (· + ·) state mixed

/-- The digest of eight words, SHA-256, in digits of base sixteen. -/
def sha256 (text : Octets) : Octets :=
  hex true ((blocks true text).foldl (mixEight (rootBits 3 64)) (rootBits 2 8)).toList

/-! ### A remainder -/

/-- The remainder after one byte more. -/
def remainderStep (sum : UInt32) (byte : Nat) : UInt32 :=
  (List.range 8).foldl
    (fun (sum : UInt32) _ =>
      if sum &&& 0x80000000 ≠ 0 then sum <<< 1 ^^^ 0x04c11db7 else sum <<< 1)
    (sum ^^^ UInt32.ofNat byte <<< 24)

/-- The bytes of a number, the lowest first, without noughts behind them. -/
def lengthBytes : Nat → Nat → List Nat
  | 0, _ => []
  | bound + 1, n => if n = 0 then [] else n % 256 :: lengthBytes bound (n / 256)

/-- The remainder of a text and its length. -/
def remainder (text : Octets) : Nat :=
  let bytes := text.toList.map Char.toNat
  let sum := (bytes ++ lengthBytes 8 bytes.length).foldl remainderStep 0
  (~~~sum).toNat

end Modlet.Digest
