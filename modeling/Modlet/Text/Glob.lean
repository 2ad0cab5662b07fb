import Modlet.Text.Octets

/-!
# Patterns for names

A pattern is characters, of which a star stands for any text, a question mark for any character, and
a list in brackets for any character in it. Quoted characters stand for themselves.
-/

namespace Modlet.Glob

/-- A part of a list of characters. -/
inductive Range
  | between (first last : Char)
  | named (name : String)
deriving DecidableEq, Repr

/-- A part of a pattern. -/
inductive Part
  | char (c : Char)
  | any
  | star
  | among (others : Bool) (ranges : List Range)
deriving DecidableEq, Repr

/-- Whether a character is in the class with a name. -/
def inClass (name : String) (c : Char) : Bool :=
  let n := c.toNat
  match name with
  | "alnum" => c.isAlphanum
  | "alpha" => c.isAlpha
  | "blank" => c = ' ' || c = '\t'
  | "cntrl" => n < 32 || n = 127
  | "digit" => c.isDigit
  | "graph" => 32 < n && n < 127
  | "lower" => c.isLower
  | "print" => 32 ≤ n && n < 127
  | "punct" => 32 < n && n < 127 && !c.isAlphanum
  | "space" => c = ' ' || (9 ≤ n && n ≤ 13)
  | "upper" => c.isUpper
  | "xdigit" => c.isDigit || ('a' ≤ c && c ≤ 'f') || ('A' ≤ c && c ≤ 'F')
  | _ => false

/-- The names of the classes that there are. -/
def classNames : List String :=
  ["alnum", "alpha", "blank", "cntrl", "digit", "graph", "lower", "print", "punct", "space",
    "upper", "xdigit"]

/-- Whether a character is in a part of a list. -/
def Range.has (c : Char) : Range → Bool
  | .between first last => first ≤ c && c ≤ last
  | .named name => inClass name c

/-- The list behind an opening bracket, and what stands behind its closing one. Nothing if it does
not end. Characters that are quoted, as the flags say, have no meaning. -/
def readRanges (front : Bool) : Nat → List (Char × Bool) →
    Option (List Range × List (Char × Bool))
  | 0, _ => none
  | bound + 1, text =>
    let more (range : Range) (rest : List (Char × Bool)) :=
      (readRanges false bound rest).map fun (ranges, rest) => (range :: ranges, rest)
    match text with
    | [] => none
    | ('[', false) :: (':', false) :: rest =>
      let letters := rest.takeWhile fun entry => entry.1.isAlpha && !entry.2
      let name := String.ofList (letters.map Prod.fst)
      match rest.drop letters.length, classNames.contains name with
      | (':', false) :: (']', false) :: rest, true => more (.named name) rest
      | _, _ => more (.between '[' '[') ((':', false) :: rest)
    | (']', false) :: rest => if front then more (.between ']' ']') rest else some ([], rest)
    | (c, _) :: ('-', false) :: (']', false) :: rest =>
      more (.between c c) (('-', false) :: (']', false) :: rest)
    | (c, _) :: ('-', false) :: (d, _) :: rest => more (.between c d) rest
    | (c, _) :: rest => more (.between c c) rest

/-- The parts of a pattern; the flags tell which characters are quoted. -/
def readParts : Nat → List (Char × Bool) → List Part
  | 0, _ => []
  | bound + 1, text =>
    match text with
    | [] => []
    | ('*', false) :: rest => .star :: readParts bound rest
    | ('?', false) :: rest => .any :: readParts bound rest
    | ('\\', false) :: (c, _) :: rest => .char c :: readParts bound rest
    | ('[', false) :: rest =>
      let (others, inner) := match rest with
        | ('!', false) :: rest => (true, rest)
        | rest => (false, rest)
      match readRanges true (inner.length + 1) inner with
      | some (ranges, rest) => .among others ranges :: readParts bound rest
      | none => .char '[' :: readParts bound rest
    | (c, _) :: rest => .char c :: readParts bound rest

/-- The pattern that a text is. -/
def ofText (text : List (Char × Bool)) : List Part := readParts (text.length + 1) text

/-- Whether a part stands for a character. -/
def Part.fits (c : Char) : Part → Bool
  | .char d => c = d
  | .any => true
  | .star => false
  | .among others ranges => ranges.any (Range.has c) != others

/-- Whether a pattern stands for a text. -/
def fits : List Part → List Char → Bool
  | [], text => text.isEmpty
  | .star :: parts, [] => fits parts []
  | .star :: parts, c :: text => fits parts (c :: text) || fits (.star :: parts) text
  | _ :: _, [] => false
  | part :: parts, c :: text => part.fits c && fits parts text
termination_by parts text => parts.length + text.length

/-- Whether a pattern has a part that stands for more than one text. -/
def isPattern (parts : List Part) : Bool :=
  parts.any fun part =>
    match part with
    | .char _ => false
    | _ => true

/-- The text that a pattern is if it has no such part. -/
def literal (parts : List Part) : List Char :=
  parts.filterMap fun part =>
    match part with
    | .char c => some c
    | _ => none

/-- The length of the shortest or longest front of a text that a pattern stands for. -/
def matchFront? (parts : List Part) (longest : Bool) (text : List Char) : Option Nat :=
  let lengths := List.range (text.length + 1)
  (if longest then lengths.reverse else lengths).find? fun n => fits parts (text.take n)

/-- The length of what stands before the shortest or longest end of a text that a pattern stands
for. -/
def matchBack? (parts : List Part) (longest : Bool) (text : List Char) : Option Nat :=
  let lengths := List.range (text.length + 1)
  (if longest then lengths else lengths.reverse).find? fun n => fits parts (text.drop n)

end Modlet.Glob
