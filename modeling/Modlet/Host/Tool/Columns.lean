import Modlet.Host.Tool.Lines
import Modlet.Text.Glob

/-!
# Parts of lines and other characters

Parts of each line are cut out, by bytes or by fields; characters are replaced by others, left out
or made one.
-/

namespace Modlet.Tool

open Job

/-! ### Cutting -/

/-- Numbers between two, or from one on. -/
structure Span where
  first : Nat
  last? : Option Nat
deriving DecidableEq, Repr

/-- Whether a number is among some. -/
def isWithin (spans : List Span) (n : Nat) : Bool :=
  spans.any fun span => span.first ≤ n && (match span.last? with
    | some last => n ≤ last
    | none => true)

/-- How far reading a list of spans has come. -/
structure SpanReading where
  /-- The spans that were read. -/
  spans : List Span := []
  /-- The number that the span at work begins with, if there is a dash behind it. -/
  first? : Option Nat := none
  /-- Whether there is a number in front of the dash. -/
  hasFirst : Bool := false
  /-- The number that was read last. -/
  value? : Option Nat := none

/-- The spans that a text lists. -/
def readSpans (fields : Bool) (text : Octets) : Job (List Span) := do
  let fromOne {α : Type} : Job α :=
    misuse 1 ((if fields then "fields" else "byte/character positions") ++ " are numbered from 1")
  let finish (r : SpanReading) : Job SpanReading := do
    match r.first?, r.value? with
    | some first, some last =>
      if last < first then misuse 1 "invalid decreasing range"
      return { spans := r.spans ++ [⟨first, some last⟩] }
    | some first, none =>
      if !r.hasFirst then misuse 1 "invalid range with no endpoint: -"
      return { spans := r.spans ++ [⟨first, none⟩] }
    | none, some n => if n = 0 then fromOne else return { spans := r.spans ++ [⟨n, some n⟩] }
    | none, none => fromOne
  let rec go (r : SpanReading) : List Char → Job (List Span)
    | [] => return (← finish r).spans
    | c :: rest => do
      if c = '-' then
        if r.first?.isSome then
          misuse 1 (if fields then "invalid field range" else "invalid byte or character range")
        if r.value? = some 0 then fromOne
        let hasFirst := r.value?.isSome
        go { r with first? := some (r.value?.getD 1), hasFirst, value? := none } rest
      else if c = ',' || c = ' ' || c = '\t' then go (← finish r) rest
      else if c.isDigit then
        go { r with value? := some (r.value?.getD 0 * 10 + Integer.digitValue c) } rest
      else
        let what := if fields then "field value" else "byte/character position"
        misuse 1 ("invalid " ++ what ++ " " ++ quote (String.ofList (c :: rest)))
  go {} text.toList

/-- The numbers of spans in a row, put together with a text between rows. -/
def cutPieces (between : List Char) (wanted : Nat → Bool) (text : List Char) : List Char :=
  let entries := (text.zipIdx).filter fun entry => wanted (entry.2 + 1)
  (entries.foldl (fun (found : List Char × Option Nat) entry =>
    let gap := match found.2 with
      | some last => if last + 1 = entry.2 then [] else between
      | none => []
    (found.1 ++ gap ++ [entry.1], some entry.2)) ([], none)).1

/-- Cuts parts out of lines. -/
def cut : Job Unit := do
  let a ← arguments
    [⟨'b', "bytes", .needed, false⟩, ⟨'c', "characters", .needed, false⟩,
      ⟨'d', "delimiter", .needed, false⟩, ⟨'f', "fields", .needed, false⟩,
      ⟨'n', "", .none, false⟩, ⟨'s', "only-delimited", .none, false⟩,
      ⟨'C', "complement", .none, true⟩, ⟨'O', "output-delimiter", .needed, true⟩,
      ⟨'z', "zero-terminated", .none, false⟩] 1
  let lists := a.options.filter fun entry => ['b', 'c', 'f'].contains entry.1
  let (kind, list) ← match lists with
    | [entry] => pure entry
    | [] => misuse 1 "you must specify a list of bytes, characters, or fields"
    | _ => misuse 1 "only one list may be specified"
  let fields := kind = 'f'
  let mark ← match a.last? 'd' with
    | none => pure '\t'
    | some value =>
      match value.toList with
      | [c] => pure c
      | [] => pure '\x00'
      | _ => misuse 1 "the delimiter must be a single character"
  if a.has 'd' && !fields then
    misuse 1 "an input delimiter may be specified only when operating on fields"
  if a.has 's' && !fields then
    misuse 1
      "suppressing non-delimited lines makes sense\n\tonly when operating on fields"
  let spans ← readSpans fields list
  let wanted (n : Nat) : Bool := isWithin spans n != a.has 'C'
  eachOperand a.operands fun _ text => do
    for line in bareRecords a.ender text do
      if fields then
        let parts := Text.pieces mark line
        if parts.length = 1 then
          if !a.has 's' then sayChars (line ++ [a.ender])
        else
          let kept := (parts.zipIdx.filter fun entry => wanted (entry.2 + 1)).map Prod.fst
          let between := match a.last? 'O' with
            | some value => value.toList
            | none => [mark]
          sayChars (List.intercalate between kept ++ [a.ender])
      else
        let between := ((a.last? 'O').getD "").toList
        sayChars (cutPieces between wanted line ++ [a.ender])

/-! ### Replacing characters -/

/-- A part of a list of characters. -/
inductive CharacterList
  | char (c : Char)
  | between (first last : Char)
  | named (name : String)
  /-- A character as often as a number says, or as often as needed. -/
  | repeated (c : Char) (count : Nat)

/-- A character at the front of a text, maybe an escape, with whether it was one. -/
def takeCharacter (text : List Char) : Option (Char × Bool × List Char) :=
  match text with
  | [] => none
  | '\\' :: c :: rest =>
    if '0' ≤ c && c ≤ '7' then
      let digits := ((c :: rest).take 3).takeWhile fun c => '0' ≤ c && c ≤ '7'
      let digits := if Integer.digitsValue 8 digits > 255 then digits.take 2 else digits
      some (Char.ofNat (Integer.digitsValue 8 digits), true, (c :: rest).drop digits.length)
    else
      let found := match c with
        | 'a' => Char.ofNat 7
        | 'b' => Char.ofNat 8
        | 'f' => Char.ofNat 12
        | 'n' => '\n'
        | 'r' => '\r'
        | 't' => '\t'
        | 'v' => Char.ofNat 11
        | c => c
      some (found, true, rest)
  | c :: rest => some (c, false, rest)

/-- The names of classes of characters. -/
def classNames : List String :=
  ["alnum", "alpha", "blank", "cntrl", "digit", "graph", "lower", "print", "punct", "space",
    "upper", "xdigit"]

/-- The parts of a list of characters. -/
def readCharacters : Nat → List Char → Job (List CharacterList)
  | 0, _ => return []
  | bound + 1, text => do
    match text with
    | [] => return []
    | '[' :: ':' :: rest =>
      let name := rest.takeWhile Char.isAlpha
      match rest.drop name.length with
      | ':' :: ']' :: behind =>
        let name := String.ofList name
        if classNames.contains name then
          return .named name :: (← readCharacters bound behind)
        else fail 1 ("invalid character class " ++ quote name)
      | _ => return .char '[' :: (← readCharacters bound (':' :: rest))
    | '[' :: '=' :: c :: '=' :: ']' :: rest => return .char c :: (← readCharacters bound rest)
    | text =>
      let repeated? : Option (CharacterList × List Char) := match text with
        | '[' :: rest =>
          match takeCharacter rest with
          | some (c, _, '*' :: rest) =>
            let digits := rest.takeWhile Char.isDigit
            let base := if digits.head? = some '0' then 8 else 10
            match rest.drop digits.length with
            | ']' :: rest => some (.repeated c (Integer.digitsValue base digits), rest)
            | _ => none
          | _ => none
        | _ => none
      match repeated?, takeCharacter text with
      | some (part, rest), _ => return part :: (← readCharacters bound rest)
      | none, none => return []
      | none, some (c, _, rest) =>
        match rest with
        | '-' :: more =>
          match takeCharacter more with
          | none => return .char c :: .char '-' :: []
          | some (d, _, rest) =>
            if d < c then
              let shown (c : Char) : Octets :=
                String.ofList (if isPrinted c then [c] else escapeOf c)
              fail 1 ("range-endpoints of '" ++ shown c ++ "-" ++ shown d
                ++ "' are in reverse collating sequence order")
            else return .between c d :: (← readCharacters bound rest)
        | rest => return .char c :: (← readCharacters bound rest)

/-- All characters that there are. -/
def allCharacters : List Char := (List.range 256).map Char.ofNat

/-- The characters of a list. -/
def listed (parts : List CharacterList) : List Char :=
  parts.flatMap fun part =>
    match part with
    | .char c => [c]
    | .between first last => allCharacters.filter fun c => first ≤ c && c ≤ last
    | .named name => allCharacters.filter (Glob.inClass name)
    | .repeated c count => List.replicate count c

/-- The characters of a second list, as many as the first has: what can be repeated is, and else the
last one. -/
def listedFor (length : Nat) (truncates : Bool) (parts : List CharacterList) : List Char :=
  let isOpen (part : CharacterList) : Bool :=
    match part with
    | .repeated _ 0 => true
    | _ => false
  let known := (listed parts).length
  let parts := parts.map fun part =>
    match part with
    | .repeated c 0 => CharacterList.repeated c (length - known)
    | part => part
  let found := listed parts
  if truncates || parts.any isOpen then found
  else
    match found.getLast? with
    | some c => found ++ List.replicate (length - found.length) c
    | none => found

/-- Makes characters one that are the same and stand in a row. -/
def squeeze (which : Char → Bool) : List Char → List Char
  | a :: b :: rest =>
    if a = b && which a then squeeze which (b :: rest) else a :: squeeze which (b :: rest)
  | rest => rest

/-- Replaces characters, leaves them out or makes them one. -/
def tr : Job Unit := do
  let a ← orderedArguments
    [⟨'c', "complement", .none, false⟩, ⟨'C', "", .none, false⟩, ⟨'d', "delete", .none, false⟩,
      ⟨'s', "squeeze-repeats", .none, false⟩, ⟨'t', "truncate-set1", .none, false⟩] 1
  let deletes := a.has 'd'
  let squeezes := a.has 's'
  let seeHelpAfter {α : Type} (message line : Octets) : Job α := do
    complain message
    if line ≠ "" then
      let _ ← write 2 (Octets.line line)
    seeHelp 1
  let (first, second?) ← match a.operands with
    | [] => misuse 1 "missing operand"
    | [one] =>
      if deletes && squeezes then
        seeHelpAfter ("missing operand after " ++ quote one)
          "Two strings must be given when both deleting and squeezing repeats."
      else if !deletes && !squeezes then
        seeHelpAfter ("missing operand after " ++ quote one)
          "Two strings must be given when translating."
      else pure (one, none)
    | [one, two] =>
      if deletes && !squeezes then
        seeHelpAfter ("extra operand " ++ quote two)
          "Only one string may be given when deleting without squeezing repeats."
      else pure (one, some two)
    | _ :: _ :: three :: _ => misuse 1 ("extra operand " ++ quote three)
  let parts ← readCharacters (first.length + 1) first.toList
  let complements := a.has 'c' || a.has 'C'
  let base := listed parts
  let one := if complements then allCharacters.filter fun c => !base.contains c else base
  let secondParts ← match second? with
    | some second => do pure (some (← readCharacters (second.length + 1) second.toList))
    | none => pure none
  let text := (← readInput).toList
  match secondParts with
  | none =>
    sayChars (if deletes then text.filter fun c => !one.contains c else squeeze one.contains text)
  | some secondParts =>
    if deletes then
      let two := listed secondParts
      sayChars (squeeze two.contains (text.filter fun c => !one.contains c))
    else
      let two := listedFor one.length (a.has 't') secondParts
      if two.isEmpty && !a.has 't' then
        fail 1 "when not truncating set1, string2 must be non-empty"
      -- The last of several meanings of a character counts.
      let pairs := (one.zip two).reverse
      let changed := text.map fun c => (pairs.lookup c).getD c
      sayChars (if squeezes then squeeze two.contains changed else changed)

end Modlet.Tool
