import Modlet.Host.Tool.Lines

/-!
# Sorting lines

Lines are put in order by keys, each of which is a part of the line with a way of comparing, and if
the keys say nothing by all of their bytes. Lines that are the same and stand behind one another can
be made one.
-/

namespace Modlet.Tool

open Job

/-! ### Sorting -/

/-- How keys are compared. -/
structure KeyOrder where
  /-- By the numbers at their fronts. -/
  numeric : Bool := false
  /-- By the numbers with fractions and exponents at their fronts. -/
  general : Bool := false
  /-- By numbers with units. -/
  human : Bool := false
  /-- By the names of months. -/
  month : Bool := false
  /-- By the numbers in them and what stands between. -/
  version : Bool := false
  /-- Upper and lower case make no difference. -/
  folds : Bool := false
  /-- Only blanks, letters and digits count. -/
  dictionary : Bool := false
  /-- Only what can be printed counts. -/
  printed : Bool := false
  /-- In the opposite order. -/
  reversed : Bool := false
  /-- Blanks at the front of the first field do not count. -/
  skipsFirst : Bool := false
  /-- Blanks at the front of the last field do not count. -/
  skipsLast : Bool := false
deriving DecidableEq

/-- A place in a line: a field, and a character in it. -/
structure FieldPlace where
  field : Nat
  char : Nat

/-- A part of lines by which they are sorted. -/
structure Key where
  first : FieldPlace := ⟨1, 1⟩
  last? : Option FieldPlace := none
  order : KeyOrder := {}

/-- Whether a character stands between fields if nothing else is said. -/
def isGap (c : Char) : Bool := c = ' ' || c = '\t' || c = '\n'

/-- A line behind some fields. -/
def dropFields (mark? : Option Char) : Nat → List Char → List Char
  | 0, line => line
  | n + 1, line =>
    match mark? with
    | some mark => dropFields mark? n ((line.dropWhile (· ≠ mark)).drop 1)
    | none => dropFields mark? n ((line.dropWhile isGap).dropWhile fun c => !isGap c)

/-- A line behind some fields, in front of what ends the last of them. -/
def dropToEnd (mark? : Option Char) (n : Nat) (line : List Char) : List Char :=
  match mark?, n with
  | some mark, n + 1 => (dropFields mark? n line).dropWhile (· ≠ mark)
  | _, n => dropFields mark? n line

/-- The part of a line that a key is. -/
def Key.part (k : Key) (mark? : Option Char) (line : List Char) : List Char :=
  let begun := dropFields mark? (k.first.field - 1) line
  let begun := if k.order.skipsFirst then begun.dropWhile isGap else begun
  let begun := begun.drop (k.first.char - 1)
  match k.last? with
  | none => begun
  | some last =>
    let ended :=
      if last.char = 0 then dropToEnd mark? last.field line
      else
        let field := dropFields mark? (last.field - 1) line
        let field := if k.order.skipsLast then field.dropWhile isGap else field
        field.drop last.char
    begun.take (begun.length - ended.length)

/-- The number at the front of a text, as digits before and behind the point. -/
def numberAt (text : List Char) : Int × List Char :=
  let bare := text.dropWhile isGap
  let (negative, bare) := match bare with
    | '-' :: rest => (true, rest)
    | rest => (false, rest)
  let whole := bare.takeWhile Char.isDigit
  let part := match bare.drop whole.length with
    | '.' :: rest => rest.takeWhile Char.isDigit
    | _ => []
  let part := (part.reverse.dropWhile (· = '0')).reverse
  let n : Int := Integer.digitsValue 10 whole
  (if negative then -n else n, (if negative then '-' else '+') :: part)

/-- Compares two numbers at the fronts of texts. -/
def compareNumbers (a b : List Char) : Ordering :=
  let value (text : List Char) (places : Nat) : Int :=
    let (n, part) := numberAt text
    let digits := (part.drop 1).take places
    let fraction : Int := Integer.digitsValue 10 digits * Int.pow 10 (places - digits.length)
    let whole := n * Int.pow 10 places
    if part.head? = some '-' then whole - fraction else whole + fraction
  let places := max (numberAt a).2.length (numberAt b).2.length
  compare (value a places) (value b places)

/-- The rank of the unit behind a number. -/
def unitRank (text : List Char) : Int :=
  let bare := text.dropWhile isGap
  let (negative, bare) := match bare with
    | '-' :: rest => (true, rest)
    | rest => (false, rest)
  let digits := bare.takeWhile fun c => c.isDigit || c = '.'
  let rank : Int := match bare.drop digits.length with
    | c :: _ => match "KMGTPEZY".toList.findIdx? (· = c.toUpper) with
      | some n => n + 1
      | none => 0
    | [] => 0
  let isNought := digits.all fun c => c = '0' || c = '.'
  if isNought then 0 else if negative then -rank else rank

/-- The number of the month that a text begins with. -/
def monthAt (text : List Char) : Nat :=
  let name := ((text.dropWhile isGap).take 3).map Char.toUpper
  let months := ["JAN", "FEB", "MAR", "APR", "MAY", "JUN", "JUL", "AUG", "SEP", "OCT", "NOV", "DEC"]
  match months.findIdx? fun month => month.toList = name with
  | some n => n + 1
  | none => 0

/-- Compares two texts by the numbers in them and what stands between. -/
def compareVersions : Nat → List Char → List Char → Ordering
  | 0, _, _ => .eq
  | bound + 1, a, b =>
    let rank (c : Char) : Nat :=
      if c = '~' then 0 else if c.isDigit then 1 else if c.isAlpha then c.toNat + 1
      else c.toNat + 257
    let textA := a.takeWhile fun c => !c.isDigit
    let textB := b.takeWhile fun c => !c.isDigit
    let ranks (text : List Char) : List Nat := text.map rank ++ [1]
    if textA ≠ textB then compare (ranks textA) (ranks textB)
    else
      let a := a.drop textA.length
      let b := b.drop textB.length
      if a.isEmpty && b.isEmpty then .eq
      else
        let digitsA := a.takeWhile Char.isDigit
        let digitsB := b.takeWhile Char.isDigit
        match compare (Integer.digitsValue 10 digitsA) (Integer.digitsValue 10 digitsB) with
        | .eq => compareVersions bound (a.drop digitsA.length) (b.drop digitsB.length)
        | found => found

/-- Compares two texts by their bytes. -/
def compareChars (a b : List Char) : Ordering := compare (a.map Char.toNat) (b.map Char.toNat)

/-- Compares two keys. -/
def KeyOrder.compare (o : KeyOrder) (a b : List Char) : Ordering :=
  if o.numeric then compareNumbers a b
  else if o.human then
    match Ord.compare (unitRank a) (unitRank b) with
    | .eq => compareNumbers a b
    | found => found
  else if o.general then
    let value (text : List Char) : Option Fractional :=
      (Fractional.read? .extended text).map (·.value)
    match value a, value b with
    | none, none => .eq
    | none, some _ => .lt
    | some _, none => .gt
    | some x, some y => if x.less y then .lt else if y.less x then .gt else .eq
  else if o.month then Ord.compare (monthAt a) (monthAt b)
  else if o.version then compareVersions (a.length + 1) a b
  else
    let kept (text : List Char) : List Char :=
      let text := if o.dictionary then text.filter fun c => isGap c || c.isAlphanum else text
      let text := if o.printed then text.filter isPrinted else text
      if o.folds then text.map Char.toUpper else text
    compareChars (kept a) (kept b)

/-- How lines are sorted. -/
structure Sorting where
  keys : List Key
  mark? : Option Char
  /-- The order that is said for all. -/
  order : KeyOrder
  /-- Lines whose keys say nothing stay as they are. -/
  stable : Bool
  /-- Of lines that are the same only one stays. -/
  unique : Bool

/-- Compares two lines by their keys. -/
def Sorting.compareKeys (s : Sorting) (a b : List Char) : Ordering :=
  s.keys.foldl (fun found key =>
    match found with
    | .eq =>
      let result := key.order.compare (key.part s.mark? a) (key.part s.mark? b)
      if key.order.reversed then result.swap else result
    | found => found) .eq

/-- Compares two lines. -/
def Sorting.compare (s : Sorting) (a b : List Char) : Ordering :=
  match s.compareKeys a b with
  | .eq =>
    if s.stable || s.unique then .eq
    else
      let result := compareChars a b
      if s.order.reversed then result.swap else result
  | found => found

/-- The order with a letter more. -/
def KeyOrder.withLetter (o : KeyOrder) (first last : Bool) : Char → KeyOrder
  | 'b' => { o with skipsFirst := o.skipsFirst || first, skipsLast := o.skipsLast || last }
  | 'd' => { o with dictionary := true }
  | 'f' => { o with folds := true }
  | 'g' => { o with general := true }
  | 'h' => { o with human := true }
  | 'i' => { o with printed := true }
  | 'M' => { o with month := true }
  | 'n' => { o with numeric := true }
  | 'r' => { o with reversed := true }
  | 'V' => { o with version := true }
  | _ => o

/-- The key that a text describes. -/
def readKey (text : Octets) : Job Key := do
  let place (what : Octets) (chars : List Char) : Job (FieldPlace × Bool × List Char) := do
    let digits := chars.takeWhile Char.isDigit
    if digits.isEmpty then
      fail 2 ("invalid number " ++ what ++ ": invalid count at start of "
        ++ quote (String.ofList chars))
    let field := Integer.digitsValue 10 digits
    if field = 0 then fail 2 ("field number is zero: invalid field specification " ++ quote text)
    match chars.drop digits.length with
    | '.' :: rest =>
      let digits := rest.takeWhile Char.isDigit
      if digits.isEmpty then
        let text := quote (String.ofList rest)
        fail 2 ("invalid number after '.': invalid count at start of " ++ text)
      return (⟨field, Integer.digitsValue 10 digits⟩, true, rest.drop digits.length)
    | rest => return (⟨field, 0⟩, false, rest)
  let (first, hasChar, rest) ← place "at field start" text.toList
  if hasChar && first.char = 0 then
    fail 2 ("character offset is zero: invalid field specification " ++ quote text)
  let isLetter (c : Char) : Bool := "bdfghiMnrRV".toList.contains c
  let letters := rest.takeWhile isLetter
  let order := letters.foldl (fun o c => o.withLetter true false c) ({} : KeyOrder)
  let start : FieldPlace := if hasChar then first else ⟨first.field, 1⟩
  match rest.drop letters.length with
  | [] => return { first := start, order }
  | ',' :: rest =>
    let (last, _, rest) ← place "after ','" rest
    let letters := rest.takeWhile isLetter
    let order := letters.foldl (fun o c => o.withLetter false true c) order
    if !(rest.drop letters.length).isEmpty then
      fail 2 ("stray character in field spec: invalid field specification " ++ quote text)
    return { first := start, last? := some last, order }
  | _ => fail 2 ("stray character in field spec: invalid field specification " ++ quote text)

/-- Leaves out lines that are the same as the one before by their keys. -/
def dropRepeated (same : List Char → List Char → Bool) : List (List Char) → List (List Char)
  | [] => []
  | line :: lines =>
    let rec go (last : List Char) : List (List Char) → List (List Char)
      | [] => []
      | line :: lines => if same last line then go last lines else line :: go line lines
    line :: go line lines

/-- The lines that stay of those in order. -/
def Sorting.kept (s : Sorting) (lines : List (List Char)) : List (List Char) :=
  if s.unique then dropRepeated (fun x y => s.compareKeys x y = .eq) lines else lines

/-- Sorts the lines of files. -/
def sort : Job Unit := do
  let a ← arguments
    (("bdfghiMnrRVcCmsuz".toList.map fun c => ⟨c, "", .none, false⟩)
      ++ [⟨'k', "key", .needed, false⟩, ⟨'t', "field-separator", .needed, false⟩,
        ⟨'o', "output", .needed, false⟩, ⟨'S', "buffer-size", .needed, false⟩,
        ⟨'T', "temporary-directory", .needed, false⟩, ⟨'r', "reverse", .none, true⟩,
        ⟨'n', "numeric-sort", .none, true⟩, ⟨'u', "unique", .none, true⟩,
        ⟨'f', "ignore-case", .none, true⟩, ⟨'s', "stable", .none, true⟩,
        ⟨'c', "check", .possible, true⟩, ⟨'m', "merge", .none, true⟩,
        ⟨'b', "ignore-leading-blanks", .none, true⟩, ⟨'V', "version-sort", .none, true⟩,
        ⟨'g', "general-numeric-sort", .none, true⟩, ⟨'h', "human-numeric-sort", .none, true⟩,
        ⟨'M', "month-sort", .none, true⟩, ⟨'d', "dictionary-order", .none, true⟩,
        ⟨'i', "ignore-nonprinting", .none, true⟩, ⟨'z', "zero-terminated", .none, true⟩,
        ⟨'P', "parallel", .needed, true⟩, ⟨'B', "batch-size", .needed, true⟩,
        ⟨'O', "compress-program", .needed, true⟩, ⟨'W', "sort", .needed, true⟩]) 2
  let ways := [("general-numeric", 'g'), ("human-numeric", 'h'), ("month", 'M'), ("numeric", 'n'),
    ("random", 'R'), ("version", 'V')]
  let options ← a.options.mapM fun (letter, value) => do
    if letter = 'W' then
      let word ← pick "--sort" (ways.map fun way => [way.1]) value
      return ((ways.lookup word).getD 'W', value)
    else return (letter, value)
  let a := { a with options }
  let order := a.options.foldl (fun o entry => o.withLetter true true entry.1) ({} : KeyOrder)
  let mark? ← match a.last? 't' with
    | none => pure none
    | some value =>
      match value.toList with
      | [c] => pure (some c)
      | ['\\', '0'] => pure (some '\x00')
      | [] => fail 2 "empty tab"
      | _ => fail 2 ("multi-character tab " ++ quote value)
  let keys ← (a.all 'k').mapM readKey
  let keys := if keys.isEmpty then [({ order } : Key)]
    else keys.map fun key => if key.order = {} then { key with order } else key
  let s : Sorting := { keys, mark?, order, stable := a.has 's', unique := a.has 'u' }
  let checks := a.has 'c' || a.has 'C'
  if checks && a.operands.length > 1 then
    fail 2 ("extra operand " ++ quoteAlways (a.operands[1]?.getD "") ++ " not allowed with -"
      ++ (if a.has 'C' then "C" else "c"))
  if checks && a.has 'o' then
    fail 2 ("options '-" ++ (if a.has 'C' then "C" else "c") ++ "o' are incompatible")
  let mut parts : List (List (List Char)) := []
  for name in if a.operands.isEmpty then ["-"] else a.operands do
    match ← readOperand name with
    | .ok text => parts := parts ++ [bareRecords a.ender text]
    | .error e =>
      if e = .isDirectory then fail 2 ("read failed: " ++ quoteIfNeeded name ++ ": " ++ reason e)
      else fail 2 ("cannot read: " ++ quoteIfNeeded name ++ ": " ++ reason e)
  let lines := parts.flatten
  if checks then
    let pairs := (lines.zip (lines.drop 1)).zipIdx
    let isWrong (entry : (List Char × List Char) × Nat) : Bool :=
      match s.compare entry.1.1 entry.1.2 with
      | .gt => true
      | .eq => s.unique
      | .lt => false
    match pairs.find? isWrong with
    | some ((_, line), n) =>
      if !a.has 'C' then
        let name := a.operands.head?.getD "-"
        let _ ← write 2 ((← get).call.name ++ ": " ++ name ++ ":" ++ (n + 2).repr ++ ": disorder: "
          ++ String.ofList (line ++ [a.ender]))
      mark 1
    | none => pure ()
  else
    let before (x y : List Char) : Bool := s.compare x y ≠ .gt
    let sorted := if a.has 'm' then parts.foldl (fun found part => found.merge part before) []
      else lines.mergeSort before
    let text := String.ofList ((s.kept sorted).flatMap (· ++ [a.ender]))
    match a.last? 'o' with
    | none => say text
    | some name =>
      match ← writePath name text with
      | .ok () => pure ()
      | .error e => fail 2 ("open failed: " ++ quoteIfNeeded name ++ ": " ++ reason e)

/-! ### Lines that are the same -/

/-- Lines that are the same, as groups. -/
def groupLines (same : List Char → List Char → Bool) :
    List (List Char) → List (List (List Char))
  | [] => []
  | line :: lines =>
    match groupLines same lines with
    | (other :: group) :: groups =>
      if same line other then (line :: other :: group) :: groups
      else [line] :: (other :: group) :: groups
    | groups => [line] :: groups

/-- Makes lines one that are the same and stand behind one another. -/
def uniq : Job Unit := do
  let a ← arguments
    [⟨'c', "count", .none, false⟩, ⟨'d', "repeated", .none, false⟩,
      ⟨'D', "all-repeated", .possible, true⟩, ⟨'f', "skip-fields", .needed, false⟩,
      ⟨'D', "", .none, false⟩, ⟨'g', "group", .possible, true⟩,
      ⟨'i', "ignore-case", .none, false⟩, ⟨'s', "skip-chars", .needed, false⟩,
      ⟨'u', "unique", .none, false⟩, ⟨'w', "check-chars", .needed, false⟩,
      ⟨'z', "zero-terminated", .none, false⟩] 1
  let number (letter : Char) (what : Octets) : Job (Option Nat) := do
    match a.last? letter with
    | none => return none
    | some value =>
      if value ≠ "" && value.toList.all Char.isDigit then
        return some (Integer.digitsValue 10 value.toList)
      else fail 1 (quoteIfNeeded value ++ ": invalid number of " ++ what)
  let method (option : Octets) (words : List (List String)) (letter : Char) (usual : String) :
      Job String := do
    match a.last? letter with
    | none | some "" => return usual
    | some value => pick option words value
  let apart ← method "--all-repeated" [["none"], ["prepend"], ["separate"]] 'D' "none"
  let way ← method "--group" [["prepend"], ["append"], ["separate"], ["both"]] 'g' "separate"
  let fields := (← number 'f' "fields to skip").getD 0
  let chars := (← number 's' "bytes to skip").getD 0
  let width? ← number 'w' "bytes to compare"
  let (source, target?) ← match a.operands with
    | [] => pure ("-", none)
    | [source] => pure (source, none)
    | [source, target] => pure (source, some target)
    | _ :: _ :: other :: _ => extra 1 other
  if a.has 'g' && ['c', 'd', 'D', 'u'].any a.has then
    misuse 1 "--group is mutually exclusive with -c/-d/-D/-u"
  if a.has 'D' && a.has 'c' then
    misuse 1 "printing all duplicated lines and repeat counts is meaningless"
  match ← readOperand source with
  | .error e =>
    if e = .isDirectory then fail 1 ("error reading " ++ quoteAlways source ++ ": " ++ reason e)
    else fail 1 (quoteIfNeeded source ++ ": " ++ reason e)
  | .ok text =>
    let part (line : List Char) : List Char :=
      let rest := (dropFields none fields line).drop chars
      let rest := match width? with
        | some n => rest.take n
        | none => rest
      if a.has 'i' then rest.map Char.toLower else rest
    let groups := groupLines (fun x y => part x = part y) (bareRecords a.ender text)
    let isWanted (group : List (List Char)) : Bool :=
      let n := group.length
      !(a.has 'd' && n < 2) && !(a.has 'u' && n > 1) && !(a.has 'D' && n < 2)
    let written (group : List (List Char)) : List Char :=
      let lines := if a.has 'D' || a.has 'g' then group else group.take 1
      lines.flatMap fun line =>
        (if a.has 'c' then column 7 group.length ++ [' '] else []) ++ line ++ [a.ender]
    let found := (groups.filter isWanted).map written
    let fence := if a.has 'g' then way else apart
    let before := fence = "prepend" || fence = "both"
    let behind := fence = "append" || fence = "both"
    let gap := if before || behind || fence = "separate" then [a.ender] else []
    let shown := if found.isEmpty then [] else
      (if before then gap else []) ++ List.intercalate gap found ++ if behind then gap else []
    match target? with
    | none | some "-" => sayChars shown
    | some target =>
      match ← writePath target (String.ofList shown) with
      | .ok () => pure ()
      | .error e => fail 1 (quoteIfNeeded target ++ ": " ++ reason e)

/-- What was found out about two files that are compared. -/
structure Compared where
  /-- The number of lines that were found in the first only. -/
  ofFirst : Nat := 0
  /-- The number of lines that were found in the second only. -/
  ofSecond : Nat := 0
  /-- The number of lines that were found in both. -/
  ofBoth : Nat := 0
  /-- Whether a line was found in one of them only. -/
  isUnpaired : Bool := false
  /-- Whether the first is not in order. -/
  first : Bool := false
  /-- Whether the second is not in order. -/
  second : Bool := false

/-- Checks that the line behind one is not before it, once for each file. That does not matter as
long as all lines are in both files. -/
def Compared.checkNext (c : Compared) (checks isFirst : Bool) (line : List Char)
    (behind : List (List Char)) : Job Compared := do
  let told := if isFirst then c.first else c.second
  match behind with
  | next :: _ =>
    if checks && c.isUnpaired && !told && compareChars line next = .gt then
      complain ("file " ++ (if isFirst then "1" else "2") ++ " is not in sorted order")
      return if isFirst then { c with first := true } else { c with second := true }
    else return c
  | [] => return c

/-- Compares the lines of two files that are in order. -/
def comm : Job Unit := do
  let a ← arguments
    [⟨'1', "", .none, false⟩, ⟨'2', "", .none, false⟩, ⟨'3', "", .none, false⟩,
      ⟨'n', "nocheck-order", .none, true⟩, ⟨'c', "check-order", .none, true⟩,
      ⟨'d', "output-delimiter", .needed, true⟩, ⟨'t', "total", .none, true⟩,
      ⟨'z', "zero-terminated", .none, false⟩] 1
  let mark := match a.last? 'd' with
    | some "" => ['\x00']
    | some value => value.toList
    | none => ['\t']
  match a.operands with
  | [] => misuse 1 "missing operand"
  | [one] => misuse 1 ("missing operand after " ++ quoteAlways one)
  | first :: second :: others =>
    if let other :: _ := others then extra 1 other
    let read (name : Octets) : Job (List (List Char)) := do
      match ← readOperand name with
      | .ok text => return bareRecords a.ender text
      | .error e => fail 1 (quoteIfNeeded name ++ ": " ++ reason e)
    let x ← read first
    let y ← read second
    let gap (letters : List Char) : List Char :=
      letters.flatMap fun c => if a.has c then [] else mark
    let shown (letter : Char) (before : List Char) (line : List Char) : List Char :=
      if a.has letter then [] else gap before ++ line ++ [a.ender]
    let checks := !a.has 'n'
    let rec go (found : Compared) : Nat → List (List Char) → List (List Char) → Job Compared
      | 0, _, _ => return found
      | bound + 1, x, y => do
        let next := match x, y with
          | [], [] => Ordering.eq
          | _ :: _, [] => .lt
          | [], _ :: _ => .gt
          | l :: _, r :: _ => compareChars l r
        let isUnpaired := next ≠ .eq
        let found := { found with isUnpaired := found.isUnpaired || isUnpaired }
        match next, x, y with
        | .lt, l :: x, y =>
          sayChars (shown '1' [] l)
          let found := { found with ofFirst := found.ofFirst + 1 }
          go (← found.checkNext checks true l x) bound x y
        | .gt, x, r :: y =>
          sayChars (shown '2' ['1'] r)
          let found := { found with ofSecond := found.ofSecond + 1 }
          go (← found.checkNext checks false r y) bound x y
        | .eq, l :: x, r :: y =>
          sayChars (shown '3' ['1', '2'] l)
          let found := { found with ofBoth := found.ofBoth + 1 }
          let found ← found.checkNext checks true l x
          go (← found.checkNext checks false r y) bound x y
        | _, _, _ => return found
    let found ← go {} (x.length + y.length + 1) x y
    if a.has 't' then
      let counts := [found.ofFirst, found.ofSecond, found.ofBoth].map fun n => Nat.toDigits 10 n
      sayChars (List.intercalate mark (counts ++ ["total".toList]) ++ [a.ender])
    if found.first || found.second then warn "input is not in sorted order"

end Modlet.Tool
