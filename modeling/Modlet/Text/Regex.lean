import Modlet.Text.Glob
import Modlet.Text.Integer

/-!
# Regular expressions

A regular expression stands for texts. It is written in one of two ways: basic, where some operators
have a backslash in front, or extended, where they have none. Dialects differ in what they take for
a mistake. A match begins as early as it can and
is then as long as it can be; what the groups of the expression stand for is kept.
-/

namespace Modlet

/-- A regular expression. -/
inductive Regex
  | empty
  | char (c : Char)
  | any
  /-- A character in a list, or in none of it. -/
  | among (others : Bool) (ranges : List Glob.Range)
  /-- The front of the text, or of a line. -/
  | front
  /-- The end of the text, or of a line. -/
  | back
  /-- The front of the text. -/
  | start
  /-- The end of the text. -/
  | finish
  /-- An edge of a word: its front, its end, either or neither. -/
  | edge (opens closes : Bool)
  | noEdge
  | both (first second : Regex)
  | either (first second : Regex)
  | repeated (least : Nat) (most : Option Nat) (body : Regex)
  | group (number : Nat) (body : Regex)
  /-- What a group stands for, once more. -/
  | again (number : Nat)
deriving Repr

namespace Regex

/-! ### Matching -/

/-- A text that is searched. -/
structure Subject where
  text : Array Char
  /-- Upper and lower case make no difference. -/
  folds : Bool := false
  /-- The lines of the text are searched, each for itself unless line ends are asked for. -/
  lines : Bool := false
  /-- It makes a difference to a match what its groups stand for. -/
  exact : Bool := false

/-- How far a match has come, and what its groups stand for so far. -/
structure Progress where
  place : Nat
  groups : List (Nat × Nat × Nat) := []
deriving DecidableEq, Repr

/-- Whether a character belongs to a word. -/
def isWordPart (c : Char) : Bool := c.isAlphanum || c = '_'

namespace Subject

/-- Whether two characters count as the same. -/
def same (s : Subject) (a b : Char) : Bool :=
  a = b || (s.folds && a.toLower = b.toLower)

/-- Whether a character is in a list. -/
def isAmong (s : Subject) (ranges : List Glob.Range) (c : Char) : Bool :=
  let has (c : Char) : Bool := ranges.any (Glob.Range.has c)
  has c || (s.folds && (has c.toLower || has c.toUpper))

/-- Whether a word stands before a place. -/
def wordBefore (s : Subject) (place : Nat) : Bool :=
  match place with
  | 0 => false
  | n + 1 => (s.text[n]?).any isWordPart

/-- Whether a word stands behind a place. -/
def wordBehind (s : Subject) (place : Nat) : Bool := (s.text[place]?).any isWordPart

/-- The part of the text between two places. -/
def part (s : Subject) (first last : Nat) : List Char := (s.text.extract first last).toList

end Subject

/-- Leaves out what is there already. -/
def distinct : List Progress → List Progress
  | [] => []
  | p :: rest => p :: (distinct rest).filter (· ≠ p)

/-- Goes on with one character. -/
def step (s : Subject) (fits : Char → Bool) (p : Progress) : List Progress :=
  match s.text[p.place]? with
  | some c => if fits c then [{ p with place := p.place + 1 }] else []
  | none => []

/-- Goes on at once if something holds. -/
def stay (holds : Bool) (p : Progress) : List Progress := if holds then [p] else []

/-- What rounds of a repetition have come to. -/
structure Rounds where
  /-- All that they can come to, the better ones last. -/
  found : List Progress := []
  /-- Where they have been, with the number of rounds if that makes a difference. -/
  seen : List (Nat × Progress) := []

/-- Goes on with rounds of a repetition as far as that can be done. Rounds beyond the least number
have to come further, and go on from each place once only. -/
def rounds (once : Progress → List Progress) (exact : Bool) (least : Nat) (most : Option Nat) :
    Nat → Nat → Progress → Rounds → Rounds
  | 0, _, _, r => r
  | bound + 1, done, p, r =>
    let key := (if most.isSome then done else 0, if exact then p else { place := p.place })
    if done ≥ least && r.seen.contains key then r
    else
      let r := if done ≥ least then { r with seen := key :: r.seen } else r
      let more := if most = some done then [] else
        (once p).filter fun q => done < least || q.place > p.place
      let r := more.foldl (fun r q => rounds once exact least most bound (done + 1) q r) r
      if done ≥ least then { r with found := p :: r.found } else r

/-- All that a match can come to, the better ones first. -/
def follow (s : Subject) : Regex → Progress → List Progress
  | .empty, p => [p]
  | .char c, p => step s (s.same c) p
  | .any, p => step s (fun c => !(s.lines && c = '\n')) p
  | .among others ranges, p =>
    step s (fun c => s.isAmong ranges c != others && !(s.lines && others && c = '\n')) p
  | .front, p => stay (p.place = 0 || (s.lines && s.text[p.place - 1]? = some '\n')) p
  | .back, p => stay (p.place = s.text.size || (s.lines && s.text[p.place]? = some '\n')) p
  | .start, p => stay (p.place = 0) p
  | .finish, p => stay (p.place = s.text.size) p
  | .edge opens closes, p =>
    let before := s.wordBefore p.place
    let behind := s.wordBehind p.place
    stay ((opens && !before && behind) || (closes && before && !behind)) p
  | .noEdge, p => stay (s.wordBefore p.place = s.wordBehind p.place) p
  | .both first second, p => distinct ((follow s first p).flatMap (follow s second))
  | .either first second, p =>
    (distinct (follow s first p ++ follow s second p)).mergeSort fun a b => a.place ≥ b.place
  | .repeated least most body, p =>
    (rounds (follow s body) s.exact least most (s.text.size + least + 1) 0 p {}).found.reverse
  | .group number body, p =>
    (follow s body p).map fun q =>
      { q with groups := (number, p.place, q.place) :: q.groups.filter (·.1 ≠ number) }
  | .again number, p =>
    match p.groups.lookup number with
    | none => []
    | some (first, last) =>
      let wanted := s.part first last
      let found := s.part p.place (p.place + wanted.length)
      let isSame := found.length = wanted.length
        && (wanted.zip found).all fun pair => s.same pair.1 pair.2
      if isSame then [{ p with place := p.place + wanted.length }] else []

/-- Whether a group is wanted once more somewhere. -/
def refersBack : Regex → Bool
  | .both a b | .either a b => refersBack a || refersBack b
  | .repeated _ _ a | .group _ a => refersBack a
  | .again _ => true
  | _ => false

/-- A text to be searched for a regular expression. -/
def subject (r : Regex) (folds : Bool) (text : List Char) : Subject :=
  { text := text.toArray, folds, exact := r.refersBack }

/-- A match: where it begins, and how far it comes. -/
structure Match where
  start : Nat
  finish : Nat
  groups : List (Nat × Nat × Nat)
deriving Repr

/-- The longest match at a place. -/
def matchAt? (r : Regex) (s : Subject) (place : Nat) : Option Match :=
  match follow s r { place } with
  | [] => none
  | first :: others =>
    let best := others.foldl (fun best p => if p.place > best.place then p else best) first
    some { start := place, finish := best.place, groups := best.groups }

/-- The first match from a place on. -/
def search? (r : Regex) (s : Subject) (place : Nat) : Option Match :=
  (List.range (s.text.size + 1 - place)).findSome? fun n => r.matchAt? s (place + n)

/-- What a group of a match stands for; group nought is all of it. -/
def Match.group (m : Match) (s : Subject) (number : Nat) : List Char :=
  if number = 0 then s.part m.start m.finish
  else
    match m.groups.lookup number with
    | some (first, last) => s.part first last
    | none => []

/-! ### Reading -/

/-- How regular expressions are written. -/
structure Dialect where
  /-- Operators have no backslash in front. -/
  extended : Bool := false
  /-- What has no place where it stands is taken for something else: an operator at the front
  repeats nothing, and what closes nothing or is no interval stands for itself. -/
  lenient : Bool := false
  /-- Nothing can be repeated twice. -/
  strict : Bool := false
  /-- A range can end before it begins, and then there is nothing in it. -/
  emptyRanges : Bool := false
deriving Repr

namespace Dialect

/-- Basic regular expressions. -/
def basic : Dialect := {}

/-- Basic regular expressions as the stream editor takes them. -/
def strictBasic : Dialect := { strict := true }

/-- Basic regular expressions as calculations take them. -/
def looseBasic : Dialect := { emptyRanges := true }

/-- Extended regular expressions. -/
def ofExtended : Dialect := { extended := true }

/-- Extended regular expressions that take as much as they can. -/
def lenientExtended : Dialect := { extended := true, lenient := true }

end Dialect

/-- What reading a regular expression has come to. -/
structure Reader where
  /-- What is left. -/
  rest : List Char
  /-- The number of groups so far. -/
  groups : Nat := 0
  /-- The groups that are complete. -/
  closed : List Nat := []
  /-- The number of groups that are open. -/
  depth : Nat := 0
  /-- What has no place where it stands. -/
  warnings : List String := []

/-- A part of reading; a mistake is told by its text. -/
abbrev Reading := EStateM String Reader

/-- A sign of a regular expression. -/
inductive Sign
  | char (c : Char)
  | any | front | back | star | plus | question | bar | opening | closing
  | interval
  | list
  | again (number : Nat)
  | special (regex : Regex)
deriving Repr

/-- The characters that can be words. -/
def wordRanges : List Glob.Range := [.named "alnum", .between '_' '_']

/-- What a letter behind a backslash stands for, in both ways of writing. -/
def letterSign? : Char → Option Sign
  | 'w' => some (.special (.among false wordRanges))
  | 'W' => some (.special (.among true wordRanges))
  | 's' => some (.special (.among false [.named "space"]))
  | 'S' => some (.special (.among true [.named "space"]))
  | 'b' => some (.special (.edge true true))
  | 'B' => some (.special .noEdge)
  | '<' => some (.special (.edge true false))
  | '>' => some (.special (.edge false true))
  | '\x60' => some (.special .start)
  | '\'' => some (.special .finish)
  | c => if '1' ≤ c && c ≤ '9' then some (.again (c.toNat - 48)) else none

/-- The sign that an operator is. -/
def operatorSign? : Char → Option Sign
  | '+' => some .plus
  | '?' => some .question
  | '|' => some .bar
  | '(' => some .opening
  | ')' => some .closing
  | '\x7b' => some .interval
  | _ => none

/-- The next sign, and what stands behind it. -/
def sign? (extended : Bool) (text : List Char) : Except String (Option (Sign × List Char)) :=
  match text with
  | [] => .ok none
  | '\\' :: rest =>
    match rest with
    | [] => .error "Trailing backslash"
    | c :: rest =>
      match letterSign? c with
      | some sign => .ok (some (sign, rest))
      | none =>
        match if extended then none else operatorSign? c with
        | some sign => .ok (some (sign, rest))
        | none => .ok (some (.char c, rest))
  | c :: rest =>
    let sign := match c with
      | '.' => Sign.any
      | '*' => .star
      | '^' => .front
      | '$' => .back
      | '[' => .list
      | c => (if extended then operatorSign? c else none).getD (.char c)
    .ok (some (sign, rest))

/-- The mistake of an interval without numbers that can be used. -/
def badInterval : String := "Invalid content of \\\x7b\\\x7d"

/-- The mistake of a list that is not ended. -/
def openList : String := "Unmatched [, [^, [:, [., or [="

/-- The mistake of a range whose ends are none. -/
def badRange : String := "Invalid range end"

/-- The mistake of an operator without anything that it could be for. -/
def badOperand : String := "Invalid preceding regular expression"

/-- The numbers of an interval, and what stands behind its end; nothing if it is none. -/
def interval? (extended : Bool) (text : List Char) : Option (Nat × Option Nat × List Char) :=
  let first := text.takeWhile Char.isDigit
  let rest := text.drop first.length
  let (second, rest) := match rest with
    | ',' :: behind =>
      let digits := behind.takeWhile Char.isDigit
      (some digits, behind.drop digits.length)
    | rest => (none, rest)
  let number (digits : List Char) : Nat := Integer.digitsValue 10 digits
  let most := match second with
    | none => some (number first)
    | some [] => none
    | some digits => some (number digits)
  let close (rest : List Char) : Option (List Char) :=
    match extended, rest with
    | true, '\x7d' :: rest => some rest
    | false, '\\' :: '\x7d' :: rest => some rest
    | _, _ => none
  if first.isEmpty && second.isNone then none
  else (close rest).map fun rest => (number first, most, rest)

/-- Whether an interval is not ended. -/
def isOpenInterval (text : List Char) : Bool :=
  (text.dropWhile fun c => c.isDigit || c = ',').isEmpty

/-- The names of classes of characters. -/
def classNames : List String :=
  ["alnum", "alpha", "blank", "cntrl", "digit", "graph", "lower", "print", "punct", "space",
    "upper", "xdigit"]

/-- The name of something in a list, up to a mark with a closing bracket behind it, and what stands
behind that. -/
def listName (mark : Char) : List Char → Except String (List Char × List Char)
  | c :: d :: rest =>
    if c = mark && d = ']' then .ok ([], rest)
    else do
      let (name, rest) ← listName mark (d :: rest)
      .ok (c :: name, rest)
  | _ => .error openList

/-- What stands at a place in a list. -/
inductive Member
  | char (c : Char)
  | range (range : Glob.Range)

/-- What stands at a place in a list, and what stands behind it. -/
def listMember : List Char → Except String (Member × List Char)
  | [] => .error openList
  | '[' :: mark :: rest => do
    let single (name : List Char) : Except String Char :=
      match name with
      | [c] => .ok c
      | _ => .error "Invalid collation character"
    if mark = ':' then
      let (name, rest) ← listName ':' rest
      if classNames.contains (String.ofList name) then
        .ok (.range (.named (String.ofList name)), rest)
      else .error "Invalid character class name"
    else if mark = '=' then
      let (name, rest) ← listName '=' rest
      let c ← single name
      .ok (.range (.between c c), rest)
    else if mark = '.' then
      let (name, rest) ← listName '.' rest
      .ok (.char (← single name), rest)
    else .ok (.char '[', mark :: rest)
  | c :: rest => .ok (.char c, rest)

/-- The members of a list, and what stands behind its closing bracket. At the front there has to be
one. -/
def readRanges (d : Dialect) (front : Bool) : Nat → List Char →
    Except String (List Glob.Range × List Char)
  | 0, _ => .error openList
  | bound + 1, text => do
    let more (range : Glob.Range) (rest : List Char) :
        Except String (List Glob.Range × List Char) := do
      let (ranges, rest) ← readRanges d false bound rest
      .ok (range :: ranges, rest)
    match front, text with
    | false, ']' :: rest => .ok ([], rest)
    | true, [] => .error "Invalid regular expression"
    | false, '-' :: c :: rest =>
      if c = ']' then more (.between '-' '-') (c :: rest) else .error badRange
    | _, text =>
      match ← listMember text with
      | (.range range, rest) => more range rest
      | (.char c, '-' :: []) => more (.between c c) ['-']
      | (.char c, '-' :: ']' :: rest) => more (.between c c) ('-' :: ']' :: rest)
      | (.char c, '-' :: rest) =>
        match ← listMember rest with
        | (.range _, _) => .error badRange
        | (.char last, rest) =>
          if last < c && !d.emptyRanges then .error badRange else more (.between c last) rest
      | (.char c, rest) => more (.between c c) rest

/-- The mistake of a class of characters that is not in a list. -/
def bareClass : String := "character class syntax is [[:space:]], not [:space:]"

/-- Whether a text has the look of a class of characters in it that is not in a list. -/
def hasBareClass : List Char → Bool
  | '\\' :: _ :: rest => hasBareClass rest
  | '[' :: ':' :: rest =>
    let inner := rest.takeWhile (· ≠ ']')
    (inner.getLast? = some ':' && inner.length < rest.length) || hasBareClass rest
  | '[' :: rest =>
    hasBareClass (rest.drop ((rest.drop 1).takeWhile (· ≠ ']')).length)
  | _ :: rest => hasBareClass rest
  | [] => false
termination_by text => text.length

/-- The character of an operator. -/
def characterOf : Sign → Char
  | .plus => '+'
  | .question => '?'
  | .interval => '\x7b'
  | _ => '*'

/-- How an operator is called in a warning. -/
def warningFor : Sign → String
  | .interval => "\x7b...\x7d at start of expression"
  | sign => String.ofList [characterOf sign] ++ " at start of expression"

/-- Sets what is left. -/
def leave (rest : List Char) : Reading Unit := modify fun r => { r with rest }

/-- Goes on with operators behind a part. -/
def readRepeats (d : Dialect) : Nat → Regex → Reading Regex
  | 0, body => return body
  | bound + 1, body => do
    match sign? d.extended (← get).rest with
    | .error e => throw e
    | .ok none => return body
    | .ok (some (sign, rest)) =>
      let go (least : Nat) (most : Option Nat) (rest : List Char) : Reading Regex := do
        leave rest
        if d.strict then
          match sign? d.extended rest with
          | .ok (some (.star, _)) | .ok (some (.interval, _)) => throw badOperand
          | _ => pure ()
        readRepeats d bound (.repeated least most body)
      match sign with
      | .star => go 0 none rest
      | .plus => go 1 none rest
      | .question => go 0 (some 1) rest
      | .interval =>
        match interval? d.extended rest with
        | some (least, most, rest) =>
          if most.any (· < least) then throw badInterval
          else if least > 32767 || most.any (· > 32767) then throw "Regular expression too big"
          else go least most rest
        | none =>
          if d.lenient then return body
          else if isOpenInterval rest then throw "Unmatched \\\x7b"
          else throw badInterval
      | _ => return body

/-- Whether an end of line is meant where a dollar sign stands. -/
def isBackHere (extended : Bool) (rest : List Char) : Bool :=
  extended || rest.isEmpty || rest.take 2 = ['\\', ')'] || rest.take 2 = ['\\', '|']
    || rest.head? = some '\n'

mutual

/-- Reads alternatives. -/
def readEither (d : Dialect) : Nat → Reading Regex
  | 0 => throw "Regular expression too big"
  | bound + 1 => do
    let first ← readBoth d bound true .empty
    match sign? d.extended (← get).rest with
    | .ok (some (.bar, rest)) =>
      leave rest
      return .either first (← readEither d bound)
    | _ => return first

/-- Reads parts behind one another. -/
def readBoth (d : Dialect) : Nat → Bool → Regex → Reading Regex
  | 0, _, _ => throw "Regular expression too big"
  | bound + 1, isFirst, before => do
    let r ← get
    let behind (part : Regex) : Regex :=
      match before with
      | .empty => part
      | before => .both before part
    let add (atom : Regex) (rest : List Char) : Reading Regex := do
      leave rest
      let part ← readRepeats d (rest.length + 1) atom
      readBoth d bound false (behind part)
    let anchor (atom : Regex) (rest : List Char) : Reading Regex := do
      leave rest
      match d.lenient, sign? d.extended rest with
      | true, .ok (some (sign, inner)) =>
        let repeats : Bool := match sign with
          | .star | .plus | .question => true
          | .interval => (interval? true inner).isSome
          | _ => false
        if repeats then
          modify fun r => { r with warnings := r.warnings ++ [warningFor sign] }
          add atom rest
        else readBoth d bound true (behind atom)
      | _, _ => readBoth d bound true (behind atom)
    match sign? d.extended r.rest with
    | .error e => throw e
    | .ok none => return before
    | .ok (some (sign, rest)) =>
      match sign with
      | .bar => return before
      | .closing =>
        if r.depth > 0 then return before
        else if d.lenient then add (.char ')') rest
        else throw "Unmatched ) or \\)"
      | .opening =>
        let number := r.groups + 1
        set { r with rest, groups := number, depth := r.depth + 1 }
        let body ← readEither d bound
        match sign? d.extended (← get).rest with
        | .ok (some (.closing, rest)) =>
          modify fun r => { r with depth := r.depth - 1, closed := number :: r.closed }
          add (.group number body) rest
        | _ => throw "Unmatched ( or \\("
      | .again number =>
        if r.closed.contains number then add (.again number) rest
        else throw "Invalid back reference"
      | .front => if d.extended || isFirst then anchor .front rest else add (.char '^') rest
      | .back =>
        if isBackHere d.extended rest then
          leave rest
          readBoth d bound d.extended (behind .back)
        else add (.char '$') rest
      | .list =>
        let (others, inner) := match rest with
          | '^' :: rest => (true, rest)
          | rest => (false, rest)
        match readRanges d true (inner.length + 1) inner with
        | .ok (ranges, rest) => add (.among others ranges) rest
        | .error e => throw e
      | .char c => add (.char c) rest
      | .any => add .any rest
      | .special regex => add regex rest
      | .star | .plus | .question | .interval =>
        let isInterval := sign matches .interval
        let repeats := isFirst && !(d.lenient && isInterval && (interval? true rest).isNone)
        if d.extended && repeats then
          if d.lenient then
            modify fun r => { r with warnings := r.warnings ++ [warningFor sign] }
            leave r.rest
            let part ← readRepeats d (rest.length + 2) .empty
            readBoth d bound true (behind part)
          else throw badOperand
        else if d.strict && isInterval then throw badOperand
        else add (.char (characterOf sign)) rest

end

/-- What a text says as a regular expression. -/
structure Written where
  regex : Regex
  /-- The number of groups. -/
  groups : Nat
  /-- What has no place where it stands. -/
  warnings : List String

/-- The regular expression that a text is, or the mistake in it. -/
def ofText (d : Dialect) (text : List Char) : Except String Written :=
  match (readEither d (4 * text.length + 8)).run { rest := text } with
  | .ok regex r =>
    if r.rest.isEmpty then .ok { regex, groups := r.groups, warnings := r.warnings }
    else .error "Unmatched ) or \\)"
  | .error e _ => .error e

/-- The regular expression for a text that stands for itself. -/
def ofLiteral (text : List Char) : Regex :=
  text.foldr (fun c rest => match rest with
    | .empty => .char c
    | rest => .both (.char c) rest) .empty

end Regex

end Modlet
