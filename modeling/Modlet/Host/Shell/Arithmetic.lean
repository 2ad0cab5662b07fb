import Modlet.Host.Shell.Script
import Modlet.Text.Integer

/-!
# Calculations of the shell

A calculation is put together from numbers and variables with the operators of C, and may set
variables. It is read as a whole before it is done, and what is before a mistake in it is done too.
Numbers have 64 bits.
-/

namespace Modlet.Shell

/-- An operator with two operands. -/
inductive Operator
  | times | over | modulo | plus | minus | shiftLeft | shiftRight | less | lessEqual | greater
  | greaterEqual | equal | unequal | bitAnd | bitXor | bitOr
deriving DecidableEq, Repr

/-- How weakly an operator binds. -/
def Operator.looseness : Operator → Nat
  | .times | .over | .modulo => 0
  | .plus | .minus => 1
  | .shiftLeft | .shiftRight => 2
  | .less | .lessEqual | .greater | .greaterEqual => 3
  | .equal | .unequal => 4
  | .bitAnd => 5
  | .bitXor => 6
  | .bitOr => 7

/-- An operator with one operand. -/
inductive Sign
  | minus
  | not
  | bitNot
deriving DecidableEq, Repr

/-- A calculation. -/
inductive Calculation
  | number (n : Int)
  | variable (name : Octets)
  | signed (sign : Sign) (a : Calculation)
  | binary (operator : Operator) (a b : Calculation)
  | and (a b : Calculation)
  | or (a b : Calculation)
  | choice (test yes no : Calculation)
  | set (name : Octets) (operator : Option Operator) (value : Calculation)
  /-- Two calculations one after the other, of which the second gives the result. -/
  | sequence (a b : Calculation)
  /-- A place at which something else is expected. -/
  | mistake (message : Octets)
deriving Repr

namespace Calculation

/-- A token of a calculation. -/
inductive Item
  | number (n : Int)
  | variable (name : Octets)
  | operator (operator : Operator)
  | set (operator : Option Operator)
  | and | or | not | bitNot | question | colon | opening | closing
  /-- No token that is known. -/
  | unknown
deriving DecidableEq, Repr

/-- The operators, each with what it is written as; the longer ones first. -/
def operators : List (String × Item) :=
  [("<<=", .set (some .shiftLeft)), (">>=", .set (some .shiftRight)), ("&&", .and), ("||", .or),
    ("<<", .operator .shiftLeft), (">>", .operator .shiftRight), ("<=", .operator .lessEqual),
    (">=", .operator .greaterEqual), ("==", .operator .equal), ("!=", .operator .unequal),
    ("+=", .set (some .plus)), ("-=", .set (some .minus)), ("*=", .set (some .times)),
    ("/=", .set (some .over)), ("%=", .set (some .modulo)), ("&=", .set (some .bitAnd)),
    ("^=", .set (some .bitXor)), ("|=", .set (some .bitOr)), ("=", .set none), ("!", .not),
    ("~", .bitNot), ("?", .question), (":", .colon), ("(", .opening), (")", .closing),
    ("*", .operator .times), ("/", .operator .over), ("%", .operator .modulo),
    ("+", .operator .plus), ("-", .operator .minus), ("<", .operator .less),
    (">", .operator .greater), ("&", .operator .bitAnd), ("^", .operator .bitXor),
    ("|", .operator .bitOr)]

/-- The tokens of a text. What cannot be read is a token of its own, and the last. -/
def items : Nat → List Char → List Item
  | 0, _ => []
  | bound + 1, text =>
    match text with
    | [] => []
    | c :: rest =>
      if c = ' ' || c = '\t' || c = '\n' then items bound rest
      else if c.isDigit then
        match Integer.read? 0 text with
        | some (n, rest) => .number (Integer.clamp n) :: items bound rest
        | none => [.unknown]
      else if isNameStart c then
        let name := text.takeWhile isNamePart
        .variable (String.ofList name) :: items bound (text.drop name.length)
      else
        match operators.find? fun entry => entry.1.toList.isPrefixOf text with
        | some (written, item) => item :: items bound (text.drop written.length)
        | none => [.unknown]

/-- A part of a calculation, and what is left behind it. Behind a mistake there is nothing. -/
abbrev Part := Calculation × List Item

/-- The part that is a mistake. -/
def Part.mistake (message : Octets) : Part := (.mistake message, [])

mutual

/-- A number, a variable, or anything in parentheses or with a sign. -/
def readPrimary : Nat → List Item → Part
  | 0, _ => .mistake "expecting primary"
  | bound + 1, items =>
    let signed (sign : Sign) (rest : List Item) : Part :=
      let (a, rest) := readPrimary bound rest
      (.signed sign a, rest)
    match items with
    | .opening :: rest =>
      let (a, rest) := readSetting bound rest
      match rest with
      | .closing :: rest => (a, rest)
      | _ => (.sequence a (.mistake "expecting ')'"), [])
    | .number n :: rest => (.number n, rest)
    | .variable name :: rest => (.variable name, rest)
    | .operator .plus :: rest => readPrimary bound rest
    | .operator .minus :: rest => signed .minus rest
    | .not :: rest => signed .not rest
    | .bitNot :: rest => signed .bitNot rest
    | _ => .mistake "expecting primary"

/-- Goes on with operators that bind less weakly than `limit`. -/
def readBinary : Nat → Nat → Part → Part
  | 0, _, part => part
  | bound + 1, limit, (a, items) =>
    match items with
    | .operator operator :: rest =>
      if operator.looseness < limit then
        let part := readPrimary bound rest
        let (b, rest) := readBinary bound operator.looseness part
        readBinary bound limit (.binary operator a b, rest)
      else (a, items)
    | _ => (a, items)

/-- Operands that are both wanted. -/
def readAnd : Nat → List Item → Part
  | 0, _ => .mistake "expecting primary"
  | bound + 1, items =>
    let (a, rest) := readBinary bound 8 (readPrimary bound items)
    match rest with
    | .and :: rest =>
      let (b, rest) := readAnd bound rest
      (.and a b, rest)
    | _ => (a, rest)

/-- Operands of which one is wanted. -/
def readOr : Nat → List Item → Part
  | 0, _ => .mistake "expecting primary"
  | bound + 1, items =>
    let (a, rest) := readAnd bound items
    match rest with
    | .or :: rest =>
      let (b, rest) := readOr bound rest
      (.or a b, rest)
    | _ => (a, rest)

/-- A choice between two results. -/
def readChoice : Nat → List Item → Part
  | 0, _ => .mistake "expecting primary"
  | bound + 1, items =>
    let (test, rest) := readOr bound items
    match rest with
    | .question :: rest =>
      let (yes, rest) := readSetting bound rest
      match rest with
      | .colon :: rest =>
        let (no, rest) := readChoice bound rest
        (.choice test yes no, rest)
      | _ => (.choice test yes (.mistake "expecting ':'"), [])
    | _ => (test, rest)

/-- Anything, also what sets a variable. -/
def readSetting : Nat → List Item → Part
  | 0, _ => .mistake "expecting primary"
  | bound + 1, items =>
    match items with
    | .variable name :: .set operator :: rest =>
      let (value, rest) := readSetting bound rest
      (.set name operator value, rest)
    | items => readChoice bound items

end

/-- The calculation that a text is. -/
def ofText (text : List Char) : Calculation :=
  let items := items (text.length + 1) text
  match readSetting (8 * items.length + 8) items with
  | (a, []) => a
  | (a, _) => .sequence a (.mistake "expecting EOF")

/-- The first mistake in a calculation. -/
def mistake? : Calculation → Option Octets
  | .number _ | .variable _ => none
  | .signed _ a | .set _ _ a => a.mistake?
  | .binary _ a b | .and a b | .or a b | .sequence a b => a.mistake?.or b.mistake?
  | .choice a b c => (a.mistake?.or b.mistake?).or c.mistake?
  | .mistake message => some message

/-- One for what holds, and zero else. -/
def truth (holds : Bool) : Int := if holds then 1 else 0

/-- Applies a function to the bits of two numbers. -/
def bitwise (f : Nat → Nat → Nat) (a b : Int) : Int :=
  let word (n : Int) : Nat := (n % 0x10000000000000000).toNat
  Integer.wrap (f (word a) (word b))

/-- The result of an operator; nothing for a division by zero. -/
def Operator.apply? (operator : Operator) (a b : Int) : Option Int :=
  match operator with
  | .times => some (Integer.wrap (a * b))
  | .over => if b = 0 then none else some (Integer.wrap (Int.tdiv a b))
  | .modulo => if b = 0 then none else some (Int.tmod a b)
  | .plus => some (Integer.wrap (a + b))
  | .minus => some (Integer.wrap (a - b))
  | .shiftLeft => some (Integer.wrap (a * Int.pow 2 (b % 64).toNat))
  | .shiftRight => some (a / Int.pow 2 (b % 64).toNat)
  | .less => some (truth (a < b))
  | .lessEqual => some (truth (a ≤ b))
  | .greater => some (truth (a > b))
  | .greaterEqual => some (truth (a ≥ b))
  | .equal => some (truth (a = b))
  | .unequal => some (truth (a ≠ b))
  | .bitAnd => some (bitwise Nat.land a b)
  | .bitXor => some (bitwise Nat.xor a b)
  | .bitOr => some (bitwise Nat.lor a b)

/-- What a calculation needs of the shell. -/
structure Access (m : Type → Type) where
  /-- The value of a variable. -/
  get : Octets → m Int
  /-- Sets a variable. -/
  set : Octets → Int → m Unit
  /-- Gives up. -/
  refuse : Octets → m Int
  /-- Comes to an end at a division whose result is too great. -/
  burst : m Int

/-- Calculates with an operator. -/
def operate {m : Type → Type} [Monad m] (access : Access m) (operator : Operator) (a b : Int) :
    m Int :=
  if (operator = .over || operator = .modulo) && a = Integer.least && b = -1 then access.burst
  else
    match Operator.apply? operator a b with
    | some n => return n
    | none => access.refuse "division by zero"

/-- Leaves out a calculation, in which there may not be a mistake. -/
def skip {m : Type → Type} [Monad m] (access : Access m) (a : Calculation) : m Unit := do
  if let some message := a.mistake? then
    let _ ← access.refuse message

/-- Does a calculation. Operands that make no difference are left out. -/
def run {m : Type → Type} [Monad m] (access : Access m) : Calculation → m Int
  | .number n => return n
  | .variable name => access.get name
  | .signed sign a => do
    let n ← run access a
    return match sign with
      | .minus => Integer.wrap (-n)
      | .not => truth (n = 0)
      | .bitNot => -n - 1
  | .binary operator a b => do
    let x ← run access a
    let y ← run access b
    operate access operator x y
  | .and a b => do
    if (← run access a) = 0 then
      skip access b
      return 0
    else return truth ((← run access b) ≠ 0)
  | .or a b => do
    if (← run access a) ≠ 0 then
      skip access b
      return 1
    else return truth ((← run access b) ≠ 0)
  | .choice test yes no => do
    if (← run access test) ≠ 0 then
      let n ← run access yes
      skip access no
      return n
    else
      skip access yes
      run access no
  | .set name operator value => do
    let n ← run access value
    let n ← match operator with
      | none => pure n
      | some operator => do operate access operator (← access.get name) n
    access.set name n
    return n
  | .sequence a b => do
    let _ ← run access a
    run access b
  | .mistake message => access.refuse message

end Calculation

end Modlet.Shell
