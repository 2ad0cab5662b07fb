import Modlet.Text.Integer
import Modlet.Text.Pieces

/-!
# What users may do with files

Reading, writing and running are three rights, each given to the owner of a file, to its group and
to all others: nine digits of a binary number. Three more digits before them say that a program runs
as its owner or its group, and that only owners take names out of a directory. A text tells changes
of them, such as `u=rwx,go-w`.
-/

namespace Modlet.Rights

/-- Rights given to some of owner, group and others. -/
def spread (who : List Char) (rights : Nat) : Nat :=
  (if who.contains 'u' then rights <<< 6 else 0) ||| (if who.contains 'g' then rights <<< 3 else 0)
    ||| (if who.contains 'o' then rights else 0)

/-- The rights that a letter stands for, given what all had before. -/
def ofLetter (before : Nat) : Char → Nat
  | 'r' => 4
  | 'w' => 2
  | 'x' => 1
  | 'X' => if before &&& 73 = 0 then 0 else 1
  | 'u' => before >>> 6 &&& 7
  | 'g' => before >>> 3 &&& 7
  | 'o' => before &&& 7
  | _ => 0

/-- The letters for classes of users. -/
def classes : List Char := ['u', 'g', 'o', 'a']

/-- The signs of changes. -/
def signs : List Char := ['+', '-', '=']

/-- The letters behind a sign. -/
def letters : List Char := ['r', 'w', 'x', 'X', 's', 'u', 'g', 'o']

/-- The rights after the changes that a text tells; nothing if it tells none. A class of users goes
on until a comma. -/
def go (before : Nat) : Nat → Option (List Char) → List Char → Nat → Option Nat
  | 0, _, _, now => some now
  | _, _, [], now => some now
  | bound + 1, none, text, now =>
    let who := text.takeWhile classes.contains
    let rest := text.drop who.length
    let all := who.isEmpty || who.contains 'a'
    if rest.isEmpty then some now
    else go before bound (some (if all then ['u', 'g', 'o'] else who)) rest now
  | bound + 1, some who, sign :: text, now =>
    let given := text.takeWhile letters.contains
    let rest := text.drop given.length
    let rights := spread who (given.foldl (fun n c => n ||| ofLetter before c) 0)
    let without (n : Nat) : Nat := now - (now &&& n)
    let now := match sign with
      | '+' => now ||| rights
      | '-' => without rights
      | _ => without (spread who 7) ||| rights
    if !signs.contains sign then none
    else
      match rest with
      | ',' :: rest => go before bound none rest now
      | rest => go before bound (some who) rest now

/-- The rights after the changes that a text tells; nothing if it tells none. -/
def change? (before : Nat) (text : List Char) : Option Nat :=
  go before (2 * text.length + 1) none text before

/-! ### Changes of what a file has -/

/-- A change of rights. -/
structure Change where
  /-- The rights of the classes of users that are named; nothing if none are. -/
  affected? : Option Nat
  sign : Char
  letters : List Char
deriving Repr

/-- The rights of the classes that letters name. -/
def affectedBy (who : List Char) : Nat :=
  who.foldl (fun n c =>
    n ||| match c with
      | 'u' => 0o4700
      | 'g' => 0o2070
      | 'o' => 0o1007
      | _ => 0o7777) 0

/-- The changes that a clause tells behind the classes it names. -/
def readChanges? (affected? : Option Nat) : Nat → List Char → Option (List Change)
  | 0, _ => none
  | _, [] => some []
  | bound + 1, sign :: text =>
    if !signs.contains sign then none
    else
      let copied := text.takeWhile fun c => ['u', 'g', 'o'].contains c
      let letters := if copied.isEmpty then text.takeWhile fun c => "rwxXst".toList.contains c
        else copied
      if copied.length > 1 then none
      else
        (readChanges? affected? bound (text.drop letters.length)).map
          ({ affected?, sign, letters } :: ·)

/-- The changes that a text tells: digits of base eight, or clauses with commas between them. -/
def changesOf? (text : List Char) : Option (List Change) :=
  if text.all (fun c => '0' ≤ c && c ≤ '7') && !text.isEmpty then
    if Integer.digitsValue 8 text ≤ 0o7777 then
      some [{ affected? := some 0o7777, sign := '0', letters := text }]
    else none
  else
    ((Text.pieces ',' text).mapM fun (clause : List Char) =>
      let who := clause.takeWhile classes.contains
      let rest := clause.drop who.length
      let affected? := if who.isEmpty then none else some (affectedBy who)
      if rest.isEmpty then none else readChanges? affected? (rest.length + 1) rest).map
        List.flatten

/-- The rights for all classes that a letter stands for, given what a file has. -/
def ofChangeLetter (isDirectory : Bool) (before : Nat) : Char → Nat
  | 'r' => 0o444
  | 'w' => 0o222
  | 'x' => 0o111
  | 'X' => if isDirectory || before &&& 0o111 ≠ 0 then 0o111 else 0
  | 's' => 0o6000
  | 't' => 0o1000
  | 'u' => (before >>> 6 &&& 7) * 0o111
  | 'g' => (before >>> 3 &&& 7) * 0o111
  | 'o' => (before &&& 7) * 0o111
  | _ => 0

/-- Rights without some. -/
def without (rights some_ : Nat) : Nat := rights - (rights &&& some_)

/-- The rights after a change. Where no classes are named, what is held back from new files is left
alone. What a directory says of its owner and group stays unless it is named. -/
def Change.apply (mask : Nat) (isDirectory : Bool) (before : Nat) (c : Change) : Nat :=
  let isDigits := c.sign = '0'
  let value := if isDigits then Integer.digitsValue 8 c.letters
    else c.letters.foldl (fun n letter => n ||| ofChangeLetter isDirectory before letter) 0
  let named := if isDigits then value ||| (if c.letters.length > 4 then 0o6000 else 0)
    else if c.letters.contains 's' then 0o6000 else 0
  let omitted := if isDirectory then without 0o6000 named else 0
  let value := value &&& without (c.affected?.getD (without 0o7777 mask)) omitted
  match c.sign with
  | '+' => before ||| value
  | '-' => without before value
  | _ =>
    let preserved := (c.affected?.map (without 0o7777)).getD 0 ||| omitted
    (before &&& preserved) ||| value

/-- The rights after changes. -/
def applyAll (mask : Nat) (isDirectory : Bool) (before : Nat) (changes : List Change) : Nat :=
  changes.foldl (Change.apply mask isDirectory) before

/-- Rights in letters. -/
def letterText (rights : Nat) : String :=
  let bit (n : Nat) : Bool := rights >>> n &&& 1 = 1
  let triple (n special : Nat) (sign : Char) : List Char :=
    let last := match bit n, bit special with
      | true, true => sign
      | false, true => sign.toUpper
      | true, false => 'x'
      | false, false => '-'
    [if bit (n + 2) then 'r' else '-', if bit (n + 1) then 'w' else '-', last]
  String.ofList (triple 6 11 's' ++ triple 3 10 's' ++ triple 0 9 't')

end Modlet.Rights
