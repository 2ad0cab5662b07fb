import Modlet.Host.Shell.Format
import Modlet.Host.Tool.Basic

/-!
# Writing by a format

A format is written with the arguments behind it filled in, again and again as long as it takes some
and there are some left. It knows more escapes than a shell does, and fewer combinations of flags.
-/

namespace Modlet.Tool

open Job

/-- Something that is done with the arguments that are left. -/
abbrev Filling := StateT (List Octets) Job

namespace Filling

/-- The next argument; an empty one if there is none. -/
def next : Filling Octets := do
  match ← get with
  | [] => return ""
  | arg :: args =>
    set args
    return arg

/-- Tells that there is something wrong with an argument. -/
def blame (arg : Octets) (message : Octets) : Filling Unit := do
  warn (quote arg ++ ": " ++ message)

/-- Checks that a number is all of an argument. -/
def check (arg : Octets) (rest : List Char) : Filling Unit := do
  if rest.isEmpty then return
  else if rest = arg.toList then blame arg "expected a numeric value"
  else blame arg "value not completely converted"

/-- The number of the character behind a quote, if an argument begins with one and has one. -/
def quoted? (arg : Octets) : Filling (Option Nat) := do
  match arg.toList with
  | q :: c :: rest =>
    if q = '"' || q = '\'' then
      if !rest.isEmpty then
        complain ("warning: " ++ String.ofList rest
          ++ ": character(s) following character constant have been ignored")
      return some c.toNat
    else return none
  | _ => return none

/-- The next argument as a whole number between two. -/
def number (least greatest : Int) : Filling Int := do
  let arg ← next
  match ← quoted? arg with
  | some n => return n
  | none =>
    match Integer.read? 0 arg.toList with
    | none =>
      check arg arg.toList
      return 0
    | some (n, rest) =>
      if n < least || n > greatest then blame arg (reason (.system 34))
      else check arg rest
      return max least (min greatest n)

/-- The next argument as a number with a fraction. -/
def fractional : Filling Fractional := do
  let arg ← next
  match ← quoted? arg with
  | some n => return .ofInt n
  | none =>
    match Fractional.read? .extended arg.toList with
    | none =>
      check arg arg.toList
      return .zero
    | some r =>
      if r.strays then blame arg (reason (.system 34)) else check arg r.rest
      return r.value

/-- The number of digits of base sixteen at the front of a text, which has to have as many. -/
def hexNumber (count : Nat) (text : List Char) : Filling Nat := do
  let digits := (text.take count).takeWhile fun c => Integer.digitValue c < 16
  if digits.length < count then fail 1 "missing hexadecimal number in escape"
  return Integer.digitsValue 16 digits

/-- The text of a character with a number, which is an escape if it is not ASCII. -/
def characterText (letter : Char) (width n : Nat) : Filling (List Char) := do
  let digits (n : Nat) : List Char := Fractional.padFront width '0' (Nat.toDigits 16 n)
  if (n ≤ 0x9f && !([0x24, 0x40, 0x60].contains n)) || (0xd800 ≤ n && n ≤ 0xdfff) then
    fail 1 ("invalid universal character name \\" ++ String.ofList (letter :: digits n))
  else if n < 128 then return [Char.ofNat n]
  else
    let (letter, width) := if n ≤ 0xffff then ('u', 4) else ('U', 8)
    let digits := Fractional.padFront width '0' (Nat.toDigits 16 n)
    return '\\' :: letter :: digits.map Char.toUpper

/-- Writes what an escape stands for, given what is behind its backslash, and tells what is left.
With `noughts` an octal one may begin with one nought more. -/
def escape (noughts : Bool) (text : List Char) : Filling (List Char) := do
  match text with
  | [] =>
    sayChars ['\\']
    return []
  | c :: rest =>
    if c = 'c' then throw (.exited 0)
    else if c = 'x' then
      let digits := (rest.take 2).takeWhile fun c => Integer.digitValue c < 16
      let n ← hexNumber (max 1 digits.length) rest
      sayChars [Char.ofNat n]
      return rest.drop digits.length
    else if c = 'u' || c = 'U' then
      let width := if c = 'u' then 4 else 8
      let n ← hexNumber width rest
      sayChars (← characterText c width n)
      return rest.drop width
    else if Shell.isOctal c then
      let behind := if noughts && c = '0' then rest else text
      let digits := (behind.take 3).takeWhile Shell.isOctal
      sayChars [Shell.octet (Integer.digitsValue 8 digits)]
      return behind.drop digits.length
    else
      match Shell.controlLetter? c with
      | some d => sayChars [d]
      | none => sayChars (if c = '"' then [c] else ['\\', c])
      return rest

/-- Writes a text in which escapes are expanded. -/
def escaped : Nat → List Char → Filling Unit
  | 0, _ => return
  | bound + 1, text => do
    match text with
    | [] => return
    | '\\' :: rest => escaped bound (← escape true rest)
    | c :: rest =>
      sayChars [c]
      escaped bound rest

/-- A star in the place of a number, or digits. -/
def readNumber (text : List Char) : Filling (Option Int × List Char) := do
  match text with
  | '*' :: rest => return (some (← number Integer.least Integer.greatest), rest)
  | text =>
    let digits := text.takeWhile Char.isDigit
    return (if digits.isEmpty then none else some (Integer.digitsValue 10 digits),
      text.drop digits.length)

/-- The letters that a directive with the given flags, and maybe places, can have. -/
def lettersFor (flags : List Char) (hasPlaces : Bool) : List Char :=
  let barred := (if flags.contains '#' then "cdisu".toList else [])
    ++ (if flags.contains '0' then "cs".toList else [])
    ++ (if flags.contains 'I' || flags.contains '\'' then "aAceEosxX".toList else [])
    ++ (if hasPlaces then ['c'] else [])
  "aAcdeEfFgGiosuxX".toList.filter fun c => !barred.contains c

/-- Writes the next argument as a directive with a letter says. -/
def convert (d : Directive) (letter : Char) : Filling Unit := do
  match letter with
  | 'c' => sayChars (d.character ((← next).toList.head?.getD '\x00'))
  | 's' => sayChars (d.text (← next).toList)
  | 'd' | 'i' => sayChars (d.signed (← number Integer.least Integer.greatest))
  | 'o' | 'u' | 'x' | 'X' =>
    let limit : Int := 0xFFFFFFFFFFFFFFFF
    let n ← number (-limit) limit
    sayChars (d.unsigned letter (n % (limit + 1)).toNat)
  | letter => sayChars (d.fractional .extended letter (← fractional))

/-- Writes the directive that begins with a percent sign, given what is behind the sign, and tells
what is left. -/
def directive (text : List Char) : Filling (List Char) := do
  match text with
  | '%' :: rest =>
    sayChars ['%']
    return rest
  | 'b' :: rest =>
    let arg ← next
    escaped (arg.length + 1) arg.toList
    return rest
  | 'q' :: rest =>
    if !(← get).isEmpty then say (quoteIfNeeded (← next))
    return rest
  | text =>
    let flags := text.takeWhile fun c => "I'-+ #0".toList.contains c
    let d := flags.foldl Directive.withFlag {}
    let (width?, rest) ← readNumber (text.drop flags.length)
    let d := match width? with
      | some n => d.withWidth n
      | none => d
    let hasPlaces := rest.head? = some '.'
    let (places?, rest) ← if hasPlaces then readNumber (rest.drop 1) else pure (none, rest)
    let d := if hasPlaces then d.withPlaces (places?.getD 0) else d
    let rest := rest.dropWhile fun c => "lLhjtz".toList.contains c
    let letter? := rest.head?.filter (lettersFor flags hasPlaces).contains
    match letter? with
    | some letter =>
      convert d letter
      return rest.drop 1
    | none =>
      let shown := '%' :: text.take (text.length - rest.length + 1)
      fail 1 (String.ofList shown ++ ": invalid conversion specification")

/-- Goes through a format once. -/
def pass : Nat → List Char → Filling Unit
  | 0, _ => return
  | bound + 1, text => do
    match text with
    | [] => return
    | '\\' :: rest => pass bound (← escape false rest)
    | '%' :: rest => pass bound (← directive rest)
    | c :: rest =>
      sayChars [c]
      pass bound rest

/-- Goes through a format as long as it takes arguments and there are some. -/
def passes (format : List Char) : Nat → Filling Unit
  | 0 => return
  | bound + 1 => do
    let before := (← get).length
    pass (format.length + 1) format
    let left := (← get).length
    if 0 < left && left < before then passes format bound

end Filling

/-- Writes what a format makes of the arguments. -/
def printf : Job Unit := do
  let args := (← get).call.args
  match if args.head? = some "--" then args.drop 1 else args with
  | [] => misuse 1 "missing operand"
  | format :: args =>
    let (_, left) ← (Filling.passes format.toList (args.length + 1)).run args
    if let arg :: _ := left then
      complain ("warning: ignoring excess arguments, starting with " ++ quote arg)

end Modlet.Tool
