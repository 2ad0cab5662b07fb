import Modlet.Text.Directive
import Modlet.Text.Octets

/-!
# Texts with escapes and formats

What a backslash in a text stands for, and what a format makes of the arguments behind it. A format
is used again as long as it takes arguments and there are some.
-/

namespace Modlet.Shell

/-- Whether a character is a digit of base eight. -/
def isOctal (c : Char) : Bool := '0' ≤ c && c ≤ '7'

/-- The character that stands for a number, of which the last eight bits count. -/
def octet (n : Nat) : Char := Char.ofNat (n % 256)

/-- The character that a letter behind a backslash stands for. -/
def controlLetter? : Char → Option Char
  | '\\' => some '\\'
  | 'a' => some (octet 7)
  | 'b' => some (octet 8)
  | 'e' => some (octet 27)
  | 'f' => some (octet 12)
  | 'n' => some '\n'
  | 'r' => some '\r'
  | 't' => some '\t'
  | 'v' => some (octet 11)
  | _ => none

/-- What an escape stands for, given what is behind its backslash, and what is left. A backslash
that begins no escape stands for itself. -/
def readEscape (text : List Char) : Char × List Char :=
  match text with
  | [] => ('\\', [])
  | c :: rest =>
    if isOctal c then
      let digits := (text.take 3).takeWhile isOctal
      (octet (Integer.digitsValue 8 digits), text.drop digits.length)
    else
      match controlLetter? c with
      | some d => (d, rest)
      | none => ('\\', text)

/-- A text with escapes in which octal ones may begin with one nought more, and whether it goes on:
one escape ends everything. -/
def unescape : Nat → List Char → List Char × Bool
  | 0, _ => ([], true)
  | bound + 1, text =>
    match text with
    | [] => ([], true)
    | '\\' :: 'c' :: _ => ([], false)
    | '\\' :: rest =>
      let rest := match rest with
        | '0' :: d :: more => if isOctal d then d :: more else rest
        | rest => rest
      let (c, rest) := readEscape rest
      let (others, goesOn) := unescape bound rest
      (c :: others, goesOn)
    | c :: rest =>
      let (others, goesOn) := unescape bound rest
      (c :: others, goesOn)

/-- What is written for the arguments of an echo: they follow one another with blanks between
them, and a line feed unless it is not wanted. -/
def echoed (newline : Bool) : List Octets → List Char
  | [] => if newline then ['\n'] else []
  | arg :: args =>
    let (text, goesOn) := unescape (arg.length + 1) arg.toList
    if !goesOn then text
    else if args.isEmpty then text ++ (if newline then ['\n'] else [])
    else text ++ ' ' :: echoed newline args

/-- What an echo writes. -/
def echo : List Octets → Octets
  | "-n" :: args => String.ofList (echoed false args)
  | args => String.ofList (echoed true args)

/-! ### Formats -/

/-- A format at work. -/
structure Formatting where
  /-- The arguments that are left. -/
  args : List Octets
  /-- What was written. -/
  output : List Char := []
  /-- What is wrong with arguments. -/
  warnings : List Octets := []
  /-- What is wrong with the format, which ends everything. -/
  mistake : Option Octets := none
  /-- Whether everything ended at an escape. -/
  stopped : Bool := false

namespace Formatting

/-- Goes on with some text. -/
def put (f : Formatting) (text : List Char) : Formatting := { f with output := f.output ++ text }

/-- The next argument; an empty one if there is none. -/
def take (f : Formatting) : Octets × Formatting :=
  match f.args with
  | [] => ("", f)
  | arg :: args => (arg, { f with args })

/-- Warns that there is something wrong with an argument. -/
def warn (f : Formatting) (message : Octets) : Formatting :=
  { f with warnings := f.warnings ++ [message] }

/-- Checks that a number is all of an argument. -/
def check (f : Formatting) (arg : Octets) (rest : List Char) : Formatting :=
  if rest.isEmpty then f
  else if rest = arg.toList then f.warn (arg ++ ": expected numeric value")
  else f.warn (arg ++ ": not completely converted")

/-- The number of the character behind a quote, if the argument begins with one. -/
def quotedNumber? (arg : Octets) : Option Nat :=
  match arg.toList with
  | '"' :: rest | '\'' :: rest => some ((rest.head?.map Char.toNat).getD 0)
  | _ => none

/-- The next argument as a number between two. -/
def takeNumber (least greatest : Int) (f : Formatting) : Int × Formatting :=
  let (arg, f) := f.take
  match quotedNumber? arg with
  | some n => (n, f)
  | none =>
    match Integer.read? 0 arg.toList with
    | none => (0, f.check arg arg.toList)
    | some (n, rest) =>
      let f := f.check arg rest
      let isFar := n < least || n > greatest
      let f := if isFar && rest.isEmpty then f.warn (arg ++ ": Numerical result out of range")
        else f
      (max least (min greatest n), f)

/-- The next argument as a number with a fraction. -/
def takeFractional (f : Formatting) : Fractional × Formatting :=
  let (arg, f) := f.take
  match quotedNumber? arg with
  | some n => (.ofInt n, f)
  | none =>
    match Fractional.read? .double arg.toList with
    | none => (.zero, f.check arg arg.toList)
    | some r =>
      let f := if r.strays && r.rest.isEmpty then f.warn (arg ++ ": Numerical result out of range")
        else f.check arg r.rest
      (r.value, f)

/-- A star in the place of a number, or digits. -/
def readNumber (f : Formatting) (text : List Char) : Option Int × Formatting × List Char :=
  match text with
  | '*' :: rest =>
    let (n, f) := f.takeNumber Integer.least Integer.greatest
    (some n, f, rest)
  | text =>
    let digits := text.takeWhile Char.isDigit
    (if digits.isEmpty then none else some (Integer.digitsValue 10 digits), f,
      text.drop digits.length)

/-- The directive behind a percent sign, without its letter, and what stands behind it. -/
def readDirective (f : Formatting) (text : List Char) : Directive × Formatting × List Char :=
  let flags := text.takeWhile fun c => "#-+ 0".toList.contains c
  let d := flags.foldl Directive.withFlag {}
  let (width, f, rest) := f.readNumber (text.drop flags.length)
  let d := match width with
    | some n => d.withWidth n
    | none => d
  match rest with
  | '.' :: rest =>
    let (places, f, rest) := f.readNumber rest
    (d.withPlaces (places.getD 0), f, rest)
  | rest => (d, f, rest)

/-- Writes the next argument as a directive with a letter says; nothing for a letter that is not
known. -/
def convert? (f : Formatting) (d : Directive) (letter : Char) : Option Formatting :=
  match letter with
  | 'b' =>
    let (arg, f) := f.take
    let (text, goesOn) := unescape (arg.length + 1) arg.toList
    some { f.put (d.text text) with stopped := !goesOn }
  | 'c' =>
    let (arg, f) := f.take
    some (f.put (d.character (arg.toList.head?.getD '\x00')))
  | 's' =>
    let (arg, f) := f.take
    some (f.put (d.text arg.toList))
  | 'd' | 'i' =>
    let (n, f) := f.takeNumber Integer.least Integer.greatest
    some (f.put (d.signed n))
  | 'o' | 'u' | 'x' | 'X' =>
    let limit : Int := 0xFFFFFFFFFFFFFFFF
    let (n, f) := f.takeNumber (-limit) limit
    some (f.put (d.unsigned letter (n % (limit + 1)).toNat))
  | 'a' | 'A' | 'e' | 'E' | 'f' | 'F' | 'g' | 'G' =>
    let (x, f) := f.takeFractional
    some (f.put (d.fractional .double letter x))
  | _ => none

/-- Goes through a format once. -/
def pass : Nat → List Char → Formatting → Formatting
  | 0, _, f => f
  | bound + 1, text, f =>
    match text with
    | [] => f
    | '\\' :: rest =>
      let (c, rest) := readEscape rest
      pass bound rest (f.put [c])
    | '%' :: '%' :: rest => pass bound rest (f.put ['%'])
    | '%' :: rest =>
      let (d, f, behind) := f.readDirective rest
      match behind with
      | [] => { f with mistake := some "missing format character" }
      | letter :: more =>
        match f.convert? d letter with
        | none =>
          let directive := '%' :: rest.take (rest.length - more.length)
          { f with mistake := some (String.ofList directive ++ ": invalid directive") }
        | some f => if f.stopped then f else pass bound more f
    | c :: rest => pass bound rest (f.put [c])

/-- Goes through a format as long as it takes arguments and there are some. -/
def passes (format : List Char) : Nat → Formatting → Formatting
  | 0, f => f
  | bound + 1, f =>
    let left := f.args.length
    let f := pass (format.length + 1) format f
    if f.stopped || f.mistake.isSome || f.args.isEmpty || f.args.length = left then f
    else passes format bound f

/-- What a format makes of arguments. -/
def run (format : Octets) (args : List Octets) : Formatting :=
  passes format.toList (args.length + 1) { args }

end Formatting

end Modlet.Shell
