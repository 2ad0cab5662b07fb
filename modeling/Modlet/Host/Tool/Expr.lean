import Modlet.Host.Tool.Basic
import Modlet.Text.Regex

/-!
# Calculating with arguments

The arguments of a calculation are its operands and operators. A value is a text, which may be the
numeral of an integer of any size.
-/

namespace Modlet.Tool

open Job

namespace Expression

/-- The integer that a text is. -/
def integer? (text : Octets) : Option Int :=
  let (negative, digits) := match text.toList with
    | '-' :: rest => (true, rest)
    | rest => (false, rest)
  if digits.isEmpty || !digits.all Char.isDigit then none
  else
    let n : Int := Integer.digitsValue 10 digits
    some (if negative then -n else n)

/-- Whether a value counts as none. -/
def isNull (text : Octets) : Bool :=
  match text.toList with
  | [] => true
  | '-' :: c :: rest => (c :: rest).all (· = '0')
  | chars => chars.all (· = '0')

/-- The integer that an operand has to be. -/
def integer (text : Octets) : Job Int := do
  match integer? text with
  | some n => return n
  | none => fail 2 "non-integer argument"

/-- A mistake in how arguments are put together. -/
def mistake {α : Type} (text : Octets) : Job α := fail 2 ("syntax error: " ++ text)

/-- What a text matches of an expression at its front: the first group, or the length. -/
def matched (text pattern : Octets) : Job Octets := do
  match Regex.ofText .looseBasic pattern.toList with
  | .error e => fail 2 e
  | .ok { regex, groups, .. } =>
    let subject := regex.subject false text.toList
    match regex.matchAt? subject 0 with
    | none => return if groups > 0 then "" else "0"
    | some m =>
      if groups > 0 then return String.ofList (m.group subject 1)
      else return (m.finish - m.start).repr

/-- What has been read: the value, and the arguments with the last one in front of them. -/
structure Part where
  value : Octets
  last : Octets
  rest : List Octets

/-- The operators by how weakly they bind. -/
def operators : List (List Octets) :=
  [["|"], ["&"], ["<", "<=", "=", "==", "!=", ">=", ">"], ["+", "-"], ["*", "/", "%"], [":"]]

/-- The result of an operator. -/
def apply (operator a b : Octets) : Job Octets := do
  let truth (holds : Bool) : Octets := if holds then "1" else "0"
  match operator with
  | "|" => return if !isNull a then a else if !isNull b then b else "0"
  | "&" => return if isNull a || isNull b then "0" else a
  | ":" => matched a b
  | "+" => return ((← integer a) + (← integer b)).repr
  | "-" => return ((← integer a) - (← integer b)).repr
  | "*" => return ((← integer a) * (← integer b)).repr
  | "/" =>
    let x ← integer a
    let y ← integer b
    if y = 0 then fail 2 "division by zero"
    return (Int.tdiv x y).repr
  | "%" =>
    let x ← integer a
    let y ← integer b
    if y = 0 then fail 2 "division by zero"
    return (Int.tmod x y).repr
  | operator =>
    let order := match integer? a, integer? b with
      | some x, some y => compare x y
      | _, _ => compare a b
    return truth (match operator with
      | "<" => order = .lt
      | "<=" => order ≠ .gt
      | "=" | "==" => order = .eq
      | "!=" => order ≠ .eq
      | ">=" => order ≠ .lt
      | _ => order = .gt)

mutual

/-- Reads operands with operators of a level between them. -/
def readLevel : Nat → Nat → Octets → List Octets → Job Part
  | 0, _, last, rest => return ⟨"", last, rest⟩
  | bound + 1, level, last, rest => do
    if level ≥ operators.length then readSingle bound last rest
    else
      let first ← readLevel bound (level + 1) last rest
      readMore bound level first

/-- Goes on with operators of a level. -/
def readMore : Nat → Nat → Part → Job Part
  | 0, _, part => return part
  | bound + 1, level, part => do
    match part.rest with
    | operator :: rest =>
      if (operators[level]?.getD []).contains operator then
        let second ← readLevel bound (level + 1) operator rest
        readMore bound level { second with value := ← apply operator part.value second.value }
      else return part
    | [] => return part

/-- Reads an operand. -/
def readSingle : Nat → Octets → List Octets → Job Part
  | 0, last, rest => return ⟨"", last, rest⟩
  | bound + 1, last, rest => do
    let missing {α : Type} (last : Octets) : Job α :=
      mistake ("missing argument after " ++ quoteAlways last)
    match rest with
    | [] => missing last
    | "(" :: rest =>
      let inner ← readLevel bound 0 "(" rest
      match inner.rest with
      | ")" :: rest => return ⟨inner.value, ")", rest⟩
      | [] => mistake ("expecting ')' after " ++ quoteAlways inner.last)
      | other :: _ => mistake ("expecting ')' instead of " ++ quoteAlways other)
    | ")" :: _ => mistake "unexpected ')'"
    | "+" :: rest =>
      match rest with
      | [] => missing "+"
      | text :: rest => return ⟨text, text, rest⟩
    | "length" :: rest =>
      let a ← readSingle bound "length" rest
      return { a with value := a.value.length.repr }
    | "match" :: rest =>
      let a ← readSingle bound "match" rest
      let b ← readSingle bound a.last a.rest
      return { b with value := ← matched a.value b.value }
    | "index" :: rest =>
      let a ← readSingle bound "index" rest
      let b ← readSingle bound a.last a.rest
      let place := a.value.toList.findIdx? b.value.toList.contains
      return { b with value := (match place with
        | some n => n + 1
        | none => 0).repr }
    | "substr" :: rest =>
      let a ← readSingle bound "substr" rest
      let b ← readSingle bound a.last a.rest
      let c ← readSingle bound b.last b.rest
      let value := match integer? b.value, integer? c.value with
        | some first, some length =>
          if first ≤ 0 || length ≤ 0 then ""
          else String.ofList ((a.value.toList.drop (first.toNat - 1)).take length.toNat)
        | _, _ => ""
      return { c with value }
    | text :: rest => return ⟨text, text, rest⟩

end

end Expression

/-- Writes the value of a calculation. -/
def expr : Job Unit := do
  let args := (← get).call.args
  let args := if args.head? = some "--" then args.drop 1 else args
  if args.isEmpty then misuse 2 "missing operand"
  let part ← Expression.readLevel (16 * args.length + 16) 0 "" args
  match part.rest with
  | [] =>
    say (Octets.line part.value)
    if Expression.isNull part.value then mark 1
  | other :: _ => Expression.mistake ("unexpected argument " ++ quoteAlways other)

end Modlet.Tool
