import Modlet.Host.Shell.Condition
import Modlet.Host.Tool.Basic

/-!
# Checking conditions

The arguments make up a condition, and the status tells whether it holds. How few arguments are read
hangs on their number; more of them are conditions with operators between them.
-/

namespace Modlet.Tool

open Job

/-- Something that is done with the arguments that are left. -/
abbrev Checking := StateT (List Octets) Job

namespace Checking

/-- Tells that something is missing behind the last argument, and ends. -/
def beyond {α : Type} : Checking α := do
  let args := (← getThe Work).call.args
  fail 2 ("missing argument after " ++ quote (args.getLast?.getD ""))

/-- The argument at a place. -/
def at? (place : Nat) : Checking (Option Octets) := do return (← get)[place]?

/-- Goes on behind an argument. There has to be another one if `more`. -/
def advance (more : Bool) : Checking Unit := do
  let rest := (← get).drop 1
  set rest
  if more && rest.isEmpty then beyond

/-- The next argument. -/
def next : Checking Octets := do
  match ← get with
  | [] => beyond
  | arg :: rest =>
    set rest
    return arg

/-- The operators with two operands. -/
def binaryNames : List Octets :=
  ["=", "!=", "==", "-nt", "-ot", "-ef", "-eq", "-ne", "-lt", "-le", "-gt", "-ge"]

/-- Whether the argument at a place is an operator with two operands. -/
def isBinaryAt (place : Nat) : Checking Bool := do
  return match ← at? place with
    | some arg => binaryNames.contains arg
    | none => false

/-- Whether the next argument is a dash and a letter. -/
def isLetter : Checking Bool := do
  return match (← at? 0).map String.toList with
    | some ['-', _] => true
    | _ => false

/-- The integer that a text is. -/
def integer (text : Octets) : Checking Int := do
  match Integer.read? 10 text.toList with
  | some (n, rest) =>
    if rest.all Integer.isBlank then return n
    else fail 2 ("invalid integer " ++ quote text)
  | none => fail 2 ("invalid integer " ++ quote text)

/-- A condition of one argument: a text that is not empty. -/
def oneArgument : Checking Bool := do return (← next) ≠ ""

/-- A condition of an operator and an operand. -/
def unary : Checking Bool := do
  let operator ← next
  let files ← Job.files
  match operator.toList.drop 1 with
  | ['z'] => return (← next) = ""
  | ['n'] => return (← next) ≠ ""
  | ['t'] =>
    let _ ← integer (← next)
    return false
  | [letter] =>
    if !"efdrwxsLhpbcSugkOGN".toList.contains letter then
      fail 2 (quote operator ++ ": unary operator expected")
    return Shell.Condition.holdsOf files operator (← next)
  | _ => fail 2 (quote operator ++ ": unary operator expected")

/-- The integer that an operand is; after a mark it is the length of a text. -/
def operand (isLength : Bool) (text : Octets) : Checking Int := do
  if isLength then return text.length else integer text

/-- A condition of an operator between two operands. -/
def binary : Checking Bool := do
  let lengthOfFirst := (← at? 0) = some "-l" && (← isBinaryAt 2)
  if lengthOfFirst then advance true
  let a ← next
  let operator ← next
  let lengthOfSecond :=
    (← at? 0) = some "-l" && (← at? 1).isSome && operator.toList.head? = some '-'
  if lengthOfSecond then advance true
  let b ← next
  let files ← Job.files
  match operator with
  | "=" | "==" => return a = b
  | "!=" => return a ≠ b
  | "-nt" => return Shell.Condition.isNewer files a b
  | "-ot" => return Shell.Condition.isNewer files b a
  | "-ef" =>
    match Shell.Condition.nodeAt? files a, Shell.Condition.nodeAt? files b with
    | some (x, _), some (y, _) => return files.isSame x y
    | _, _ => return false
  | operator =>
    let x ← operand lengthOfFirst a
    let y ← operand lengthOfSecond b
    return match operator with
      | "-eq" => x = y
      | "-ne" => x ≠ y
      | "-lt" => x < y
      | "-le" => x ≤ y
      | "-gt" => x > y
      | _ => x ≥ y

/-- A condition of two arguments. -/
def twoArguments : Checking Bool := do
  if (← at? 0) = some "!" then
    advance false
    return !(← oneArgument)
  else if ← isLetter then unary
  else beyond

mutual

/-- A condition of three arguments. -/
def threeArguments : Nat → Checking Bool
  | 0 => return false
  | bound + 1 => do
    if ← isBinaryAt 1 then binary
    else if (← at? 0) = some "!" then
      advance true
      return !(← twoArguments)
    else if (← at? 0) = some "(" && (← at? 2) = some ")" then
      advance false
      let holds ← oneArgument
      advance false
      return holds
    else if (← at? 1) = some "-a" || (← at? 1) = some "-o" then either bound
    else fail 2 (quote ((← at? 1).getD "") ++ ": binary operator expected")

/-- A condition of some arguments. -/
def ofCount : Nat → Nat → Checking Bool
  | 0, _ => return false
  | bound + 1, count => do
    match count with
    | 1 => oneArgument
    | 2 => twoArguments
    | 3 => threeArguments bound
    | _ =>
      if count = 4 && (← at? 0) = some "!" then
        advance true
        return !(← threeArguments bound)
      else if count = 4 && (← at? 0) = some "(" && (← at? 3) = some ")" then
        advance false
        let holds ← twoArguments
        advance false
        return holds
      else either bound

/-- Whether one of several conditions holds. -/
def either : Nat → Checking Bool
  | 0 => return false
  | bound + 1 => do
    let holds ← both bound
    if (← at? 0) = some "-o" then
      advance false
      let other ← either bound
      return holds || other
    else return holds

/-- Whether all of several conditions hold. -/
def both : Nat → Checking Bool
  | 0 => return false
  | bound + 1 => do
    let holds ← single bound
    if (← at? 0) = some "-a" then
      advance false
      let other ← both bound
      return holds && other
    else return holds

/-- A condition without others between which an operator stands. -/
def single : Nat → Checking Bool
  | 0 => return false
  | bound + 1 => do
    match ← at? 0 with
    | none => beyond
    | some "!" =>
      advance true
      return !(← single bound)
    | some "(" =>
      advance true
      let rest ← get
      let inner := (rest.drop 1).takeWhile (· ≠ ")")
      let count := if inner.length ≥ 3 then rest.length else inner.length + 1
      let holds ← ofCount bound count
      match ← at? 0 with
      | none => fail 2 (quote ")" ++ " expected")
      | some ")" => advance false
      | some other => fail 2 (quote ")" ++ " expected, found " ++ quote other)
      return holds
    | some text =>
      let left := (← get).length
      if (left ≥ 4 && text = "-l" && (← isBinaryAt 2)) || (left ≥ 3 && (← isBinaryAt 1)) then binary
      else if ← isLetter then unary
      else
        advance false
        return text ≠ ""

end

end Checking

/-- Checks a condition; with `bracket` a bracket ends it. -/
def check (bracket : Bool) : Job Unit := do
  let args := (← get).call.args
  if bracket && args.getLast? ≠ some "]" then fail 2 ("missing " ++ quote "]")
  let args := if bracket then args.dropLast else args
  modify fun w => { w with call := { w.call with args } }
  if args.isEmpty then mark 1
  else
    let (holds, left) ← (Checking.ofCount (4 * args.length + 8) args.length).run args
    if let arg :: _ := left then fail 2 ("extra argument " ++ quote arg)
    if !holds then mark 1

end Modlet.Tool
