import Modlet.Host.Shell.State

/-!
# Conditions

A condition is put together from texts, numbers and files. What an argument means hangs on the
arguments around it: an operator without anything to work on is a text.
-/

namespace Modlet.Shell

/-- A part of a condition. -/
inductive Part
  | endOfAll
  | operand
  | not
  | and
  | or
  | left
  | right
  /-- An operator with one operand. -/
  | unary (name : Octets)
  /-- An operator with two operands. -/
  | binary (name : Octets)
deriving DecidableEq, Repr

namespace Condition

/-- The operators with one operand. -/
def unaryNames : List Octets :=
  ["-r", "-w", "-x", "-e", "-f", "-d", "-c", "-b", "-p", "-u", "-g", "-k", "-s", "-t", "-z", "-n",
    "-h", "-O", "-G", "-L", "-S"]

/-- The operators with two operands. -/
def binaryNames : List Octets :=
  ["=", "!=", "<", ">", "-eq", "-ne", "-ge", "-gt", "-le", "-lt", "-nt", "-ot", "-ef"]

/-- The operator that a text is. -/
def operator? (text : Octets) : Option Part :=
  match text with
  | "!" => some .not
  | "-a" => some .and
  | "-o" => some .or
  | "(" => some .left
  | ")" => some .right
  | text =>
    if unaryNames.contains text then some (.unary text)
    else if binaryNames.contains text then some (.binary text)
    else none

/-- Whether a text is an operator with two operands. -/
def isBinary (text : Octets) : Bool := binaryNames.contains text

/-- The part that comes first. -/
def part : List Octets → Part
  | [] => .endOfAll
  | text :: rest =>
    match operator? text with
    | none => .operand
    | some (.unary name) =>
      match rest with
      | [] => .operand
      | [_] => .unary name
      | next :: _ => if isBinary next then .operand else .unary name
    | some .left => if rest.isEmpty then .operand else .left
    | some part => part

/-- What is at a path, if there is anything. -/
def nodeAt? (files : FileSystem) (path : Octets) : Option (Location × Modlet.Node) :=
  (files.stat (Octets.toText path)).toOption

/-- Whether what is at a path has the property that an operator asks for. -/
def holdsOf (files : FileSystem) (operator path : Octets) : Bool :=
  let found? := if operator = "-h" || operator = "-L" then
      (files.statName (Octets.toText path)).toOption
    else nodeAt? files path
  match found? with
  | none => false
  | some (location, node) =>
    match operator with
    | "-e" | "-r" | "-w" | "-O" | "-G" => true
    | "-h" | "-L" =>
      match node with
      | .link _ => true
      | _ => false
    | "-x" =>
      match node with
      | .directory | .program _ => true
      | .file _ => files.mayRun location
      | .device _ | .link _ => false
    | "-f" =>
      match node with
      | .file _ | .program _ => true
      | _ => false
    | "-d" =>
      match node with
      | .directory => true
      | _ => false
    | "-c" =>
      match node with
      | .device (.stream _) => false
      | .device _ => true
      | _ => false
    | "-p" =>
      match node with
      | .device (.stream _) => true
      | _ => false
    | "-s" =>
      match node with
      | .directory | .program _ => true
      | .file content => content.size ≠ 0
      | .device _ | .link _ => false
    | "-u" => files.rightsAt location &&& 0o4000 ≠ 0
    | "-g" => files.rightsAt location &&& 0o2000 ≠ 0
    | "-k" => files.rightsAt location &&& 0o1000 ≠ 0
    | _ => false

/-- Whether there are two files of which the first was written after the second: what was written
latest comes first in the tree. -/
def isNewer (files : FileSystem) (first second : Octets) : Bool :=
  match nodeAt? files first, nodeAt? files second with
  | some (a, _), some (b, _) =>
    let place (location : Location) : Nat := files.nodes.findIdx fun entry => entry.1 = location
    place a < place b
  | _, _ => false

/-- What a comparison comes to. -/
def compare (operator first second : Octets) : Sh Bool := do
  match operator with
  | "=" => return first = second
  | "!=" => return first ≠ second
  | "<" => return first < second
  | ">" => return second < first
  | "-nt" => return isNewer (← Sh.files) first second
  | "-ot" => return isNewer (← Sh.files) second first
  | "-ef" =>
    let files ← Sh.files
    match nodeAt? files first, nodeAt? files second with
    | some (a, _), some (b, _) => return files.isSame a b
    | _, _ => return false
  | operator =>
    let a ← Sh.integer 10 first
    let b ← Sh.integer 10 second
    return match operator with
      | "-eq" => a = b
      | "-ne" => a ≠ b
      | "-ge" => a ≥ b
      | "-gt" => a > b
      | "-le" => a ≤ b
      | _ => a < b

mutual

/-- Whether one of several conditions holds. The texts begin with the one whose part is given, and
those that are left begin with the last that was looked at. -/
def either : Nat → Part → List Octets → Sh (Bool × List Octets)
  | 0, _, texts => return (false, texts)
  | bound + 1, first, texts => do
    let (a, texts) ← both bound first texts
    if part (texts.drop 1) = .or then
      let (b, texts) ← either bound (part (texts.drop 2)) (texts.drop 2)
      return (a || b, texts)
    else return (a, texts)

/-- Whether all of several conditions hold. -/
def both : Nat → Part → List Octets → Sh (Bool × List Octets)
  | 0, _, texts => return (false, texts)
  | bound + 1, first, texts => do
    let (a, texts) ← negated bound first texts
    if part (texts.drop 1) = .and then
      let (b, texts) ← both bound (part (texts.drop 2)) (texts.drop 2)
      return (a && b, texts)
    else return (a, texts)

/-- A condition that may be negated. -/
def negated : Nat → Part → List Octets → Sh (Bool × List Octets)
  | 0, _, texts => return (false, texts)
  | bound + 1, first, texts => do
    if first = .not then
      let next := part (texts.drop 1)
      let (a, texts) ← negated bound next (if next = .endOfAll then texts else texts.drop 1)
      return (!a, texts)
    else single bound first texts

/-- A condition without others, or one in parentheses. -/
def single : Nat → Part → List Octets → Sh (Bool × List Octets)
  | 0, _, texts => return (false, texts)
  | bound + 1, first, texts => do
    match first with
    | .endOfAll => return (false, texts)
    | .left =>
      let texts := texts.drop 1
      let next := part texts
      if next = .right then return (false, texts)
      else
        let (a, texts) ← either bound next texts
        if part (texts.drop 1) ≠ .right then Sh.fail "closing paren expected"
        return (a, texts.drop 1)
    | .unary name =>
      match texts.drop 1 with
      | [] => Sh.fail (name ++ ": argument expected")
      | text :: rest =>
        let isSo : Bool ← match name with
          | "-z" => pure (text = "")
          | "-n" => pure (text ≠ "")
          | "-t" => do
            let _ ← Sh.integer 10 text
            pure false
          | name => do
            let files ← Sh.files
            pure (holdsOf files name text)
        return (isSo, text :: rest)
    | _ =>
      match texts with
      | text :: operator :: rest =>
        if isBinary operator then
          match rest with
          | [] => Sh.fail (operator ++ ": argument expected")
          | second :: _ => return (← compare operator text second, rest)
        else return (text ≠ "", texts)
      | [text] => return (text ≠ "", texts)
      | [] => return (false, [])

end

/-- Whether the condition that texts make up holds. -/
def holds : Nat → Bool → List Octets → Sh Bool
  | 0, negative, _ => return negative
  | bound + 1, negative, texts => do
    let evaluate (first : Part) (texts : List Octets) : Sh Bool := do
      let (a, texts) ← either (4 * texts.length + 8) first texts
      match texts with
      | text :: _ :: _ =>
        Sh.fail ((if text = "" then "" else text ++ ": ") ++ "unexpected operator")
      | _ => return a != negative
    let isCompared : Bool := match texts with
      | [_, operator, _] => isBinary operator
      | _ => false
    if texts.isEmpty then return negative
    else if isCompared then evaluate .operand texts
    else if texts.length = 3 || texts.length = 4 then
      if texts.head? = some "(" && texts.getLast? = some ")" then
        let texts := texts.drop 1 |>.dropLast
        evaluate (part texts) texts
      else if texts.head? = some "!" then holds bound true (texts.drop 1)
      else evaluate (part texts) texts
    else evaluate (part texts) texts

/-- Tests a condition: the status is zero if it holds, and one if not. -/
def test (bracket : Bool) (args : List Octets) : Sh Nat := do
  if bracket && (args.getLast?.bind (·.toList.head?)) ≠ some ']' then Sh.fail "missing ]"
  let texts := if bracket then args.dropLast else args
  return if ← holds (texts.length + 2) false texts then 0 else 1

end Condition

end Modlet.Shell
