import Modlet.Host.Tool.Lines
import Modlet.Host.Tool.Listing

/-!
# Single files

These programs work on what is at one path: they give it another name, take its name away, change
its size, or tell what it is.
-/

namespace Modlet.Tool

open Job

/-- Takes the name of a file away. -/
def unlink : Job Unit := do
  let a ← arguments [] 1
  match a.operands with
  | [] => misuse 1 "missing operand"
  | _ :: other :: _ => extra 1 other
  | [path] =>
    match ← changeFiles (·.removeFile (Octets.toText path)) with
    | .ok () => return
    | .error e => fail 1 ("cannot unlink " ++ quoteAlways path ++ ": " ++ reason e)

/-- Gives a file another name. -/
def link : Job Unit := do
  let a ← arguments [] 1
  match a.operands with
  | [] => misuse 1 "missing operand"
  | [one] => misuse 1 ("missing operand after " ++ quoteAlways one)
  | _ :: _ :: other :: _ => extra 1 other
  | [source, target] =>
    let refuse (e : IoError) : Job Unit :=
      fail 1 ("cannot create link " ++ quoteAlways target ++ " to " ++ quoteAlways source ++ ": "
        ++ reason e)
    match ← statName source with
    | .error e => refuse e
    | .ok (_, .directory) => refuse (.system 1)
    | .ok (location, _) =>
      match ← changeFiles (·.makeName location (Octets.toText target)) with
      | .ok () => return
      | .error e => refuse e

/-! ### Sizes -/

/-- How the size of a file is changed. -/
structure Resizing where
  /-- How the number is meant: as the size itself if there is no sign. -/
  sign? : Option Char
  amount : Nat

/-- The new size, given the old one. -/
def Resizing.apply (r : Resizing) (size : Nat) : Nat :=
  match r.sign? with
  | some '+' => size + r.amount
  | some '-' => size - r.amount
  | some '<' => min size r.amount
  | some '>' => max size r.amount
  | some '/' => size / max 1 r.amount * r.amount
  | some '%' => (size + r.amount - 1) / max 1 r.amount * r.amount
  | _ => r.amount

/-- Changes the sizes of files. -/
def truncate : Job Unit := do
  let a ← arguments
    [⟨'c', "no-create", .none, false⟩, ⟨'o', "io-blocks", .none, false⟩,
      ⟨'r', "reference", .needed, false⟩, ⟨'s', "size", .needed, false⟩] 1
  let resizing ← match a.last? 's', a.last? 'r' with
    | some value, _ => do
      let sign? := value.toList.head?.filter fun c => "+-<>/%".toList.contains c
      let digits := if sign?.isSome then value.toList.drop 1 else value.toList
      match readAmount? digits with
      | some amount => pure { sign?, amount : Resizing }
      | none => fail 1 ("Invalid number: " ++ quote value)
    | none, some name => do
      match ← stat name with
      | .ok (_, .file content) => pure { sign? := none, amount := content.size : Resizing }
      | .ok _ => pure { sign? := none, amount := 4096 : Resizing }
      | .error e => fail 1 ("cannot stat " ++ quoteAlways name ++ ": " ++ reason e)
    | none, none => misuse 1 "you must specify either '--size' or '--reference'"
  if a.operands.isEmpty then misuse 1 "missing file operand"
  for path in a.operands do
    let refuse (e : IoError) : Job Unit :=
      warn ("cannot open " ++ quoteAlways path ++ " for writing: " ++ reason e)
    match ← stat path with
    | .ok (_, .directory) => refuse .isDirectory
    | found =>
      if !found.isOk && a.has 'c' then pure ()
      else
        let text := ((← readPath path).toOption.getD "").toList
        let size := resizing.apply text.length
        let changed := text.take size ++ List.replicate (size - text.length) '\x00'
        match ← writePath path (String.ofList changed) with
        | .ok () => pure ()
        | .error e => refuse e

/-! ### Properties -/

/-- What a letter behind a percent sign stands for. -/
def propertyText (files : FileSystem) (path : Octets) (location : Location) (node : Node)
    (letter : Char) : Octets :=
  let rights := files.rightsAt location
  let size := Listing.sizeOf node
  match letter with
  | 'n' => path
  | 'N' =>
    match node with
    | .link target => quoteAlways path ++ " -> " ++ quoteAlways (Octets.ofText target)
    | _ => quoteAlways path
  | 's' => size.repr
  | 'a' => String.ofList (Nat.toDigits 8 rights)
  | 'A' => String.ofList [Listing.kindLetter node] ++ Rights.letterText rights
  | 'u' | 'g' => "0"
  | 'U' | 'G' => "root"
  | 'h' => (Listing.nameCount files location node).repr
  | 'B' => "512"
  | 'b' => (Listing.roomOf node * 2).repr
  | 'o' => "4096"
  | 't' | 'T' => "0"
  | 'F' =>
    match node with
    | .directory => "directory"
    | .device _ => "character special file"
    | .link _ => "symbolic link"
    | _ => if size = 0 then "regular empty file" else "regular file"
  | '%' => "%"
  | _ => "?"

/-- A format with the properties of a file filled in. With `escapes` a backslash begins one. -/
def propertyLine (text : Char → Octets) (escapes : Bool) : List Char → List Char
  | '%' :: letter :: rest => (text letter).toList ++ propertyLine text escapes rest
  | '\\' :: c :: rest =>
    if escapes then
      let found := match c with
        | 'n' => ['\n']
        | 't' => ['\t']
        | '\\' => ['\\']
        | c => ['\\', c]
      found ++ propertyLine text escapes rest
    else '\\' :: c :: propertyLine text escapes rest
  | c :: rest => c :: propertyLine text escapes rest
  | [] => []

/-- Tells what files are. -/
def tellProperties : Job Unit := do
  let a ← arguments
    [⟨'c', "format", .needed, false⟩, ⟨'p', "printf", .needed, true⟩,
      ⟨'L', "dereference", .none, false⟩, ⟨'t', "terse", .none, false⟩] 1
  if a.operands.isEmpty then misuse 1 "missing operand"
  let escapes := a.lastOf? ['c', 'p'] = some 'p'
  let format := (a.last? (if escapes then 'p' else 'c')).getD "  File: %n\n  Size: %s\t%F"
  let files ← files
  for path in a.operands do
    match ← if a.has 'L' then stat path else statName path with
    | .error e => warn ("cannot statx " ++ quoteAlways path ++ ": " ++ reason e)
    | .ok (location, node) =>
      sayChars (propertyLine (propertyText files path location node) escapes format.toList
        ++ if escapes then [] else ['\n'])

end Modlet.Tool
