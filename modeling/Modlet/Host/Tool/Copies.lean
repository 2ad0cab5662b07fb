import Modlet.Host.Tool.Entries
import Modlet.Host.Tool.Transfer

/-!
# Copies of other kinds

Files are copied block by block, or to a place where they can be run.
-/

namespace Modlet.Tool

open Job

/-! ### Block by block -/

/-- The operands of a copy, each a name and a value. -/
abbrev BlockOperands := List (String × Octets)

namespace BlockOperands

/-- The names that there are. -/
def names : List String :=
  ["bs", "cbs", "conv", "count", "ibs", "if", "iflag", "obs", "of", "oflag", "seek", "skip",
    "status"]

/-- The conversions that there are. -/
def conversions : List (List Char) :=
  ["ascii", "ebcdic", "ibm", "block", "unblock", "lcase", "ucase", "sparse", "swab", "sync", "excl",
    "nocreat", "notrunc", "noerror", "fdatasync", "fsync"].map String.toList

/-- Reads an operand. -/
def read (arg : Octets) : Job (String × Octets) := do
  let name := arg.toList.takeWhile (· ≠ '=')
  let known := names.contains (String.ofList name)
  if !known || name.length = arg.length then misuse 1 ("unrecognized operand " ++ quote arg)
  let value := String.ofList (arg.toList.drop (name.length + 1))
  if name = "conv".toList then
    for word in Text.pieces ',' value.toList do
      if !conversions.contains word then
        misuse 1 ("invalid conversion: " ++ quote (String.ofList word))
  if name = "status".toList && !(["none", "noxfer", "progress"].contains value) then
    misuse 1 ("invalid status level: " ++ quote value)
  return (String.ofList name, value)

/-- The last value of an operand. -/
def last? (a : BlockOperands) (name : String) : Option Octets := a.reverse.lookup name

/-- The number that an operand is. -/
def number (a : BlockOperands) (name : String) (usual : Nat) (positive : Bool) : Job Nat := do
  match a.last? name with
  | none => return usual
  | some value =>
    match readAmount? value.toList with
    | some n =>
      if positive && n = 0 then fail 1 ("invalid number: " ++ quote value)
      return n
    | none => fail 1 ("invalid number: " ++ quote value)

/-- Whether a conversion is wanted. -/
def converts (a : BlockOperands) (name : String) : Bool :=
  match a.last? "conv" with
  | some value => (Text.pieces ',' value.toList).contains name.toList
  | none => false

end BlockOperands

/-- How many blocks of a size there are: whole ones and the part that is left. -/
def blockCount (size length : Nat) : Octets :=
  (length / size).repr ++ "+" ++ (if length % size = 0 then 0 else 1).repr

/-- Copies a file block by block. -/
def dd : Job Unit := do
  let args ← arguments [] 1
  let a : BlockOperands ← args.operands.mapM BlockOperands.read
  let size ← a.number "bs" 512 true
  let inSize ← a.number "ibs" size true
  let outSize ← a.number "obs" size true
  let skip ← a.number "skip" 0 false
  let seek ← a.number "seek" 0 false
  let count? ← match a.last? "count" with
    | none => pure none
    | some _ => do pure (some (← a.number "count" 0 false))
  let found ← match a.last? "if" with
    | none => readStream 0
    | some name => do
      match ← readPath name with
      | .error .isDirectory => pure (.error .isDirectory)
      | .error e => fail 1 ("failed to open " ++ quoteAlways name ++ ": " ++ reason e)
      | found => pure found
  let taken := match found with
    | .ok text => text.toList.drop (skip * inSize)
    | .error _ => []
  let taken := match count? with
    | some n => taken.take (n * inSize)
    | none => taken
  let missing := if a.converts "sync" then (inSize - taken.length % inSize) % inSize else 0
  let full := taken ++ List.replicate missing '\x00'
  let full := if a.converts "ucase" then full.map Char.toUpper
    else if a.converts "lcase" then full.map Char.toLower else full
  match a.last? "of" with
  | none => sayChars full
  | some name =>
    let before := ((← readPath name).toOption.getD "").toList
    let front := before.take (seek * outSize)
    let front := front ++ List.replicate (seek * outSize - front.length) '\x00'
    let behind := if a.converts "notrunc" then before.drop (front.length + full.length) else []
    match ← writePath name (String.ofList (front ++ full ++ behind)) with
    | .ok () => pure ()
    | .error e => fail 1 ("failed to open " ++ quoteAlways name ++ ": " ++ reason e)
  flush
  if let .error e := found then
    let name := (a.last? "if").getD "standard input"
    warn ("error reading " ++ quoteAlways name ++ ": " ++ reason e)
  let status := (a.last? "status").getD ""
  if status ≠ "none" then
    let _ ← write 2 (blockCount inSize taken.length ++ " records in\n"
      ++ blockCount outSize full.length ++ " records out\n")
    if status ≠ "noxfer" then
      let bytes := if full.length = 1 then " byte" else " bytes"
      let _ ← write 2 (full.length.repr ++ bytes ++ " copied, 0 s, 0.0 kB/s\n")

/-! ### To a place -/

/-- Copies files to where they can be run, or makes directories. -/
def install : Job Unit := do
  let a ← arguments
    [⟨'b', "", .none, false⟩, ⟨'c', "", .none, false⟩, ⟨'C', "compare", .none, false⟩,
      ⟨'d', "directory", .none, false⟩, ⟨'D', "", .none, false⟩, ⟨'g', "group", .needed, false⟩,
      ⟨'m', "mode", .needed, false⟩, ⟨'o', "owner", .needed, false⟩,
      ⟨'p', "preserve-timestamps", .none, false⟩, ⟨'t', "target-directory", .needed, false⟩,
      ⟨'T', "no-target-directory", .none, false⟩, ⟨'v', "verbose", .none, false⟩] 1
  let changes ← match a.last? 'm' with
    | none => pure []
    | some mode =>
      match Rights.changesOf? mode.toList with
      | some changes => pure changes
      | none => fail 1 ("invalid mode " ++ quote mode)
  let rights (isDirectory : Bool) : Nat :=
    if changes.isEmpty then 0o755 else Rights.applyAll 0 isDirectory 0 changes
  if a.operands.isEmpty then misuse 1 "missing file operand"
  let checkOwner : Job Unit := do
    if let some name := a.last? 'o' then
      if name ≠ "root" && name ≠ "0" then fail 1 ("invalid user " ++ quote name)
    if let some name := a.last? 'g' then
      if name ≠ "root" && name ≠ "0" then fail 1 ("invalid group " ++ quote name)
  let put (source target : Octets) : Job Unit := do
    match ← stat source with
    | .error e => warn ("cannot stat " ++ quoteAlways source ++ ": " ++ reason e)
    | .ok (_, .directory) => warn ("omitting directory " ++ quoteAlways source)
    | .ok (location, _) =>
      let same : Bool := match ← statName target with
        | .ok (other, _) => other = location
        | .error _ => false
      if same then
        warn (quoteAlways source ++ " and " ++ quoteAlways target ++ " are the same file")
      else
        match ← statName target with
        | .ok (_, .directory) | .ok (_, .device _) | .error _ => pure ()
        | .ok (other, _) =>
          if a.has 'v' then say ("removed " ++ quoteAlways target ++ "\n")
          removeAt other
        let before := (← get).status
        let t : Transfer := { moves := false, tells := a.has 'v' }
        t.copyTree true 1 source target
        if (← get).status = before then
          if let .ok (other, _) := ← stat target then setRights other (rights false)
  if a.has 'd' then
    checkOwner
    for path in a.operands do
      makeParentsAs "creating" (a.has 'v') path
      if let .ok (location, .directory) := ← stat path then setRights location (rights true)
  else
    match a.last? 't', a.operands with
    | some directory, sources =>
      checkOwner
      for source in sources do put source (joinPath directory (lastName source))
    | none, [one] =>
      misuse 1 ("missing destination file operand after " ++ quoteAlways one)
    | none, operands =>
      checkOwner
      let target := operands.getLast?.getD ""
      let sources := operands.dropLast
      match ← stat target, sources with
      | .ok (_, .directory), sources =>
        if a.has 'T' then
          for source in sources do put source target
        else
          for source in sources do put source (joinPath target (lastName source))
      | found, [source] =>
        if a.has 'D' && !found.isOk then
          let names := FileSystem.names target
          if names.length > 1 then
            let start := if target.toList.head? = some '/' then "/" else ""
            makeParents false (start ++ "/".intercalate names.dropLast)
        put source target
      | .ok _, _ => fail 1 ("target " ++ quoteAlways target ++ ": " ++ reason .notDirectory)
      | .error e, _ => fail 1 ("target " ++ quoteAlways target ++ ": " ++ reason e)

end Modlet.Tool
