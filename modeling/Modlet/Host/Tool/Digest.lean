import Modlet.Host.Tool.Lines
import Modlet.Text.Digest

/-!
# Digests of files

A digest is written in front of the name of its file, and files can be checked against such lines.
-/

namespace Modlet.Tool

open Job

/-- How a digest is worked out, and what it is called. -/
structure Digesting where
  title : Octets
  digest : Octets → Octets
  /-- The number of digits. -/
  digits : Nat

namespace Digesting

/-- The digest of a line with the name behind it, and the name. -/
def read? (d : Digesting) (line : List Char) : Option (Octets × Octets) :=
  let hex := line.takeWhile fun c => Integer.digitValue c < 16
  match line.drop hex.length with
  | ' ' :: mark :: name =>
    if hex.length = d.digits && (mark = ' ' || mark = '*') && name ≠ [] then
      some (String.ofList (hex.map Char.toLower), String.ofList name)
    else none
  | _ => none

/-- How many lines of a list are of some kind, with what is said of one and of several. -/
def remark (count : Nat) (one several : Octets) : Job Unit := do
  if count > 0 then
    complain ("WARNING: " ++ count.repr ++ " " ++ if count = 1 then one else several)

/-- Checks the files that a list names. -/
def check (d : Digesting) (a : Arguments) (list text : Octets) : Job Unit := do
  let shown := if list = "-" then "'standard input'" else quoteIfNeeded list
  let mut good := 0
  let mut wrong := 0
  let mut unread := 0
  let mut odd := 0
  for (line, n) in (bareLines text).zipIdx do
    match d.read? line with
    | none =>
      if a.has 'w' then
        complain (shown ++ ": " ++ (n + 1).repr ++ ": improperly formatted " ++ d.title
          ++ " checksum line")
      odd := odd + 1
    | some (wanted, name) =>
      match ← readOperand name with
      | .error e =>
        complain (quoteIfNeeded name ++ ": " ++ reason e)
        if !a.has 'S' then say (name ++ ": FAILED open or read\n")
        unread := unread + 1
      | .ok content =>
        if d.digest content = wanted then
          if !a.has 'S' && !a.has 'Q' then say (name ++ ": OK\n")
          good := good + 1
        else
          if !a.has 'S' then say (name ++ ": FAILED\n")
          wrong := wrong + 1
  if good + wrong + unread = 0 then
    warn (shown ++ ": no properly formatted checksum lines found")
  else
    if !a.has 'S' then
      remark odd "line is improperly formatted" "lines are improperly formatted"
      remark unread "listed file could not be read" "listed files could not be read"
      remark wrong "computed checksum did NOT match" "computed checksums did NOT match"
    if wrong > 0 || unread > 0 then mark 1

/-- Writes digests of files, or checks them. -/
def run (d : Digesting) : Job Unit := do
  let a ← arguments
    [⟨'b', "binary", .none, false⟩, ⟨'c', "check", .none, false⟩, ⟨'t', "text", .none, false⟩,
      ⟨'w', "warn", .none, false⟩, ⟨'z', "zero", .none, false⟩, ⟨'T', "tag", .none, true⟩,
      ⟨'Q', "quiet", .none, true⟩, ⟨'S', "status", .none, true⟩,
      ⟨'I', "ignore-missing", .none, true⟩, ⟨'X', "strict", .none, true⟩] 1
  if !a.has 'c' then
    for (letter, name) in [('Q', "quiet"), ('S', "status"), ('w', "warn")] do
      if a.has letter then
        misuse 1 ("the --" ++ name ++ " option is meaningful only when verifying checksums")
  eachOperand a.operands fun name text => do
    if a.has 'c' then d.check a name text
    else
      let isOdd := !a.has 'z' && name.toList.any fun c => c = '\\' || c = '\n' || c = '\r'
      let shown := if isOdd then
          String.ofList (name.toList.flatMap fun c =>
            if c = '\\' then ['\\', '\\'] else if c = '\n' then ['\\', 'n']
            else if c = '\r' then ['\\', 'r'] else [c])
        else name
      let line := if a.has 'T' then d.title ++ " (" ++ shown ++ ") = " ++ d.digest text
        else d.digest text ++ (if a.lastOf? ['b', 't'] = some 'b' then " *" else "  ") ++ shown
      say ((if isOdd then "\\" else "") ++ line ++ if a.has 'z' then "\x00" else "\n")

end Digesting

/-- Writes digests of four words. -/
def md5sum : Job Unit := Digesting.run { title := "MD5", digest := Digest.md5, digits := 32 }

/-- Writes digests of five words. -/
def sha1sum : Job Unit := Digesting.run { title := "SHA1", digest := Digest.sha1, digits := 40 }

/-- Writes digests of eight words. -/
def sha256sum : Job Unit :=
  Digesting.run { title := "SHA256", digest := Digest.sha256, digits := 64 }

/-- Writes remainders of files with their lengths. -/
def cksum : Job Unit := do
  let a ← arguments [⟨'z', "zero", .none, false⟩] 1
  eachOperand a.operands fun name text => do
    let behind := if a.operands.isEmpty then "" else " " ++ name
    say ((Digest.remainder text).repr ++ " " ++ text.length.repr ++ behind
      ++ if a.has 'z' then "\x00" else "\n")

end Modlet.Tool
