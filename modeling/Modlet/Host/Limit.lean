import Modlet.Host.IoError
import Modlet.Text.Octets

/-!
# Limits on what a process may use

Of some things a process may use only so much. Each has a soft limit, which counts, and a hard one,
up to which the soft one can be raised. A hard limit can be lowered but not raised again. Limits are
handed on to the processes that a process calls.
-/

namespace Modlet

/-- Something of which a process may use only so much. -/
structure Resource where
  /-- The letter that it goes by. -/
  letter : Char
  /-- Its name. -/
  name : Octets
  /-- How much of it counts as one. -/
  unit : Nat

/-- How much of something a process may use. -/
structure Limit where
  /-- What counts. -/
  soft : Nat
  /-- What the soft limit can be raised to. -/
  hard : Nat
deriving DecidableEq, Repr

namespace Limit

/-- The limit that is none. -/
def unlimited : Nat := Nat.pow 2 64 - 1

/-- The things that are limited. -/
def resources : List Resource :=
  [⟨'t', "time(seconds)", 1⟩, ⟨'f', "file(blocks)", 512⟩, ⟨'d', "data(kbytes)", 1024⟩,
    ⟨'s', "stack(kbytes)", 1024⟩, ⟨'c', "coredump(blocks)", 512⟩, ⟨'m', "memory(kbytes)", 1024⟩,
    ⟨'l', "locked memory(kbytes)", 1024⟩, ⟨'p', "process", 1⟩, ⟨'n', "nofiles", 1⟩,
    ⟨'v', "vmemory(kbytes)", 1024⟩, ⟨'w', "locks", 1⟩, ⟨'r', "rtprio", 1⟩]

/-- The limits that a process has if nothing else is said. -/
def usual : Char → Limit
  | 's' => ⟨8192 * 1024, unlimited⟩
  | 'c' => ⟨0, unlimited⟩
  | 'l' => ⟨8192 * 1024, 8192 * 1024⟩
  | 'p' => ⟨128620, 128620⟩
  | 'n' => ⟨20000, 20000⟩
  | 'r' => ⟨0, 0⟩
  | _ => ⟨unlimited, unlimited⟩

/-- The limit after the soft one, the hard one or both are set. -/
def set (limit : Limit) (soft hard : Bool) (value : Nat) : Except IoError Limit :=
  let next : Limit :=
    { soft := if soft then value else limit.soft, hard := if hard then value else limit.hard }
  if next.soft > next.hard then .error (.system 22)
  else if next.hard > limit.hard then .error (.system 1)
  else .ok next

end Limit

end Modlet
