import Modlet.Host.FileSystem
import Modlet.Host.Limit
import Modlet.Text.Octets

/-!
# A machine with open files

Commands read and write through open files, which are numbered in the order in which they were
opened. An open file has a place at which it goes on reading and writing, and whoever uses the same
open file shares that place. A pipe keeps what is written to its one end until it is read at the
other.
-/

namespace Modlet

/-- What an open file leads to. -/
inductive Channel
  /-- The standard output of the whole command. -/
  | stdout
  /-- The standard error of the whole command. -/
  | stderr
  | file (location : Location)
  | pipe (number : Nat)
  | device (device : Device)
deriving DecidableEq, Repr

/-- An open file. -/
structure OpenFile where
  /-- What it leads to. -/
  channel : Channel
  /-- The place at which it goes on. -/
  place : Nat := 0
  /-- Whether everything is written behind the end. -/
  atEnd : Bool := false
deriving Repr

/-- How a command ended. -/
inductive Outcome
  | exited (status : Nat)
  | killed (signal : Nat)
deriving DecidableEq, Repr

/-- A machine with commands at work. -/
structure Machine where
  /-- The files. -/
  files : FileSystem
  /-- What was written to the standard output. -/
  stdout : ByteArray := .empty
  /-- What was written to the standard error. -/
  stderr : ByteArray := .empty
  /-- What is in the pipes. -/
  pipes : Array ByteArray := #[]
  /-- The pipes from which maybe not everything is read. -/
  uncertain : List Nat := []
  /-- The open files. -/
  opened : Array OpenFile :=
    #[⟨.device .null, 0, false⟩, ⟨.stdout, 0, false⟩, ⟨.stderr, 0, false⟩]
  /-- The number of the latest process. -/
  processes : Nat := 1000
  /-- How many thousandths of a second have gone by. -/
  clock : Nat := 0
  /-- The signals that were sent and not yet taken, each with the process that it is for. -/
  signals : List (Nat × Nat) := []

namespace Machine

/-- Opens one more file, and tells its number. -/
def add (m : Machine) (file : OpenFile) : Nat × Machine :=
  (m.opened.size, { m with opened := m.opened.push file })

/-- A new pipe: the number of the file to write to it, and that of the file to read from it. -/
def addPipe (m : Machine) (content : ByteArray) (isUncertain : Bool := false) :
    (Nat × Nat) × Machine :=
  let channel := Channel.pipe m.pipes.size
  let uncertain := if isUncertain then m.pipes.size :: m.uncertain else m.uncertain
  let (writer, m) := { m with pipes := m.pipes.push content, uncertain }.add { channel }
  let (reader, m) := m.add { channel }
  ((writer, reader), m)

/-- Everything that a channel holds. -/
def content (m : Machine) : Channel → ByteArray
  | .stdout | .stderr => .empty
  | .file location =>
    match m.files.node? location with
    | some (.file content) => content
    | _ => .empty
  | .pipe number => m.pipes[number]?.getD .empty
  | .device device =>
    match FileSystem.Device.content device with
    | .ok content => content
    | .error _ => .empty

/-- The file with a number goes on at another place. -/
def setPlace (m : Machine) (number place : Nat) : Machine :=
  { m with opened := m.opened.modify number fun file => { file with place } }

/-- Reads an open file to its end. -/
def readAll (m : Machine) (number : Nat) : Octets × Machine :=
  match m.opened[number]? with
  | none => ("", m)
  | some file =>
    let content := m.content file.channel
    (Octets.ofBytes (content.extract file.place content.size), m.setPlace number content.size)

/-- The place behind the next line feed, or behind everything if there is none. The bound is on the
bytes that are left. -/
def lineEnd (content : ByteArray) : Nat → Nat → Nat
  | 0, place => place
  | bound + 1, place =>
    match content[place]? with
    | none => place
    | some 10 => place + 1
    | some _ => lineEnd content bound (place + 1)

/-- Reads a line off an open file, with the line feed that ends it; at the end nothing. -/
def readLine (m : Machine) (number : Nat) : Octets × Machine :=
  match m.opened[number]? with
  | none => ("", m)
  | some file =>
    let content := m.content file.channel
    let place := lineEnd content (content.size - file.place) file.place
    (Octets.ofBytes (content.extract file.place place), m.setPlace number place)

/-- Bytes written over a content from a place on. -/
def overwrite (content : ByteArray) (place : Nat) (bytes : ByteArray) : ByteArray :=
  let front := content.extract 0 place
  let gap : ByteArray := ⟨Array.replicate (place - front.size) 0⟩
  front ++ gap ++ bytes ++ content.extract (place + bytes.size) content.size

/-- How much is put into a pipe from which maybe not everything is read. Who writes more without end
has found that nobody reads it. -/
def mostKept : Nat := 131072

/-- Writes to an open file. -/
def write (m : Machine) (number : Nat) (text : Octets) : Except IoError Unit × Machine :=
  match m.opened[number]? with
  | none => (.error .notOpen, m)
  | some file =>
    let bytes := Octets.toBytes text
    match file.channel with
    | .stdout => (.ok (), { m with stdout := m.stdout ++ bytes })
    | .stderr => (.ok (), { m with stderr := m.stderr ++ bytes })
    | .pipe n =>
      let isFull := m.uncertain.contains n && (m.pipes[n]?.getD .empty).size > mostKept
      if isFull then (.error .noReader, m)
      else (.ok (), { m with pipes := m.pipes.modify n (· ++ bytes) })
    | .device .full => (if bytes.isEmpty then .ok () else .error .noRoom, m)
    | .device _ => (.ok (), m)
    | .file location =>
      match m.files.node? location with
      | some (.file content) =>
        let place := if file.atEnd then content.size else file.place
        let files := m.files.put location (.file (overwrite content place bytes))
        (.ok (), { m with files }.setPlace number (place + bytes.size))
      | _ => (.ok (), m)

/-- Sends a signal to a process. -/
def send (m : Machine) (process signal : Nat) : Machine :=
  { m with signals := m.signals ++ [(process, signal)] }

/-- The number for a new process. -/
def fork (m : Machine) : Nat × Machine :=
  (m.processes + 1, { m with processes := m.processes + 1 })

end Machine

/-- A call of a program, as the program finds it. -/
structure Call where
  /-- The path of the file that the program is in. -/
  path : Octets
  /-- The name that it was called by. -/
  name : Octets
  /-- Its arguments. -/
  args : List Octets
  /-- The open files that its streams are, by the numbers of the streams. -/
  streams : List (Nat × Nat) := [(0, 0), (1, 1), (2, 2)]
  /-- The directory in which it works. -/
  here : Location
  /-- Its environment. -/
  settings : List (Octets × Octets) := []
  /-- Its process. -/
  process : Nat := 1000
  /-- The process that called it. -/
  parent : Nat := 1
  /-- The signals that make no difference to it. -/
  ignored : List Nat := []
  /-- The rights that are held back from the files that it makes. -/
  mask : Nat := 0o022
  /-- The limits on what it may use, where they are others than usual. -/
  limits : List (Char × Limit) := []
deriving Repr

/-- The files of a machine, as a command finds them that works in a directory. -/
def Machine.filesFor (m : Machine) (here : Location) (mask : Nat) : FileSystem :=
  { m.files with here, mask }

/-- The machine after the files were changed by a command that works in a directory. -/
def Machine.withFiles (m : Machine) (files : FileSystem) : Machine :=
  { m with files := { files with here := m.files.here, mask := m.files.mask } }

/-- How programs are run: to their end, unless one cannot be started. -/
abbrev Launch := Call → Machine → Except IoError Outcome × Machine

end Modlet
