import Modlet.Host.Basic
import Modlet.Host.FileSystem

/-!
# A model of a machine

A `World` is the files of a machine, what the program has written to its streams, what it has told
the log, and the commands that it has called, each with the files as they stood at that moment. The
rest is a parameter, the `Setup` of the machine: what a command does, which may fail to start, do
anything to the files, and end in any way; how directories are made for a short while; what the log
shows; whether there are colours; and what the streams of the program refuse.

* `Behaviour`, `Scratch`, `Logger`: the parts of a setup.
* `World.put`: a stream takes a content, or refuses it.
* `World.host`: the host that works on a world.
-/

namespace Modlet

/-- What a command comes to, and the files that it leaves. -/
abbrev Behaviour := Invocation → FileSystem → Except IoError Completion × FileSystem

/-- How a directory is made for a short while, and how it goes again. Where it is and what it is
called is left open. -/
structure Scratch where
  /-- Makes a directory, and tells a path that leads to it. -/
  make : FileSystem → Except IoError (String × FileSystem)
  /-- The files without the directory that a path leads to, and without all that is in it. -/
  remove : String → FileSystem → FileSystem

namespace Scratch

/-- The location of the directory that is usually made. -/
def usualLocation : Location := FileSystem.temporary ++ ["scratch"]

/-- One and the same directory among those that are needed for a short while only. -/
def usual : Scratch where
  make files :=
    let path := FileSystem.absolutePath usualLocation
    match files.makeDirectory path with
    | .ok made => .ok (path, made)
    | .error e => .error e
  remove _ files := files.remove usualLocation

end Scratch

/-- What the log shows of an event, where the events before it are told, the first of them first. -/
abbrev Logger := List Build.Event → Build.Event → String

namespace Logger

/-- A log that shows every event up to a `Level` on a line of its own. -/
def upTo (level : Level) : Logger := fun _ event =>
  if event.level.rank ≤ level.rank then "[" ++ event.level.name ++ "] " ++ event.message ++ "\n"
  else ""

/-- The `logger` shows nothing but what is as important as the given level. -/
def ShowsUpTo (logger : Logger) (level : Level) : Prop :=
  ∀ before event, level.rank < event.level.rank → logger before event = ""

theorem showsUpTo_upTo (level : Level) : (upTo level).ShowsUpTo level :=
  fun _ _ h => if_neg (Nat.not_le.mpr h)

/-- What the log shows of some events, one after the other, where `before` are the events before
them. -/
def text (logger : Logger) (before : List Build.Event) : List Build.Event → String
  | [] => ""
  | event :: events => logger before event ++ logger.text (before ++ [event]) events

end Logger

/-- A stream that the program writes to. -/
inductive StandardStream
  | out
  | err
deriving DecidableEq, Repr

/-- What a machine does with what is asked of it. -/
structure Setup where
  /-- What commands do. -/
  behaviour : Behaviour := fun _ files => (.error .notFound, files)
  /-- How directories are made for a short while. -/
  scratch : Scratch := .usual
  /-- What the log shows, if it is set up for a verbose build and if it is not. -/
  logger : Bool → Logger := fun _ _ _ => ""
  /-- Whether what is written to the standard error may have colours. -/
  coloured : Bool := false
  /-- What a stream does with a content: it takes all of it, or refuses it for the given reason
  after as many bytes as are told. -/
  refuses : StandardStream → ByteArray → Option (Nat × IoError) := fun _ _ => none

/-- A stream of a machine takes all of a content, and `refuses` no part of it. -/
def Setup.Takes (setup : Setup) (stream : StandardStream) (content : ByteArray) : Prop :=
  setup.refuses stream content = none

/-- The state of a model machine. -/
structure World where
  /-- The files. -/
  files : FileSystem
  /-- What was written to the standard output. -/
  stdout : ByteArray := .empty
  /-- What was written to the standard error. -/
  stderr : ByteArray := .empty
  /-- The commands that were called, in order, each with the files as they stood then. -/
  called : List (Invocation × FileSystem) := []
  /-- What the log was told, in order. -/
  logged : List Build.Event := []

namespace World

/-- The world after a stream has taken a content behind what is on it. -/
def receive (stream : StandardStream) (content : ByteArray) (w : World) : World :=
  match stream with
  | .out => { w with stdout := w.stdout ++ content }
  | .err => { w with stderr := w.stderr ++ content }

/-- Writes to a stream, which takes as much of the content as the machine does not refuse. -/
def put (setup : Setup) (stream : StandardStream) (content : ByteArray) (w : World) :
    Except IoError Unit × World :=
  match setup.refuses stream content with
  | none => (.ok (), w.receive stream content)
  | some (taken, e) => (.error e, w.receive stream (content.extract 0 taken))

/-- Writes a file with `FileSystem.write`. A device that stands for a stream of the program hands on
what is written to it. -/
def writeFile (setup : Setup) (path : String) (content : ByteArray) (w : World) :
    Except IoError Unit × World :=
  match w.files.deviceAt? path with
  | some (.stream 1) => w.put setup .out content
  | some (.stream 2) => w.put setup .err content
  | _ =>
    match w.files.write path content with
    | .ok files => (.ok (), { w with files })
    | .error e => (.error e, w)

/-- The world after the log was told an event: what the `logger` shows of it is on the standard
error. -/
def note (logger : Logger) (event : Build.Event) (w : World) : World :=
  { w with
    stderr := w.stderr ++ Text.Utf8.encode (logger w.logged event)
    logged := w.logged ++ [event] }

/-- The world after the log was told some events, in order: their `Logger.text` is on the standard
error. -/
def noteAll (logger : Logger) (events : List Build.Event) (w : World) : World :=
  { w with
    stderr := w.stderr ++ Text.Utf8.encode (logger.text w.logged events)
    logged := w.logged ++ events }

/-- The host that works on a model machine of the given setup, each effect on a `World`. Its log is
set up for a verbose build or for one that is not. -/
def host (setup : Setup) (verbose : Bool) : Host (StateM World) where
  readFile path := do return (← get).files.read path
  writeFile path content := modifyGet (writeFile setup path content)
  makeDirectory := do
    let w ← get
    match setup.scratch.make w.files with
    | .ok (path, files) =>
      set { w with files }
      return .ok path
    | .error e => return .error e
  removeDirectory path := modify fun w => { w with files := setup.scratch.remove path w.files }
  execute command := do
    let w ← get
    let (result, files) := setup.behaviour command w.files
    set { w with files, called := w.called ++ [(command, w.files)] }
    return result
  print bytes := modifyGet (put setup .out bytes)
  alert text := modifyGet (put setup .err (Text.Utf8.encode text))
  coloured := setup.coloured
  log event := modify (note (setup.logger verbose) event)

end World

end Modlet
