import Modlet.CText.Generate
import Modlet.Diagnostic.Basic
import Modlet.Program.Parser

/-!
# Compiling a unit

A unit is a source with a name. Compiling it gives its C text, or the diagnostic of the first
fault, and tells on the way what happens. A session compiles units one by one and collects the
diagnostics; it keeps nothing else from one unit to the next.
-/

namespace Modlet

/-- How much an event matters to a reader of the log, the most important ones first. -/
inductive Level
  | error
  | warn
  | info
  | debug
  | trace
deriving DecidableEq, Repr

/-- The name of a level as the log shows it. -/
def Level.name : Level → String
  | .error => "ERROR"
  | .warn => "WARN"
  | .info => "INFO"
  | .debug => "DEBUG"
  | .trace => "TRACE"

/-- The level with the given name, in letters of any case. -/
def Level.ofName? (name : String) : Option Level :=
  [.error, .warn, .info, .debug, .trace].find? fun level => level.name == name.toUpper

/-- The number of a level: the fewer events a log of that level shows, the smaller it is. -/
def Level.rank : Level → Nat
  | .error => 1
  | .warn => 2
  | .info => 3
  | .debug => 4
  | .trace => 5

/-- What happens while a unit is compiled. -/
inductive Event
  /-- An invalid token was read. -/
  | invalidToken (token : Token)
  /-- A module was read from a file to its end. -/
  | parsed (program : Module) (file : String)
  /-- The prototypes of a module are about to be written. -/
  | prototypes (program : Module)
  /-- The definitions of a module are about to be written. -/
  | definitions (program : Module)
deriving Repr

namespace Event

/-- The `Level` of an event. -/
def level : Event → Level
  | .invalidToken _ => .trace
  | .parsed .. | .prototypes _ | .definitions _ => .debug

/-- An event as the log shows it. -/
def message : Event → String
  | .invalidToken token => "lexer error at " ++ token.pos.toText ++ ": " ++ token.text
  | .parsed program file =>
    "parsed module `" ++ program.name ++ "` from " ++ file ++ " ("
      ++ program.statements.length.repr ++ " top-level statements)"
  | .prototypes program => "codegen: forward declarations for `" ++ program.name ++ "`"
  | .definitions program => "codegen: definitions for `" ++ program.name ++ "`"

end Event

/-- What compiling a unit came to. -/
structure Compilation where
  /-- The C text of the unit, or what is wrong with it. -/
  result : Except Diagnostic String
  /-- What happened, in order. -/
  events : List Event

/-- Compiles the unit with the given name and source: `Module.read`, and then `CText.ofModule` if
there is no fault. -/
def compile (file source : String) : Compilation :=
  match Module.read source with
  | .ok program reader =>
    { result := .ok (CText.ofModule program)
      events := reader.invalid.map Event.invalidToken
        ++ [Event.parsed program file, Event.prototypes program, Event.definitions program] }
  | .error fault reader =>
    { result := .error (.ofError (.ofFault file fault) source)
      events := reader.invalid.map .invalidToken }

/-- A unit that `Module.parse` accepts is compiled to the C text of its program. -/
theorem compile_result_of_parse {file source : String} {program : Module}
    (h : Module.parse file source = .ok program) :
    (compile file source).result = .ok (CText.ofModule program) := by
  unfold Module.parse at h
  unfold compile
  cases hread : Module.read source <;> rw [hread] at h <;> cases h
  rfl

/-- The error of a unit that `Module.parse` refuses is shown with its source, as a `Diagnostic`. -/
theorem compile_result_of_error {file source : String} {e : SourceError}
    (h : Module.parse file source = .error e) :
    (compile file source).result = .error (.ofError e source) := by
  unfold Module.parse at h
  unfold compile
  cases hread : Module.read source <;> rw [hread] at h <;> cases h
  rfl

/-- A compiler that has been used for some units, with the diagnostics that they gave. -/
structure Session where
  /-- The diagnostics of the units so far, in order. -/
  diagnostics : List Diagnostic := []
deriving DecidableEq, Repr

/-- Compiles one more unit: its C text, or nothing if it has errors, which the session keeps in
order. -/
def Session.compile (session : Session) (file source : String) : Option String × Session :=
  match (Modlet.compile file source).result with
  | .ok text => (some text, session)
  | .error diagnostic => (none, { diagnostics := session.diagnostics ++ [diagnostic] })

/-- A unit that is to be compiled. -/
structure SourceUnit where
  /-- Its name. -/
  file : String
  /-- Its source. -/
  source : String
deriving DecidableEq, Repr

/-- Compiles units one after the other with `Session.compile`: what each of them gave, and the
session behind the last. -/
def Session.compileAll (session : Session) : List SourceUnit → List (Option String) × Session
  | [] => ([], session)
  | unit :: units =>
    let (result, next) := session.compile unit.file unit.source
    let (results, last) := next.compileAll units
    (result :: results, last)

end Modlet
