import Modlet.CommandLine.Basic

/-!
# The declared arguments

The command line is declared, not read, by the program: there is a `Declaration` for every
`Argument`, and a library reads the arguments of the program by these. What it hands back are the
`Values` of all arguments, and the options are made of those. The library is a parameter, a
`Reader`; what it documents is in `Reader.IsDocumented`.

* `declared`: what is declared of every argument.
* `Declaration.written`: how an argument is written with a value.
* `Declaration.fill`: the values of an argument once those from elsewhere are filled in.
* `Options.ofValues`: the options that the values of the arguments make.
* `Reader.options`: the options that the arguments of the program ask for.
-/

namespace Modlet.CommandLine

/-- The arguments of `build`. -/
inductive Argument
  | verbose
  | input
  | source
  | output
  | emitC
  | cc
  | ccArg
deriving DecidableEq, Repr

/-- What becomes of the values of an argument when it is met, as the library calls it. -/
inductive Action
  /-- It has no value of its own; that it was met is told by `Action.met`. -/
  | setTrue
  /-- It has the value that it is met with. -/
  | set
  /-- The value that it is met with goes behind those that it has. -/
  | append
deriving DecidableEq, Repr

/-- The value of a flag that is met. -/
def Action.met : String := "true"

/-- The value of a flag that is not met. -/
def Action.notMet : String := "false"

/-- The variables of the environment that are set. -/
abbrev Environment := String → Option String

/-- What is declared of an argument. -/
structure Declaration where
  /-- Its name behind two dashes. An argument without a name is told by its place. -/
  long : Option String
  /-- What becomes of its values when it is met. -/
  action : Action := .set
  /-- Whether a value of it may begin with a dash. -/
  allowsHyphens : Bool := false
  /-- The variable that has its value if it is not met. -/
  envName? : Option String := none
  /-- Its value if there is none else. -/
  default? : Option String := none
  /-- Whether it is an argument of the command. -/
  ofCommand : Bool := true
  /-- Whether it can stand behind every command. -/
  isGlobal : Bool := false
deriving DecidableEq, Repr

namespace Declaration

/-- A flag with the given name. -/
def flag (long : String) : Declaration :=
  { long := some long, action := .setTrue, default? := some Action.notMet }

/-- Whether the argument can stand behind the command. -/
def isOffered (d : Declaration) : Bool := d.ofCommand || d.isGlobal

/-- What is written for the argument with the given value. -/
def written (d : Declaration) (value : String) : List String :=
  match d.long with
  | none => [value]
  | some name => if d.action = .setTrue then ["--" ++ name] else ["--" ++ name, value]

/-- The values of the argument if it is not met: that of its variable `envName?`, else its
default. -/
def fallback (d : Declaration) (env : Environment) : List String :=
  ((d.envName?.bind env).or d.default?).toList

/-- The values of the argument, where `met` are those that it was met with: these if there are any,
else those of `fallback`. -/
def fill (d : Declaration) (env : Environment) (met : List String) : List String :=
  if met = [] then d.fallback env else met

variable {d : Declaration} {env : Environment} {met : List String}

theorem fill_of_ne_nil (h : met ≠ []) : d.fill env met = met := if_neg h

/-- An argument without a `fallback` has the values that it was met with. -/
theorem fill_of_fallback (h : d.fallback env = []) : d.fill env met = met := by
  rw [fill, h]
  split
  · next hnil => exact hnil.symm
  · rfl

end Declaration

/-- What is declared of every argument. -/
def declared : Argument → Declaration
  | .verbose => { Declaration.flag "verbose" with ofCommand := false, isGlobal := true }
  | .input => { long := none }
  | .source => .flag "source"
  | .output => { long := some "output" }
  | .emitC => .flag "emit-c"
  | .cc => { long := some "cc", envName? := some "CC", default? := some "cc" }
  | .ccArg => { long := some "cc-arg", action := .append, allowsHyphens := true }

/-- The values of every argument, in order. -/
abbrev Values := Argument → List String

/-- What reads the arguments of the program, by what is `declared`. The library does that, so it is
a parameter of the build. -/
abbrev Reader := Environment → List String → Except UsageError Values

/-- The first value of an argument that has to have one. -/
def requireOne : List String → Except UsageError String
  | value :: _ => .ok value
  | [] => .error .missingRequiredArgument

/-- Whether the values of a flag tell that it was met. -/
def isMet (values : List String) : Bool := values.head? = some Action.met

/-- The options that the values of the arguments make, each field from the argument of its name. -/
def Options.ofValues (values : Values) : Except UsageError Options := do
  let input ← requireOne (values .input)
  let cc ← requireOne (values .cc)
  return {
    verbose := isMet (values .verbose)
    input
    source := isMet (values .source)
    output := (values .output).head?
    emitC := isMet (values .emitC)
    cc
    ccArgs := values .ccArg }

/-- The options that the arguments of the program ask for, where `read` reads their values. -/
def Reader.options (read : Reader) (env : Environment) (args : List String) :
    Except UsageError Options := do
  Options.ofValues (← read env args)

end Modlet.CommandLine
