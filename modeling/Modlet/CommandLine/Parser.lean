import Modlet.CommandLine.Declared

/-!
# A reader of the command line

The `Reader` that is used here: `parse` reads what is `declared` from the arguments of the program.
Arguments are read from left to right. A long option starts with two dashes and may have its value
behind an equals sign; short options are single letters that can share a dash, and what stands
behind a letter that takes a value is that value. Otherwise the value of an option is the next
argument. Two dashes alone end the options. An option is settled when the next one is met, so an
argument that fits nowhere is found before a value that does not fit.

* `Draft.give`: reads one argument behind the command.
* `Draft.finish`: the values of all arguments once everything is read.
* `parse`: the reader.
-/

namespace Modlet.CommandLine

/-- An option without a value. -/
inductive Flag
  | verbose
  | source
  | emitC
  | help
  | version
deriving DecidableEq, Repr

/-- An option with a value. -/
inductive Setting
  | output
  | cc
  | ccArg
deriving DecidableEq, Repr

/-- Any option. -/
inductive Opt
  | flag (flag : Flag)
  | setting (setting : Setting)
deriving DecidableEq, Repr

/-- The flag before the command with the given long name. -/
def Flag.ofLong? (name : List Char) : Option Flag :=
  match String.ofList name with
  | "verbose" => some .verbose
  | "help" => some .help
  | "version" => some .version
  | _ => none

/-- The flag before the command with the given letter. -/
def Flag.ofShort? : Char → Option Flag
  | 'v' => some .verbose
  | 'h' => some .help
  | 'V' => some .version
  | _ => none

/-- The option of `build` with the given long name. -/
def Opt.ofLong? (name : List Char) : Option Opt :=
  match String.ofList name with
  | "verbose" => some (.flag .verbose)
  | "help" => some (.flag .help)
  | "source" => some (.flag .source)
  | "emit-c" => some (.flag .emitC)
  | "output" => some (.setting .output)
  | "cc" => some (.setting .cc)
  | "cc-arg" => some (.setting .ccArg)
  | _ => none

/-- The option of `build` with the given letter. -/
def Opt.ofShort? : Char → Option Opt
  | 'v' => some (.flag .verbose)
  | 'h' => some (.flag .help)
  | 's' => some (.flag .source)
  | 'o' => some (.setting .output)
  | _ => none

/-- What an argument looks like. -/
inductive Shape
  /-- Two dashes alone. -/
  | separator
  /-- A long option, with the value behind its equals sign if it has one. -/
  | long (name : List Char) (value : Option String)
  /-- Letters of short options behind one dash. -/
  | short (letters : List Char)
  /-- Anything else. -/
  | plain
deriving DecidableEq, Repr

/-- The shape of an argument. -/
def Shape.of (arg : String) : Shape :=
  match arg.toList with
  | ['-', '-'] => .separator
  | '-' :: '-' :: rest =>
    let value := match rest.dropWhile (· ≠ '=') with
      | [] => none
      | _ :: value => some (String.ofList value)
    .long (rest.takeWhile (· ≠ '=')) value
  | '-' :: c :: letters => .short (c :: letters)
  | _ => .plain

/-! ### The options of `build` -/

/-- What has been read of a call of `build`. -/
structure Draft where
  /-- The flags given so far. -/
  flags : List Flag := []
  /-- The input, once it is given. -/
  input : Option String := none
  /-- The value of `--output`, once it is settled. -/
  output : Option String := none
  /-- The value of `--cc`, once it is settled. -/
  cc : Option String := none
  /-- The values of `--cc-arg` that are settled, in order. -/
  ccArgs : List String := []
  /-- The option met last that is not settled, with its value if it has one already. -/
  pending? : Option (Setting × Option String) := none
deriving DecidableEq, Repr

namespace Draft

/-- Gives a value to a setting. Only `--cc-arg` can be given more than once, and an output needs a
name. -/
def assign (draft : Draft) (setting : Setting) (value : String) : Except UsageError Draft :=
  match setting with
  | .output =>
    if draft.output.isSome then .error .argumentConflict
    else if value = "" then .error .invalidValue
    else .ok { draft with output := some value }
  | .cc =>
    if draft.cc.isSome then .error .argumentConflict else .ok { draft with cc := some value }
  | .ccArg => .ok { draft with ccArgs := draft.ccArgs ++ [value] }

/-- Settles the option met last, which has to have a value by now. -/
def settle (draft : Draft) : Except UsageError Draft :=
  match draft.pending? with
  | none => .ok draft
  | some (_, none) => .error .invalidValue
  | some (setting, some value) => assign { draft with pending? := none } setting value

/-- Reads a flag. Help is given at once. -/
def giveFlag (draft : Draft) (flag : Flag) : Except UsageError Draft := do
  let draft ← draft.settle
  match flag with
  | .help => .error .displayHelp
  | .version => .error .displayVersion
  | flag =>
    if flag ∈ draft.flags then .error .argumentConflict
    else .ok { draft with flags := flag :: draft.flags }

/-- Reads a setting; without a value it waits for one. -/
def giveSetting (draft : Draft) (setting : Setting) (value : Option String) :
    Except UsageError Draft := do
  let draft ← draft.settle
  match value with
  | some value => draft.assign setting value
  | none => .ok { draft with pending? := some (setting, none) }

/-- Reads an argument that is no option. -/
def givePlain (draft : Draft) (arg : String) : Except UsageError Draft :=
  match draft.input with
  -- There is one place only, whatever becomes of the option met last.
  | some _ => .error .unknownArgument
  | none => do
    let draft ← draft.settle
    .ok { draft with input := some arg }

/-- Reads the letters behind a dash. -/
def giveLetters (draft : Draft) : List Char → Except UsageError Draft
  | [] => .ok draft
  | c :: letters =>
    match Opt.ofShort? c with
    | none => .error .unknownArgument
    | some (.flag flag) => do
      let draft ← draft.giveFlag flag
      draft.giveLetters letters
    | some (.setting setting) =>
      let value := match letters with
        | [] => none
        | '=' :: value => some (String.ofList value)
        | letters => some (String.ofList letters)
      draft.giveSetting setting value

/-- The setting that waits for its value. -/
def waiting? (draft : Draft) : Option Setting :=
  match draft.pending? with
  | some (setting, none) => some setting
  | _ => none

/-- Reads one argument before the separator, by its shape. A value of `--cc-arg` may look like
anything. -/
def give (draft : Draft) (arg : String) : Except UsageError Draft :=
  -- Such a value is taken before its shape is looked at.
  if draft.waiting? = some .ccArg then .ok { draft with pending? := some (.ccArg, some arg) }
  else
    match Shape.of arg with
    | .long name value =>
      match Opt.ofLong? name with
      | none => .error .unknownArgument
      | some (.flag flag) =>
        if value.isSome then .error .tooManyValues else draft.giveFlag flag
      | some (.setting setting) => draft.giveSetting setting value
    | .short letters => draft.giveLetters letters
    | .separator | .plain =>
      match draft.waiting? with
      | some setting => .ok { draft with pending? := some (setting, some arg) }
      | none => draft.givePlain arg

/-- Whether an argument ends the options: two dashes that are no value of `--cc-arg`. -/
def endsOptions (draft : Draft) (arg : String) : Bool :=
  Shape.of arg = .separator && draft.waiting? ≠ some .ccArg

/-- Reads the arguments behind the separator, none of which is an option. -/
def giveAllPlain (draft : Draft) : List String → Except UsageError Draft
  | [] => .ok draft
  | arg :: args => do
    let draft ← draft.givePlain arg
    draft.giveAllPlain args

/-- Reads all arguments of `build`. -/
def giveAll (draft : Draft) : List String → Except UsageError Draft
  | [] => .ok draft
  | arg :: args =>
    if draft.endsOptions arg then draft.giveAllPlain args
    else do
      let draft ← draft.give arg
      draft.giveAll args

/-- The value of a flag that has been met, if it has. -/
def metFlag (draft : Draft) (flag : Flag) : List String :=
  if flag ∈ draft.flags then [Action.met] else []

/-- The values that have been read of an argument. -/
def given (draft : Draft) : Argument → List String
  | .verbose => draft.metFlag .verbose
  | .input => draft.input.toList
  | .source => draft.metFlag .source
  | .output => draft.output.toList
  | .emitC => draft.metFlag .emitC
  | .cc => draft.cc.toList
  | .ccArg => draft.ccArgs

/-- A draft that has read `--verbose` if it stood before the command. -/
def withVerbose (draft : Draft) (verbose : Bool) : Draft :=
  if verbose then { draft with flags := .verbose :: draft.flags } else draft

/-- The values of all arguments once everything is read, where `verbose` tells whether `--verbose`
stood before the command. The input has to be given; what else is not given is filled in. -/
def finish (draft : Draft) (env : Environment) (verbose : Bool) : Except UsageError Values := do
  let draft ← draft.settle
  if draft.input = none then .error .missingRequiredArgument
  else
    let read := draft.withVerbose verbose
    .ok fun argument => (declared argument).fill env (read.given argument)

end Draft

/-- Reads the arguments of `build`. -/
def parseBuild (env : Environment) (verbose : Bool) (args : List String) :
    Except UsageError Values := do
  let draft ← Draft.giveAll {} args
  draft.finish env verbose

/-! ### Before the command -/

/-- The commands that there are. -/
def commands : List String := ["build", "help"]

/-- Reads a flag before the command, where `verbose` tells whether `--verbose` was given. -/
def giveFlagBefore (verbose : Bool) : Flag → Except UsageError Bool
  | .help => .error .displayHelp
  | .version => .error .displayVersion
  | _ => if verbose then .error .argumentConflict else .ok true

/-- Reads the letters behind a dash before the command. -/
def giveLettersBefore (verbose : Bool) : List Char → Except UsageError Bool
  | [] => .ok verbose
  | c :: letters =>
    match Flag.ofShort? c with
    | none => .error .unknownArgument
    | some flag => do
      let verbose ← giveFlagBefore verbose flag
      giveLettersBefore verbose letters

/-- What help is wanted for has to be a command. -/
def parseHelp : List String → UsageError
  | [] => .displayHelp
  | [topic] => if topic ∈ commands then .displayHelp else .invalidSubcommand
  | _ => .invalidSubcommand

/-- Reads the arguments from the start or behind some flags. -/
def parseFrom (env : Environment) (verbose : Bool) : List String → Except UsageError Values
  | [] => .error (if verbose then .missingSubcommand else .displayHelpOnMissing)
  | "build" :: args => parseBuild env verbose args
  | "help" :: topics => .error (parseHelp topics)
  | arg :: args =>
    match Shape.of arg with
    | .long name value =>
      match Flag.ofLong? name with
      | none => .error .unknownArgument
      | some flag =>
        if value.isSome then .error .tooManyValues
        else do
          let verbose ← giveFlagBefore verbose flag
          parseFrom env verbose args
    | .short letters => do
      let verbose ← giveLettersBefore verbose letters
      parseFrom env verbose args
    | .plain => .error .invalidSubcommand
    | .separator =>
      match args with
      | [] => .error (if verbose then .missingSubcommand else .displayHelpOnMissing)
      | arg :: _ => .error (if arg ∈ commands then .unknownArgument else .invalidSubcommand)

/-- Reads the arguments of the program. -/
def parse : Reader := fun env args => parseFrom env false args

end Modlet.CommandLine
