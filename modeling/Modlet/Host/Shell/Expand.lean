import Modlet.Host.Shell.Arithmetic
import Modlet.Host.Shell.State
import Modlet.Text.Glob

/-!
# Filling in words

Before a command is run, values of parameters, outputs of commands and results of calculations are
filled in. What is filled in without quotes is taken apart at separators, and a word with a pattern
in it becomes the names of the files that it stands for.
-/

namespace Modlet.Shell

/-- Characters, each with whether it is quoted. -/
abbrev Marked := List (Char × Bool)

/-- Characters that all are quoted or all are not. -/
def marked (quoted : Bool) (text : Octets) : Marked := text.toList.map (·, quoted)

/-- The text of marked characters. -/
def unmarked (text : Marked) : Octets := String.ofList (text.map Prod.fst)

/-- Words that are being put together. -/
structure Fields where
  /-- The complete ones, the latest first. -/
  complete : List Marked := []
  /-- The one that is not complete, with its latest character first. -/
  unfinished? : Option Marked := none
  /-- Whether a blank completed the latest one. -/
  afterBlank : Bool := false

namespace Fields

/-- Goes on with the word that is not complete. -/
def extend (f : Fields) (text : Marked) : Fields :=
  if text.isEmpty then f
  else
    { f with unfinished? := some (text.reverse ++ f.unfinished?.getD []), afterBlank := false }

/-- There is a word, even if nothing is put into it. -/
def touch (f : Fields) : Fields := { f with unfinished? := some (f.unfinished?.getD []) }

/-- Completes a word, if there is one. -/
def close (f : Fields) : Fields :=
  match f.unfinished? with
  | some text => { f with complete := text.reverse :: f.complete, unfinished? := none }
  | none => f

/-- Goes on with a character that may separate words. Blanks between words say nothing more, and one
other separator may stand among them. -/
def separate (separators : List Char) (f : Fields) (c : Char) : Fields :=
  if !separators.contains c then f.extend [(c, false)]
  else if c = ' ' || c = '\t' || c = '\n' then
    match f.unfinished? with
    | some _ => { f.close with afterBlank := true }
    | none => f
  else
    match f.unfinished?, f.afterBlank with
    | none, true => { f with afterBlank := false }
    | none, false => { f with complete := [] :: f.complete }
    | some _, _ => { f.close with afterBlank := false }

/-- The words. -/
def words (f : Fields) : List Marked := f.close.complete.reverse

end Fields

namespace Sh

/-- The characters that separate words. -/
def separators : Sh (List Char) := do
  return ((← value? "IFS").getD " \t\n").toList

/-- The value of a parameter that has one value. -/
def parameter? (name : Octets) : Sh (Option Octets) := do
  let s ← ask id
  match name with
  | "#" => return some s.args.length.repr
  | "?" => return some s.status.repr
  | "$" => return some s.root.repr
  | "!" => return s.background.map Nat.repr
  | "-" => return some (String.ofList (s.options.filter Char.isAlpha))
  | "0" => return some s.name
  | name =>
    if name.toList.all Char.isDigit && name ≠ "" then
      match Integer.digitsValue 10 name.toList with
      | 0 => return some s.name
      | n + 1 => return s.args[n]?
    else value? name

/-- The arguments in one text. -/
def joined : Sh Octets := do
  let between := String.ofList ((← separators).take 1)
  return between.intercalate (← ask (·.args))

/-- Stops because a parameter has no value. -/
def unset {α : Type} (name : Octets) (orNull : Bool) : Sh α :=
  fail (name ++ ": parameter not set" ++ if orNull then " or null" else "")

/-- The value of a variable in a calculation. -/
def numberOf (name : Octets) : Sh Int := do
  match ← value? name with
  | none => return 0
  | some text => if text.toList.all Integer.isBlank then return 0 else integer 0 text

/-- The result of the calculation that a text is. -/
def calculate (text : Octets) : Sh Int := do
  let refuse (message : Octets) : Sh Int :=
    fail ("arithmetic expression: " ++ message ++ ": \"" ++ text ++ "\"")
  let access : Calculation.Access Sh :=
    { get := numberOf, set := fun name n => setValue name n.repr, refuse
      burst := throw (.killed 8) }
  Calculation.run access (Calculation.ofText text.toList)

/-- The home directory of a user, as the list of users says. -/
def homeOf? (files : FileSystem) (user : Octets) : Option Octets :=
  match files.read "/etc/passwd" with
  | .error _ => none
  | .ok content =>
    let lines := Text.pieces '\n' (Octets.ofBytes content).toList
    (lines.map (Text.pieces ':')).findSome? fun parts =>
      if parts.head? = some user.toList then parts[5]?.map String.ofList else none

/-- The user that a word behind a tilde names, and the rest of the word. With `everywhere` a colon
ends the name. -/
def splitUser (everywhere : Bool) : Word → Option (List Char × Word)
  | [] => some ([], [])
  | .char c false :: rest =>
    if c = '/' || (everywhere && c = ':') then some ([], .char c false :: rest)
    else (splitUser everywhere rest).map fun (name, rest) => (c :: name, rest)
  | _ => none

/-- Puts a home directory in the place of a tilde at the front of a word, and with `everywhere` also
of one behind a colon. -/
def fillHome (everywhere : Bool) (word : Word) : Sh Word := do
  let home ← value? "HOME"
  let files ← files
  let homeAt (rest : Word) : Option (List Piece × Word) := do
    let (user, rest) ← splitUser everywhere rest
    let home ← if user.isEmpty then home else homeOf? files (String.ofList user)
    return (home.toList.map (Piece.char · true), rest)
  let rec go : Nat → Bool → Word → Word
    | 0, _, word => word
    | _, _, [] => []
    | bound + 1, front, piece :: rest =>
      let (isTilde, isColon) : Bool × Bool := match piece with
        | .char c false => (c = '~', c = ':')
        | _ => (false, false)
      match if front && isTilde then homeAt rest else none with
      | some (home, rest) => home ++ go bound false rest
      | none => piece :: go bound (everywhere && isColon) rest
  return go word.length true word

/-- Goes on with something that is filled in. -/
def addText (splits quoted : Bool) (text : Octets) (f : Fields) : Sh Fields := do
  let separators ← separators
  if quoted then return (f.extend (marked true text)).touch
  else if splits then return text.toList.foldl (Fields.separate separators) f
  else return f.extend (marked false text)

/-- Goes on with the arguments. -/
def addArgs (splits quoted : Bool) (name : Octets) (args : List Octets) (f : Fields) :
    Sh Fields := do
  let separators ← separators
  if !splits || (quoted && name = "*") then
    addText splits quoted ((String.ofList (separators.take 1)).intercalate args) f
  else
    let (f, _) ← args.foldlM (fun (f, isFirst) arg => do
      let f := if isFirst then f else f.close
      return (← addText splits quoted arg f, false)) (f, true)
    return f

/-- What is left of a text that is cut where a pattern says. -/
def trimmed (use : Use) (pattern : Marked) (text : Octets) : Octets :=
  let parts := Glob.ofText pattern
  let chars := text.toList
  match use with
  | .trimFront longest =>
    match Glob.matchFront? parts longest chars with
    | some n => String.ofList (chars.drop n)
    | none => text
  | .trimBack longest =>
    match Glob.matchBack? parts longest chars with
    | some n => String.ofList (chars.take n)
    | none => text
  | _ => text

/-- What is left of arguments that are cut where a pattern says. The front is cut off the first
one, and where the back is cut off one, those behind it go too. -/
def trimmedArgs (use : Use) (pattern : Marked) (args : List Octets) : List Octets :=
  match use with
  | .trimFront _ =>
    match args with
    | [] => []
    | first :: others => trimmed use pattern first :: others
  | .trimBack longest =>
    let fits (n : Nat) : Bool :=
      (Glob.matchBack? (Glob.ofText pattern) longest (args[n]?.getD "").toList).isSome
    let places := List.range args.length
    match (if longest then places else places.reverse).find? fits with
    | some n => args.take n ++ (args[n]?.toList.map (trimmed use pattern))
    | none => args
  | _ => args

/-- Fills in the pieces of a word. With `inner` the word stands behind a parameter, and its own
characters are taken apart too. With `everywhere` a tilde behind a colon stands for a home directory
there. The bound is on the depth of words inside words. -/
def fillPieces (capture : Option Node → Sh Octets) (everywhere : Bool) :
    Nat → (splits inner : Bool) → Word → Fields → Sh Fields
  | 0, _, _, _, f => return f
  | bound + 1, splits, inner, word, f =>
    let inside (word : Word) (f : Fields) : Sh Fields := do
      fillPieces capture everywhere bound splits true (← fillHome everywhere word) f
    let one (word : Word) : Sh Marked := do
      let word ← fillHome false word
      return (← fillPieces capture false bound false false word {}).words.flatten
    (beforeStop word).foldlM (fun f piece => do
      match piece with
      | .stop => return f
      | .char c quoted =>
        let separators ← separators
        if inner && splits && !quoted then return Fields.separate separators f c
        else return f.extend [(c, quoted)]
      | .empty => return f.touch
      | .command body quoted => addText splits quoted (← capture body) f
      | .arithmetic word quoted =>
        addText splits quoted (← calculate (unmarked (← one word))).repr f
      | .parameter name use word quoted =>
        let several := name = "@" || name = "*"
        let args ← ask (·.args)
        let value ← if several then some <$> joined else parameter? name
        let add (f : Fields) : Sh Fields := do
          if several then addArgs splits quoted name args f
          else
            match value with
            | some text => addText splits quoted text f
            | none => if ← option 'u' then unset name false else addText splits quoted "" f
        let addOne (f : Fields) : Sh Fields := add (if quoted then f.touch else f)
        let missing (orNull : Bool) : Bool :=
          match value with
          | none => true
          | some text =>
            let isApart : Bool := match use with
              | .instead _ => false
              | _ => name = "@" && quoted && splits && args.length > 1
            orNull && text = "" && !isApart
        match use with
        | .invalid => fail "Bad substitution"
        | .value => add f
        | .length =>
          match value with
          | some text => addText splits quoted text.length.repr f
          | none =>
            if ← option 'u' then unset name false else addText splits quoted "0" f
        | .orElse orNull =>
          if missing orNull then do
            let f := if quoted then f.touch else f
            inside word f
          else addOne f
        | .instead orNull =>
          if missing orNull then return if quoted then f.touch else f
          else do
            let f := if quoted then f.touch else f
            inside word f
        | .orFail orNull =>
          if missing orNull then
            let message := unmarked (← one word)
            if word.isEmpty then unset name orNull else fail (name ++ ": " ++ message)
          else addOne f
        | .orAssign orNull =>
          if missing orNull then
            let text := unmarked (← one word)
            setValue name text
            addText splits quoted text f
          else addOne f
        | .trimFront _ | .trimBack _ =>
          let pattern ← one word
          if several && splits && !(quoted && name = "*") then
            let f := if quoted then f.touch else f
            addArgs splits quoted name (trimmedArgs use pattern args) f
          else
            match value with
            | some text => addText splits quoted (trimmed use pattern text) f
            | none => add f) f

/-- The depth to which words can stand inside words. -/
def depth : Nat := 1000

/-- Fills in a word that stays one. -/
def fillOne (capture : Option Node → Sh Octets) (everywhere : Bool) (word : Word) :
    Sh Marked := do
  return (← fillPieces capture everywhere depth false false word {}).words.flatten

/-- Fills in a word that stays one, and where a tilde stands for the home directory. -/
def fillText (capture : Option Node → Sh Octets) (everywhere : Bool) (word : Word) :
    Sh Octets := do
  return unmarked (← fillOne capture everywhere (← fillHome everywhere word))

/-! ### Names of files -/

/-- The parts of a marked text between its slashes. -/
def splitSlashes : Marked → List Marked
  | [] => [[]]
  | (c, quoted) :: rest =>
    match splitSlashes rest with
    | [] => [[(c, quoted)]]
    | first :: others =>
      if c = '/' then [] :: first :: others else ((c, quoted) :: first) :: others

/-- The paths that go on from others with a name that a pattern stands for. -/
def followPattern (files : FileSystem) (last : Bool) (pattern : Marked) (front : Octets) :
    List Octets :=
  let parts := Glob.ofText pattern
  let behind := if last then "" else "/"
  if !Glob.isPattern parts then [front ++ String.ofList (Glob.literal parts) ++ behind]
  else
    match files.locate (if front = "" then "." else Octets.toText front) with
    | .error _ => []
    | .ok location =>
      let hidden := parts.head? = some (.char '.')
      let names := [".", ".."] ++ (files.entries location).map Octets.ofText
      let fitting := names.filter fun name =>
        (hidden || name.toList.head? ≠ some '.') && Glob.fits parts name.toList
      fitting.map (front ++ · ++ behind)

/-- The paths that a pattern stands for. -/
def expandPattern (files : FileSystem) : List Marked → List Octets → List Octets
  | [], fronts => fronts
  | pattern :: others, fronts =>
    expandPattern files others (fronts.flatMap (followPattern files others.isEmpty pattern))

/-- The names that a word stands for: those of files, if it is a pattern and there are any. -/
def expandNames (files : FileSystem) (word : Marked) : List Octets :=
  let parts := Glob.ofText word
  if !Glob.isPattern parts then [unmarked word]
  else
    let paths := expandPattern files (splitSlashes word) [""]
    let there := paths.filter fun path => (files.statName (Octets.toText path)).isOk
    if there.isEmpty then [unmarked word] else there.mergeSort (· ≤ ·)

/-- Fills in a word that can become several. -/
def fillWords (capture : Option Node → Sh Octets) (word : Word) : Sh (List Octets) := do
  let words := (← fillPieces capture false depth true false (← fillHome false word) {}).words
  if ← option 'f' then return words.map unmarked
  else
    let files ← files
    return words.flatMap (expandNames files)

end Sh

end Modlet.Shell
