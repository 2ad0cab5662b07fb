import Modlet.Host.Tool.Calling
import Modlet.Host.Tool.Entries
import Modlet.Host.Tool.Transfer
import Modlet.Text.Regex

/-!
# Walking through directories

What is at some paths and below them is looked at, and for each an expression says what is done. An
expression is put together from conditions and actions, of which the later ones count only as far as
the earlier ones leave anything open.
-/

namespace Modlet.Tool

open Job

/-- An expression. -/
inductive Query
  | always (holds : Bool)
  /-- The last name has a shape. -/
  | named (folds : Bool) (shape : List Glob.Part)
  /-- The path has a shape. -/
  | pathed (folds : Bool) (shape : List Glob.Part)
  /-- The path is what an expression stands for. -/
  | shaped (regex : Regex)
  /-- What is there is of one of some kinds. -/
  | kind (letters : List Char)
  | empty
  /-- The size in units compares with a number. -/
  | size (order : Ordering) (number unit : Nat)
  /-- It may be run. -/
  | runnable
  /-- Its rights are the given ones, or among them all or any of these. -/
  | rights (sign? : Option Char) (wanted : Nat)
  /-- It is a link to a path of a shape. -/
  | linked (folds : Bool) (shape : List Glob.Part)
  /-- It is a name of something else. -/
  | same (as : Location)
  /-- It was written after something else. -/
  | newer (than : Location)
  | print (ending : Octets)
  /-- Writes a format with what is there filled in. -/
  | written (format : List Char)
  /-- Runs a program for each path, or for all of them in the end. -/
  | run (together : Bool) (place : Nat) (command : List Octets)
  | delete
  | prune
  | quit
  | not (q : Query)
  | and (a b : Query)
  | or (a b : Query)

/-- What is said for the whole walk. -/
structure WalkRules where
  least : Nat := 0
  most? : Option Nat := none
  /-- What is below comes first. -/
  depthFirst : Bool := false
  /-- Whether the expression says what is done. -/
  acts : Bool := false
  /-- Which links are followed. -/
  follows : Follows := .none

/-- A walk on its way. -/
structure Walk where
  /-- Nothing below the path is looked at. -/
  pruned : Bool := false
  /-- The walk is over. -/
  finished : Bool := false
  /-- The paths for the programs that are run for all of them, by their places. -/
  kept : List (Nat × Octets) := []

/-- Something that is done on a walk. -/
abbrev Walking := StateT Walk Job

/-! ### Reading expressions -/

/-- Reading an expression: the rules so far, and the arguments that are left. -/
structure QueryReading where
  rules : WalkRules := {}
  args : List Octets

/-- Something that reads an expression. -/
abbrev Querying := StateT QueryReading Job

namespace Query

/-- The next argument. -/
def peek : Querying (Option Octets) := do return (← get).args.head?

/-- Goes on behind the next argument. -/
def skip : Querying Unit := modify fun r => { r with args := r.args.drop 1 }

/-- The argument that an option needs. -/
def needed (option : Octets) : Querying Octets := do
  match ← peek with
  | some arg =>
    skip
    return arg
  | none => fail 1 ("missing argument to \x60" ++ option ++ "'")

/-- A number that an option needs. -/
def neededNumber (option : Octets) : Querying Nat := do
  let text ← needed option
  if text = "" || !text.toList.all Char.isDigit then
    fail 1 ("Expected a positive decimal integer argument to " ++ option ++ ", but got "
      ++ quote text)
  return Integer.digitsValue 10 text.toList

/-- Changes the rules, which always holds. -/
def rule (change : WalkRules → WalkRules) : Querying Query := do
  modify fun r => { r with rules := change r.rules }
  return .always true

/-- An expression that does something. -/
def action (q : Query) : Querying Query := do
  modify fun r => { r with rules := { r.rules with acts := true } }
  return q

/-- A shape that an option needs. -/
def neededShape (option : Octets) (folds : Bool) : Querying (List Glob.Part) := do
  let text := (← needed option).toList
  return Glob.ofText ((if folds then text.map Char.toLower else text).map (·, false))

/-- The size that a text says. -/
def sizeOf? (text : Octets) : Option Query :=
  let (order, rest) := match text.toList with
    | '+' :: rest => (Ordering.gt, rest)
    | '-' :: rest => (.lt, rest)
    | rest => (.eq, rest)
  let digits := rest.takeWhile Char.isDigit
  let unit? : Option Nat := match rest.drop digits.length with
    | [] | ['b'] => some 512
    | ['c'] => some 1
    | ['w'] => some 2
    | ['k'] => some 1024
    | ['M'] => some 1048576
    | _ => none
  if digits.isEmpty then none else unit?.map (.size order (Integer.digitsValue 10 digits))

/-- The command of an action, up to what ends it. -/
def command (option : Octets) : Querying (Bool × List Octets) := do
  let args := (← get).args
  let body := args.takeWhile (· ≠ ";")
  let plus? := (args.zip (args.drop 1)).findIdx? fun pair =>
    pair.1 = "\x7b\x7d" && pair.2 = "+"
  let together : Bool := match plus? with
    | some n => n < body.length
    | none => false
  let words := if together then args.take (plus?.getD 0) else body
  let taken := if together then words.length + 2 else words.length + 1
  if (!together && body.length = args.length) || words.isEmpty then
    fail 1 ("missing argument to \x60" ++ option ++ "'")
  modify fun r => { r with args := r.args.drop taken }
  return (together, words)

/-- A condition or an action, by its name. -/
def named? (option : Octets) : Querying Query := do
  match option with
  | "-true" => return .always true
  | "-false" => return .always false
  | "-name" => return .named false (← neededShape option false)
  | "-iname" => return .named true (← neededShape option true)
  | "-path" | "-wholename" => return .pathed false (← neededShape option false)
  | "-ipath" => return .pathed true (← neededShape option true)
  | "-regex" =>
    match Regex.ofText .basic (← needed option).toList with
    | .ok found => return .shaped found.regex
    | .error e => fail 1 e
  | "-type" =>
    let letters := ((Text.pieces ',' (← needed option).toList)).flatten
    match letters.find? fun c => !"bcdpflsD".toList.contains c with
    | some c => fail 1 ("Unknown argument to -type: " ++ String.ofList [c])
    | none => return .kind letters
  | "-empty" => return .empty
  | "-executable" => return .runnable
  | "-readable" | "-writable" => return .always true
  | "-size" =>
    let text ← needed option
    match sizeOf? text with
    | some q => return q
    | none => fail 1 ("Invalid argument \x60" ++ text ++ "' to -size")
  | "-perm" =>
    let text ← needed option
    let sign? := text.toList.head?.filter fun c => c = '-' || c = '/'
    match Rights.changesOf? (if sign?.isSome then text.toList.drop 1 else text.toList) with
    | some changes => return .rights sign? (Rights.applyAll 0 false 0 changes)
    | none => fail 1 ("invalid mode " ++ quote text)
  | "-lname" => return .linked false (← neededShape option false)
  | "-ilname" => return .linked true (← neededShape option true)
  | "-newer" | "-samefile" =>
    let name ← needed option
    match ← if (← get).rules.follows = .none then statName name else stat name with
    | .ok (location, _) => return if option = "-newer" then .newer location else .same location
    | .error e => fail 1 (quote name ++ ": " ++ reason e)
  | "-maxdepth" =>
    let n ← neededNumber option
    rule fun rules => { rules with most? := some n }
  | "-mindepth" =>
    let n ← neededNumber option
    rule fun rules => { rules with least := n }
  | "-depth" | "-d" => rule fun rules => { rules with depthFirst := true }
  | "-follow" => rule fun rules => { rules with follows := .all }
  | "-mount" | "-xdev" | "-noleaf" => return .always true
  | "-print" => action (.print "\n")
  | "-print0" => action (.print "\x00")
  | "-printf" => action (.written (← needed option).toList)
  | "-prune" => return .prune
  | "-quit" => action .quit
  | "-delete" =>
    let _ ← rule fun rules => { rules with depthFirst := true }
    action .delete
  | "-exec" =>
    let (together, words) ← command option
    action (.run together (← get).args.length words)
  | option => fail 1 ("unknown predicate \x60" ++ option ++ "'")

/-- A part of an expression: a mark, or a condition or an action. -/
inductive Token
  | mark (text : Octets)
  | query (q : Query)

/-- The marks. -/
def marks : List Octets := ["(", ")", "!", "-not", "-a", "-and", "-o", "-or"]

/-- Reads the parts of an expression, one after the other. -/
def tokens : Nat → Querying (List Token)
  | 0 => return []
  | bound + 1 => do
    match ← peek with
    | none => return []
    | some option =>
      skip
      let token ←
        if marks.contains option then pure (.mark option)
        else if option.toList.head? = some '-' then pure (.query (← named? option))
        else fail 1 ("paths must precede expression: \x60" ++ option ++ "'")
      return token :: (← tokens bound)

/-- Something that puts parts of an expression together. -/
abbrev Joining := StateT (List Token) Job

/-- The mark that comes next, if one does. -/
def mark? : Joining (Option Octets) := do
  return match ← get with
    | .mark text :: _ => some text
    | _ => none

/-- Goes on behind a mark, where something has to come. -/
def after (text : Octets) : Joining Unit := do
  let rest := (← get).drop 1
  set rest
  if rest.isEmpty then fail 1 ("expected an expression after " ++ quote text)

mutual

/-- Puts together an expression of which one part has to hold. -/
def either : Nat → Joining Query
  | 0 => return .always true
  | bound + 1 => do
    let a ← both bound
    let next? ← mark?
    if next? = some "-o" || next? = some "-or" then
      after (next?.getD "")
      return .or a (← either bound)
    else return a

/-- Puts together an expression of which all parts have to hold. -/
def both : Nat → Joining Query
  | 0 => return .always true
  | bound + 1 => do
    let a ← single bound
    let next? ← mark?
    if (← get).isEmpty || [some ")", some "-o", some "-or"].contains next? then return a
    else
      if next? = some "-a" || next? = some "-and" then after (next?.getD "")
      return .and a (← both bound)

/-- Reads an expression without others. -/
def single : Nat → Joining Query
  | 0 => return .always true
  | bound + 1 => do
    match ← get with
    | [] => return .always true
    | .query q :: rest =>
      set rest
      return q
    | .mark text :: rest =>
      if text = "(" then
        set rest
        if rest.isEmpty then
          fail 1 ("invalid expression; expected to find a ')' but didn't see one. "
            ++ "Perhaps you need an extra predicate after '('")
        if (← mark?) = some ")" then
          fail 1 "invalid expression; empty parentheses are not allowed."
        let q ← either bound
        if (← mark?) ≠ some ")" then
          fail 1 "invalid expression; I was expecting to find a ')' somewhere but did not see one."
        modify (·.drop 1)
        return q
      else if text = "!" || text = "-not" then
        after text
        return .not (← single bound)
      else if text = ")" then fail 1 "invalid expression; you have too many ')'"
      else
        fail 1 ("invalid expression; you have used a binary operator " ++ quote text
          ++ " with nothing before it.")

end

/-- Reads an expression and the rules for the walk. -/
def ofArguments (follows : Follows) (args : List Octets) : Job (Query × WalkRules) := do
  let (parts, r) ← (tokens (args.length + 1)).run { args, rules := { follows } }
  let (q, left) ← (either (4 * parts.length + 8)).run parts
  if !left.isEmpty then fail 1 "invalid expression; you have too many ')'"
  return (q, r.rules)

end Query

/-! ### Walking -/

/-- What a letter of a format stands for. -/
def walkedText (files : FileSystem) (top path : Octets) (depth : Nat) (location : Location)
    (node : Node) (letter : Char) : Octets :=
  match letter with
  | 'p' => path
  | 'f' => lastName path
  | 'h' =>
    let bare := (path.toList.reverse.dropWhile (· ≠ '/')).drop 1
    if bare.isEmpty then (if path.toList.contains '/' then "" else ".")
    else String.ofList bare.reverse
  | 'P' => String.ofList ((path.toList.drop top.length).dropWhile (· = '/'))
  | 'd' => depth.repr
  | 'y' =>
    match node with
    | .directory => "d"
    | .device _ => "c"
    | .link _ => "l"
    | _ => "f"
  | 'l' =>
    match node with
    | .link target => Octets.ofText target
    | _ => ""
  | 'H' => top
  | 'k' => (Listing.roomOf node).repr
  | 'm' => propertyText files path location node 'a'
  | 'M' => propertyText files path location node 'A'
  | 'n' => propertyText files path location node 'h'
  | 'u' | 'g' => "root"
  | 'U' | 'G' => "0"
  | letter => propertyText files path location node letter

/-- Runs a program on a walk, and tells whether it did well. -/
def runOnWalk (launch : Launch) (words : List Octets) : Job Bool := do
  match words with
  | [] => return true
  | name :: args =>
    flush
    let call := (← get).call
    let process ← act Machine.fork
    match ← runNamed launch process call.settings call.streams name args with
    | .ok (.exited 0) => return true
    | .ok _ => return false
    | .error e =>
      complain (quote name ++ ": " ++ reason e)
      return false

/-- Does what an expression says with what is at a path, and tells whether it holds. -/
def Query.look (launch : Launch) (top path : Octets) (depth : Nat) (location : Location)
    (node : Node) : Query → Walking Bool
  | .always holds => return holds
  | .named folds shape => do
    let name := (lastName path).toList
    return Glob.fits shape (if folds then name.map Char.toLower else name)
  | .pathed folds shape => do
    let chars := path.toList
    return Glob.fits shape (if folds then chars.map Char.toLower else chars)
  | .shaped regex => do
    let subject := regex.subject false path.toList
    return (Regex.follow subject regex { place := 0 }).any (·.place = path.length)
  | .kind letters => do
    return match node with
      | .directory => letters.contains 'd'
      | .device _ => letters.contains 'c'
      | .link _ => letters.contains 'l'
      | _ => letters.contains 'f'
  | .empty => do
    let files ← Job.files
    return match node with
      | .directory => (files.entries location).isEmpty
      | .file content => content.isEmpty
      | _ => false
  | .size order number unit => do
    let bytes := Listing.sizeOf node
    return compare ((bytes + unit - 1) / unit) number = order
  | .runnable => do
    let files ← Job.files
    return match files.stat (FileSystem.absolutePath location) with
      | .ok (location, _) => files.mayRun location
      | .error _ => false
  | .rights sign? wanted => do
    let rights := (← Job.files).rightsAt location
    return match sign? with
      | some '-' => rights &&& wanted = wanted
      | some _ => wanted = 0 || rights &&& wanted ≠ 0
      | none => rights = wanted
  | .linked folds shape => do
    return match node with
      | .link target =>
        let chars := (Octets.ofText target).toList
        Glob.fits shape (if folds then chars.map Char.toLower else chars)
      | _ => false
  | .same other => do return (← Job.files).isSame location other
  | .newer than => do
    let files ← Job.files
    let place (location : Location) : Nat := files.nodes.findIdx fun entry => entry.1 = location
    return place location < place than
  | .print ending => do
    say (path ++ ending)
    return true
  | .written format => do
    let files ← Job.files
    sayChars (propertyLine (walkedText files top path depth location node) true format)
    return true
  | .run true place _ => do
    modify fun w => { w with kept := w.kept ++ [(place, path)] }
    return true
  | .run false _ words => do
    let filled := words.map fun word =>
      String.ofList (fillMark ['\x7b', '\x7d'] path.toList (word.length + 1) word.toList)
    runOnWalk launch filled
  | .delete => do
    if path = "." then return true
    let text := Octets.toText path
    let result ← if isDirectory node then changeFiles (·.removeDirectory text)
      else changeFiles (·.removeFile text)
    match result with
    | .ok () => return true
    | .error e =>
      warn ("cannot delete " ++ quote path ++ ": " ++ reason e)
      return false
  | .prune => do
    modify fun w => { w with pruned := true }
    return true
  | .quit => do
    modify fun w => { w with finished := true }
    return true
  | .not q => do return !(← look launch top path depth location node q)
  | .and a b => do
    if ← look launch top path depth location node a then
      if (← get).finished then return true else look launch top path depth location node b
    else return false
  | .or a b => do
    if ← look launch top path depth location node a then return true
    else look launch top path depth location node b

/-- The commands that are run for all paths together, by their places. -/
def Query.together : Query → List (Nat × List Octets)
  | .run true place words => [(place, words)]
  | .not q => q.together
  | .and a b | .or a b => a.together ++ b.together
  | _ => []

/-- Looks at what is at a path and below it. The bound is on the depth. -/
def walk (look : Octets → Nat → Location → Node → Walking Bool) (rules : WalkRules) :
    Nat → Nat → Octets → Location → Node → Walking Unit
  | 0, _, _, _, _ => return
  | bound + 1, depth, path, location, node => do
    if (← get).finished then return
    let here : Walking Unit := do
      if depth ≥ rules.least then
        let _ ← look path depth location node
    modify fun w => { w with pruned := false }
    if !rules.depthFirst then here
    let isOpen : Bool := match rules.most? with
      | some n => depth < n
      | none => true
    if isDirectory node && isOpen && !(← get).pruned && !(← get).finished then
      for name in (← Job.files).entries location do
        let files ← Job.files
        let below := location ++ [name]
        let found? := if rules.follows = .all then
            (files.stat (FileSystem.absolutePath below)).toOption
          else none
        match found?.or ((files.node? below).map (below, ·)) with
        | some (below, node) =>
          walk look rules bound (depth + 1) (joinPath path (Octets.ofText name)) below node
        | none => pure ()
    if rules.depthFirst && !(← get).finished then here

/-- Looks for files. -/
def find (launch : Launch) : Job Unit := do
  let args := (← get).call.args
  let options := args.takeWhile fun arg => ["-L", "-P", "-H", "--"].contains arg
  let follows : Follows := match (options.filter (· ≠ "--")).getLast? with
    | some "-L" => .all
    | some "-H" => .operands
    | _ => .none
  let args := args.drop options.length
  let isPath (arg : Octets) : Bool := match arg.toList with
    | '-' :: _ :: _ | ['('] | ['!'] | [')'] | [','] => false
    | _ => true
  let paths := args.takeWhile isPath
  let rest := args.drop paths.length
  let (q, rules) ← Query.ofArguments follows rest
  let q := if rules.acts then q else .and q (.print "\n")
  let mut state : Walk := {}
  for top in if paths.isEmpty then ["."] else paths do
    match ← if rules.follows = .none then statName top else stat top with
    | .error e => warn (quote top ++ ": " ++ reason e)
    | .ok (location, node) =>
      let look (path : Octets) (depth : Nat) (location : Location) (node : Node) :=
        q.look launch top path depth location node
      let (_, next) ← (walk look rules 1000 0 top location node).run state
      state := next
  for (place, words) in q.together do
    let found := state.kept.filterMap fun entry =>
      if entry.1 = place then some entry.2 else none
    if !found.isEmpty then
      if !(← runOnWalk launch (words ++ found)) then mark 1

end Modlet.Tool
