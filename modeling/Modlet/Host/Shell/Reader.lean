import Modlet.Host.Shell.Script

/-!
# Reading scripts

A script is read one command line at a time, so that what comes before a mistake is run. The reader
keeps the text that is left, the line, one token that was read too early, and the texts of documents
that are announced on a line and follow behind it.

Reading is recursive in many ways, through words as well as through commands. Every function here
takes the next lower `Level` of reading for what it contains; levels are built one upon the other,
and there are more of them than a text can use.
-/

namespace Modlet.Shell

/-- A token of a script. -/
inductive Lexeme
  | endOfFile
  | newline
  | semicolon
  | ampersand
  | and
  | or
  | bar
  | leftParen
  | rightParen
  | caseEnd
  | redirect (redirect : Word → Redirect) (document : Option Bool) (copies : Bool)
  | word (word : Word) (quoted : Bool)
  | reserved (text : Octets)

/-- The name of a token in a message. -/
def Lexeme.name : Lexeme → Octets
  | .endOfFile => "end of file"
  | .newline => "newline"
  | .semicolon => "\";\""
  | .ampersand => "\"&\""
  | .and => "\"&&\""
  | .or => "\"||\""
  | .bar => "\"|\""
  | .leftParen => "\"(\""
  | .rightParen => "\")\""
  | .caseEnd => "\";;\""
  | .redirect .. => "redirection"
  | .word .. => "word"
  | .reserved text => "\"" ++ text ++ "\""

/-- Whether commands end at a token. -/
def Lexeme.endsList : Lexeme → Bool
  | .endOfFile | .rightParen | .caseEnd => true
  | .reserved text => ["do", "done", "elif", "else", "esac", "fi", "then", "\x7d"].contains text
  | _ => false

/-- Whether a token is the reserved word. -/
def Lexeme.isReserved (l : Lexeme) (text : Octets) : Bool :=
  match l with
  | .reserved other => other = text
  | _ => false

/-- Where a script cannot be understood. -/
structure ScriptFault where
  /-- The line. -/
  line : Nat
  /-- What is wrong. -/
  message : Octets

/-- What the next token may be, besides what it is by itself. -/
structure Wanted where
  /-- Words may be reserved ones. -/
  reserved : Bool := false
  /-- Line ends say nothing. -/
  acrossLines : Bool := false
  /-- Words may be aliases. -/
  aliases : Bool := false

/-- The line at which a document ends. -/
structure Mark where
  /-- The line. -/
  text : List Char
  /-- Whether tabs at the front of lines say nothing. -/
  dropTabs : Bool

/-- A document that was announced and is still to be read. -/
structure Announced where
  /-- The number that it goes by. -/
  number : Nat
  /-- The line at which it ends. -/
  mark : Mark
  /-- Whether everything in it stands for itself. -/
  literal : Bool

/-- What a text is that is read. -/
inductive Origin
  | script
  /-- A document of a script. -/
  | document
  /-- A text that is told before others. -/
  | prompt
deriving DecidableEq

/-- An alias that stands for what is read now. -/
structure Standing where
  /-- Its name, which is no alias as long as it is read. -/
  name : Octets
  /-- How much is left behind it. -/
  left : Nat
  /-- Whether it ends in a blank, so that the word behind it may be an alias too. -/
  opensNext : Bool
  /-- Whether something behind it has been looked at. -/
  passed : Bool := false

/-- The state of reading a script. -/
structure ReaderState where
  /-- What is left. -/
  rest : List Char
  /-- The line. -/
  line : Nat := 1
  /-- The last token. -/
  last : Lexeme := .newline
  /-- Whether the last token is to be read once more. -/
  again : Bool := false
  /-- What the next token may be. -/
  wanted : Wanted := {}
  /-- Documents that are still to be read. -/
  announced : List Announced := []
  /-- Documents that were read, by their numbers. -/
  documents : List (Nat × Word) := []
  /-- The number for the next document. -/
  nextDocument : Nat := 0
  /-- The aliases. -/
  aliases : List (Octets × Octets) := []
  /-- What the text is. -/
  origin : Origin := .script
  /-- The line at which the document ends that is read. -/
  mark? : Option Mark := none
  /-- Whether that line has been read. -/
  isOver : Bool := false
  /-- The aliases that stand for what is read now. -/
  active : List Standing := []
  /-- Whether the next character has been looked at. -/
  peeked : Bool := false
  /-- Whether it is the line that ends a document that is read, in which nothing is filled in. -/
  delimiting : Bool := false

/-- A part of reading. -/
abbrev Reading := EStateM ScriptFault ReaderState

namespace Reading

/-- Stops at a mistake. -/
def mistake {α : Type} (message : Octets) : Reading α := do
  throw ⟨(← get).line, "Syntax error: " ++ message⟩

/-- Stops at the last token, where maybe another is wanted. -/
def unexpected {α : Type} (wanted : Option Lexeme) : Reading α := do
  let found := (← get).last.name ++ " unexpected"
  mistake (match wanted with
    | some wanted => found ++ " (expecting " ++ wanted.name ++ ")"
    | none => found)

/-- Leaves out line ends behind backslashes at the front of a text, and counts them. -/
def dropJoins (line : Nat) : List Char → Nat × List Char
  | '\\' :: '\n' :: rest => dropJoins (line + 1) rest
  | text => (line, text)

/-- The next character, where a line end behind a backslash is none. -/
def peek : Reading (Option Char) := do
  let s ← get
  if s.isOver then return none
  let (line, rest) := dropJoins s.line s.rest
  set { s with line, rest, peeked := true }
  return rest.head?

/-- Leaves out the next character. -/
def skip : Reading Unit :=
  modify fun s =>
    match s.rest with
    | [] => s
    | c :: rest =>
      { s with rest, peeked := false, line := if c = '\n' then s.line + 1 else s.line }

/-- Leaves out the next character, which counts for no line. -/
def pass : Reading Unit := modify fun s => { s with rest := s.rest.drop 1, peeked := false }

/-- Takes the next character, even at a line end behind a backslash. -/
def takeAny : Reading (Option Char) := do
  let c := (← get).rest.head?
  skip
  return c

/-- Takes the characters with a property at the front of the text. -/
def takeWhile (p : Char → Bool) : Reading (List Char) := do
  let s ← get
  let front := s.rest.takeWhile p
  set
    { s with
      rest := s.rest.drop front.length, peeked := true, line := s.line + front.count '\n' }
  return front

/-- Takes a character if it comes next. -/
def takeIf (c : Char) : Reading Bool := do
  if (← peek) = some c then
    skip
    return true
  else return false

/-- Takes the characters of a name, also across line ends behind backslashes. -/
def takeName (p : Char → Bool) : Nat → Reading (List Char)
  | 0 => return []
  | bound + 1 => do
    match ← peek with
    | some c =>
      if p c then
        skip
        return c :: (← takeName p bound)
      else return []
    | none => return []

end Reading

/-- In what a part of a word stands. -/
inductive Context
  /-- Nothing: the word ends at a blank or an operator. -/
  | word
  /-- Double quotes. -/
  | double
  /-- Braces behind a dollar sign, maybe inside double quotes. -/
  | braced (double : Bool)
  /-- A calculation, inside some parentheses. -/
  | arithmetic (depth : Nat)
  /-- A document. -/
  | document
deriving DecidableEq

/-- Whether everything in a context is quoted. -/
def Context.quotes : Context → Bool
  | .word | .braced false => false
  | _ => true

/-- What a level of reading can read. -/
structure Level where
  /-- A part of a word to the end of its context, and whether there are quotes in it. -/
  pieces : Context → Reading (Word × Bool)
  /-- Commands behind others, if any. The number tells where they end. -/
  list : Nat → Option Node → Reading (Option Node)
  /-- A command that is no list. -/
  command : Reading Node

namespace Level

open Reading

variable (level : Level)

/-! ### Words -/

/-- Whether a word ends at a character. -/
def endsWord (c : Char) : Bool :=
  [' ', '\t', '\n', '<', '>', ';', '&', '|', '(', ')'].contains c

/-- Whether a character has a meaning in a context. -/
def isMeaningful (context : Context) (c : Char) : Bool :=
  ['\\', '\'', '"', '\x60', '$', '\x7d', '(', ')'].contains c || (context = .word && endsWord c)

/-- Characters that all are quoted or all are not. -/
def plain (quoted : Bool) (text : List Char) : Word := text.map (.char · quoted)

/-- Reads what is not part of the document that is read, if one is. -/
def outside {α : Type} (inner : Reading α) : Reading α := do
  let s ← get
  set { s with origin := .script, mark? := none, isOver := false, announced := [] }
  let a ← inner
  modify fun t =>
    { t with
      origin := s.origin, mark? := s.mark?, isOver := s.isOver, announced := s.announced }
  return a

/-- Reads something else in the place of what is left, from its first line on. Aliases that are read
stay so. -/
def within {α : Type} (text : List Char) (inner : Reading α) : Reading α := do
  let s ← get
  let active := s.active.map fun a => { a with left := 0, passed := true }
  set { s with rest := text, line := 1, active }
  let a ← outside inner
  modify fun t =>
    { t with
      rest := s.rest, line := s.line, again := false, last := s.last, active := s.active
      peeked := s.peeked }
  return a

/-- The commands between a dollar sign with a parenthesis and the closing one. -/
def readCommand : Reading (Option Node) := do
  let body ← outside (level.list 2 none)
  -- The closing parenthesis ended the list and is to be read once more.
  let s ← get
  set { s with again := false, wanted := {} }
  match s.last with
  | .rightParen => return body
  | _ => unexpected (some .rightParen)

/-- The text up to the next backquote. -/
def readBackquoted (double : Bool) : Nat → Reading (List Char)
  | 0 => return []
  | bound + 1 => do
    match ← peek with
    | none => mistake "EOF in backquote substitution"
    | some '\x60' =>
      skip
      return []
    | some '\\' =>
      skip
      match ← takeAny with
      | none => mistake "EOF in backquote substitution"
      | some c =>
        let kept := if c = '\\' || c = '\x60' || c = '$' || (double && c = '"') then [c]
          else ['\\', c]
        return kept ++ (← readBackquoted double bound)
    | some c =>
      skip
      return c :: (← readBackquoted double bound)

/-- The word behind the name of a parameter in braces, and what is done with the value. -/
def readUse (double : Bool) : Reading (Use × Word) := do
  let word (use : Use) (double : Bool) : Reading (Use × Word) := do
    return (use, (← level.pieces (.braced double)).1)
  let invalid : Reading (Use × Word) := do
    pass
    word .invalid double
  let orNull ← takeIf ':'
  match ← peek with
  | some '\x7d' =>
    skip
    if orNull then word .value double else return (.value, [])
  | some '-' =>
    skip
    word (.orElse orNull) double
  | some '+' =>
    skip
    word (.instead orNull) double
  | some '?' =>
    skip
    word (.orFail orNull) double
  | some '=' =>
    skip
    word (.orAssign orNull) double
  | some '%' =>
    if orNull then invalid
    else
      skip
      word (.trimBack (← takeIf '%')) false
  | some '#' =>
    if orNull then invalid
    else
      skip
      word (.trimFront (← takeIf '#')) false
  | _ => invalid

/-- A parameter in braces, behind the opening one. With only a colon behind the name the closing
brace is that of a word behind the value, and ends everything. -/
def readBraced (double : Bool) : Reading Word := do
  let bound := (← get).rest.length
  let use (name : List Char) : Reading Word := do
    let name := String.ofList name
    match ← level.readUse double with
    | (.value, []) => return [.parameter name .value [] double]
    | (.value, word) => return .parameter name .value [] double :: word ++ [.stop]
    | (use, word) => return [.parameter name use word double]
  let invalid : Reading Word := do
    return [.parameter "" .invalid (← level.pieces (.braced double)).1 double]
  let length (name : List Char) : Reading Word := do
    if ← takeIf '\x7d' then return [.parameter (String.ofList name) .length [] double]
    else invalid
  match ← peek with
  | some '#' =>
    skip
    match ← peek with
    | some '\x7d' => use ['#']
    | some c =>
      if isNameStart c then length (← takeName isNamePart bound)
      else if c.isDigit then length (← takeName Char.isDigit bound)
      else
        let s ← get
        pass
        if (← peek) = some '\x7d' then if isSpecialParameter c then length [c] else invalid
        else
          set s
          use ['#']
    | none => use ['#']
  | some c =>
    if isNameStart c then use (← takeName isNamePart bound)
    else if c.isDigit then use (← takeName Char.isDigit bound)
    else if isSpecialParameter c then
      skip
      use [c]
    else
      if c ≠ '\x7d' then pass
      invalid
  | none => invalid

/-- What stands behind a dollar sign; a dollar sign alone stands for itself. -/
def readDollar (quoted : Bool) : Reading Word := do
  let bound := (← get).rest.length
  match ← peek with
  | some '(' =>
    skip
    if ← takeIf '(' then return calculation (← level.pieces (.arithmetic 0)).1 quoted
    else return [.command (← level.readCommand) quoted]
  | some '\x7b' =>
    skip
    level.readBraced quoted
  | some c =>
    if isNameStart c then
      return [.parameter (String.ofList (← takeName isNamePart bound)) .value [] quoted]
    else if c.isDigit || isSpecialParameter c then
      skip
      return [.parameter (String.ofList [c]) .value [] quoted]
    else return [.char '$' quoted]
  | none => return [.char '$' quoted]

/-- What a backslash with the character behind it stands for. -/
def escaped (context : Context) (c : Char) : Word :=
  let alone :=
    match context with
    | .word | .braced false => true
    | .double | .arithmetic _ => ['\\', '\x60', '$', '"'].contains c
    | .braced true => ['\\', '\x60', '$', '"', '\x7d'].contains c
    | .document => ['\\', '\x60', '$'].contains c
  if alone then [.char c true] else [.char '\\' true, .char c true]

/-- Goes on behind the line at which the document ends, if it comes next, and tells whether tabs
were left out. The front of the line may be behind line ends behind backslashes. -/
def passMark (mark : Mark) : Reading Bool := do
  let _ ← peek
  let s ← get
  let line := if mark.dropTabs then s.rest.dropWhile (· = '\t') else s.rest
  let behind := line.drop mark.text.length
  if mark.text.isPrefixOf line && (behind.isEmpty || behind.head? = some '\n') then
    set { s with rest := behind.drop 1, line := s.line + 1, isOver := true }
    return false
  else
    set { s with rest := line }
    return mark.dropTabs && s.rest.head? = some '\t'

/-- Begins a line of a document. Right behind tabs that were left out a backslash stands for itself
even before a line end. -/
def beginLine (mark : Mark) : Reading Word := do
  let isIndented ← passMark mark
  match isIndented, (← get).rest with
  | true, '\\' :: '\n' :: rest =>
    modify fun s => { s with rest }
    return escaped .document '\n'
  | _, _ => return []

/-- What is wrong with a text that ends within quotes. -/
def unclosed : Reading Unit := do
  mistake (if (← get).origin = .script then "Unterminated quoted string" else "Missing '\x7d'")

/-- The text up to the next single quote. -/
def readSingle : Nat → Reading (List Char)
  | 0 => return []
  | bound + 1 => do
    let mark? := (← get).mark?
    let text ← takeWhile fun c => c ≠ '\'' && (mark?.isNone || c ≠ '\n')
    match ← takeAny, mark? with
    | none, _ =>
      unclosed
      return text
    | some '\n', some mark =>
      let _ ← passMark mark
      if (← get).isOver then unclosed
      return text ++ '\n' :: (← readSingle bound)
    | some _, _ => return text

/-- A text between quotes, which is there even if nothing stands between them. All arguments may
stand there once without a word being there for no arguments. -/
def between (word : Word) : Word :=
  let isAll (piece : Piece) : Bool := match piece with
    | .parameter "@" .value _ _ => true
    | _ => false
  if word.all isAll && word.length ≠ 1 then .empty :: word else word

/-- Reads a part of a word to the end of its context. -/
def readPieces (context : Context) : Reading (Word × Bool) := do
  let quoted := context.quotes
  let more (word : Word) (quotes : Bool) : Reading (Word × Bool) := do
    let (others, alsoQuotes) ← level.pieces context
    return (word ++ others, quotes || alsoQuotes)
  let literal (c : Char) : Reading (Word × Bool) := do
    skip
    more [.char c quoted] false
  match ← peek with
  | none =>
    match context with
    | .word | .document => return ([], false)
    | .braced false => mistake "Missing '\x7d'"
    | .arithmetic _ => mistake "Missing '))'"
    | _ =>
      unclosed
      return ([], false)
  | some '\\' =>
    skip
    match ← takeAny with
    | some c => more (escaped context c) true
    | none => more [.char '\\' true] false
  | some '\'' =>
    if quoted then literal '\''
    else
      skip
      let text ← readSingle ((← get).rest.length + 1)
      more (between (plain true text)) true
  | some '"' =>
    match context with
    | .double =>
      skip
      return ([], false)
    | .document => literal '"'
    | .arithmetic _ => literal '"'
    | _ =>
      skip
      let (text, _) ← level.pieces .double
      more (if quoted then text else between text) true
  | some '\x60' =>
    if (← get).delimiting then literal '\x60'
    else
      skip
      let text ← readBackquoted quoted ((← get).rest.length + 1)
      let body ← within text (level.list 2 none)
      more [.command body quoted] false
  | some '$' =>
    if (← get).delimiting then literal '$'
    else
      skip
      more (← level.readDollar quoted) false
  | some '\x7d' =>
    match context with
    | .braced _ =>
      skip
      return ([], false)
    | _ => literal '\x7d'
  | some '(' =>
    match context with
    | .word => return ([], false)
    | .arithmetic depth =>
      skip
      let (others, _) ← level.pieces (.arithmetic (depth + 1))
      return (.char '(' true :: others, false)
    | _ => literal '('
  | some ')' =>
    match context with
    | .word => return ([], false)
    | .arithmetic (depth + 1) =>
      skip
      let (others, _) ← level.pieces (.arithmetic depth)
      return (.char ')' true :: others, false)
    | .arithmetic 0 =>
      skip
      if ← takeIf ')' then return ([], false) else more [.char ')' true] false
    | _ => literal ')'
  | some c =>
    match c, (← get).mark? with
    | '\n', some mark =>
      skip
      let front ← beginLine mark
      more (.char '\n' quoted :: front) false
    | c, mark? =>
      if context = .word && endsWord c then return ([], false)
      else
        let goesOn (c : Char) : Bool := !isMeaningful context c && (mark?.isNone || c ≠ '\n')
        let text ← takeWhile goesOn
        if text.isEmpty then literal c else more (plain quoted text) false

/-! ### Documents -/

/-- The lines up to the one at which a document ends, and those behind it. -/
def takeLiteral (mark : Mark) : List (List Char) → List (List Char) × List (List Char)
  | [] => ([], [])
  | line :: lines =>
    let line := if mark.dropTabs then line.dropWhile (· = '\t') else line
    if line = mark.text || line = mark.text ++ ['\n'] then ([], lines)
    else
      let (front, rest) := takeLiteral mark lines
      (line :: front, rest)

/-- Reads a document in which everything stands for itself. -/
def readLiteral (mark : Mark) : Reading Word := do
  let s ← get
  let lines := Octets.linesOf s.rest
  let (front, rest) := takeLiteral mark lines
  let isEnded := front.length + rest.length < lines.length
  let ends := (front.filter fun line => line.getLast? = some '\n').length
  set { s with rest := rest.flatten, line := s.line + ends + if isEnded then 1 else 0 }
  return plain true front.flatten

/-- Reads a document in which something may be filled in. -/
def readFilled (mark : Mark) : Reading Word := do
  let s ← get
  set { s with origin := .document, mark? := some mark, isOver := false, announced := [] }
  let front ← beginLine mark
  let (word, _) ← level.pieces .document
  modify fun t =>
    { t with
      origin := s.origin, mark? := s.mark?, isOver := s.isOver, announced := s.announced
      last := s.last }
  return front ++ word

/-- Reads the documents that were announced. -/
def readDocuments : Reading Unit := do
  let announced := (← get).announced
  modify fun s => { s with announced := [] }
  for one in announced do
    let word ← if one.literal then readLiteral one.mark else level.readFilled one.mark
    modify fun s => { s with documents := (one.number, word) :: s.documents }

/-! ### Tokens -/

/-- The sort of redirection that begins with an angle, with the stream if one is given. -/
def readRedirect (stream : Option Nat) : Reading Lexeme := do
  if ← takeIf '>' then
    let stream := stream.getD 1
    if ← takeIf '>' then return .redirect (.file stream .append) none false
    else if ← takeIf '|' then return .redirect (.file stream .overwrite) none false
    else if ← takeIf '&' then return .redirect (.copy stream) none true
    else return .redirect (.file stream .write) none false
  else
    skip
    let stream := stream.getD 0
    if ← takeIf '<' then
      let number := (← get).nextDocument
      modify fun s => { s with nextDocument := number + 1 }
      let dropTabs ← takeIf '-'
      return .redirect (fun _ => .document stream number) (some dropTabs) false
    else if ← takeIf '&' then return .redirect (.copy stream) none true
    else if ← takeIf '>' then return .redirect (.file stream .readWrite) none false
    else return .redirect (.file stream .read) none false

/-- Reads a token. -/
def scan : Reading Lexeme := do
  let _ ← takeName (fun c => c = ' ' || c = '\t') ((← get).rest.length + 1)
  if (← peek) = some '#' then
    let _ ← takeWhile (· ≠ '\n')
  match ← peek with
  | none => return .endOfFile
  | some '\n' =>
    skip
    return .newline
  | some '&' =>
    skip
    return if ← takeIf '&' then .and else .ampersand
  | some '|' =>
    skip
    return if ← takeIf '|' then .or else .bar
  | some ';' =>
    skip
    return if ← takeIf ';' then .caseEnd else .semicolon
  | some '(' =>
    skip
    return .leftParen
  | some ')' =>
    skip
    return .rightParen
  | some '<' | some '>' => readRedirect none
  | some _ =>
    let (word, quoted) ← level.pieces .word
    -- A single digit right before an angle is the number of a stream.
    match word, quoted, (← get).rest.head? with
    | [.char c false], false, some '<' | [.char c false], false, some '>' =>
      if c.isDigit then readRedirect (some (c.toNat - 48)) else return .word word quoted
    | _, _, _ => return .word word quoted

/-- Notes which aliases have been read to their ends. Behind one that ends in a blank the token
may be an alias too. -/
def passEnds (s : ReaderState) : ReaderState :=
  if s.active.isEmpty then s
  else
    let left := s.rest.length
    let ends (a : Standing) : Bool := !a.passed && (left < a.left || (left = a.left && s.peeked))
    let kept := s.active.filter fun a => a.left ≤ left
    { s with
      active := kept.map fun a => { a with passed := a.passed || ends a }
      wanted :=
        { s.wanted with
          aliases := s.wanted.aliases || s.active.any fun a => ends a && a.opensNext } }

/-- Reads a token, or the last one once more. -/
def scanAgain : Reading Lexeme := do
  let s ← get
  if s.again then
    set { s with again := false }
    return s.last
  else
    let token ← level.scan
    modify passEnds
    return token

/-- Leaves out line ends, behind which documents may follow. -/
def skipNewlines : Nat → Lexeme → Reading Lexeme
  | bound + 1, .newline => do
    level.readDocuments
    modify fun s => { s with wanted := {} }
    skipNewlines bound (← level.scanAgain)
  | _, token => return token

/-- The text that a word stands for as an alias, if it is one that is not in use. -/
def alias? (s : ReaderState) (name : Octets) : Option Octets :=
  if s.active.any (·.name = name) then none else s.aliases.lookup name

/-- The aliases that are in use once one has come to stand for what is read. -/
def standing (name value : Octets) (s : ReaderState) : List Standing :=
  let opensNext := value.toList.getLast?.any fun c => c = ' ' || c = '\t'
  { name, left := s.rest.length, opensNext } :: s.active

/-- Reads the next token as it is wanted. The bound is on the number of aliases. -/
def nextFor (wanted : Wanted) : Nat → Reading Lexeme
  | 0 => return (← get).last
  | bound + 1 => do
    let token ← level.scanAgain
    let token ← if wanted.acrossLines then
        level.skipNewlines ((← get).rest.length + 1) token
      else pure token
    let wanted := { wanted with aliases := wanted.aliases || (← get).wanted.aliases }
    modify fun s => { s with wanted := {} }
    let keep (token : Lexeme) : Reading Lexeme := do
      modify fun s => { s with last := token }
      return token
    match token with
    | .word word false =>
      match plainText? word with
      | none => keep token
      | some text =>
        if wanted.reserved && reservedWords.contains text then keep (.reserved text)
        else
          match wanted.aliases, alias? (← get) text with
          | true, some value =>
            if value ≠ "" then
              modify fun s =>
                { s with
                  active := standing text value s, rest := value.toList ++ s.rest
                  peeked := false }
            nextFor wanted bound
          | _, _ => keep token
    | token => keep token

/-- Reads the next token. -/
def next : Reading Lexeme := do
  level.nextFor (← get).wanted 100000

/-- The last token is to be read once more. -/
def putBack : Reading Unit := modify fun s => { s with again := true }

/-- Says what the next token may be. -/
def want (wanted : Wanted) : Reading Unit := modify fun s => { s with wanted }

/-- Wants a command to begin, maybe on another line. -/
def wantCommand : Reading Unit := want { reserved := true, acrossLines := true, aliases := true }

/-- Reads a reserved word that has to come next. -/
def expect (text : Octets) : Reading Unit := do
  if !(← level.next).isReserved text then unexpected (some (.reserved text))

/-! ### Commands -/

/-- Reads what a redirection goes to. -/
def readTarget (make : Word → Redirect) (document : Option Bool) (copies : Bool) :
    Reading Redirect := do
  modify fun s => { s with delimiting := document.isSome }
  let token ← level.next
  modify fun s => { s with delimiting := false }
  match token with
  | .word word quoted =>
    match document with
    | some dropTabs =>
      match make [] with
      | .document _ number =>
        let one : Announced :=
          { number, mark := { text := characters word, dropTabs }, literal := quoted }
        modify fun s => { s with announced := s.announced ++ [one] }
      | _ => pure ()
      return make []
    | none =>
      let _ := copies
      return make word
  | _ => unexpected none

/-- Reads redirections behind a command. -/
def readRedirects : Nat → Reading (List Redirect)
  | 0 => return []
  | bound + 1 => do
    match ← level.next with
    | .redirect make document copies =>
      let redirect ← level.readTarget make document copies
      return redirect :: (← readRedirects bound)
    | _ =>
      putBack
      return []

/-- What has been read of a simple command. -/
structure Simple where
  /-- The settings. -/
  settings : List (Octets × Word) := []
  /-- The words. -/
  words : List Word := []
  /-- The redirections. -/
  redirects : List Redirect := []

/-- The names that functions cannot have. -/
def unchangeable : List Octets :=
  [".", ":", "break", "continue", "eval", "exec", "exit", "export", "local", "readonly", "return",
    "set", "shift", "times", "trap", "unset"]

/-- Reads a simple command, or the definition of a function. -/
def readSimple (line : Nat) : Nat → Simple → Reading Node
  | 0, s => return .simple line s.settings s.words s.redirects
  | bound + 1, s => do
    want { aliases := s.words.isEmpty }
    let finish : Reading Node := do
      putBack
      return .simple line s.settings s.words s.redirects
    match ← level.next with
    | .word word _ =>
      match s.words.isEmpty, splitSetting? word with
      | true, some setting =>
        readSimple line bound { s with settings := s.settings ++ [setting] }
      | _, _ => readSimple line bound { s with words := s.words ++ [word] }
    | .redirect make document copies =>
      let redirect ← level.readTarget make document copies
      readSimple line bound { s with redirects := s.redirects ++ [redirect] }
    | .leftParen =>
      match s.words, s.settings, s.redirects with
      | [word], [], [] =>
        match ← level.next with
        | .rightParen =>
          match plainText? word with
          | some name =>
            if !isName name || unchangeable.contains name then mistake "Bad function name"
            wantCommand
            return .define name (← level.command)
          | none => mistake "Bad function name"
        | _ => unexpected (some .rightParen)
      | _, _, _ => finish
    | _ => finish

/-- Commands that have to be there. -/
def readBody : Reading Node := do
  return (← level.list 0 none).getD default

/-- Reads the rest of a conditional, behind its first word. -/
def readChoice : Nat → Reading Node
  | 0 => return default
  | bound + 1 => do
    let test ← level.readBody
    level.expect "then"
    let yes ← level.readBody
    let token ← level.next
    if token.isReserved "elif" then return .choice test yes (some (← readChoice bound))
    else if token.isReserved "else" then return .choice test yes (some (← level.readBody))
    else
      putBack
      return .choice test yes none

/-- Reads words to the end of the line. -/
def readWords : Nat → Reading (List Word)
  | 0 => return []
  | bound + 1 => do
    match ← level.next with
    | .word word _ => return word :: (← readWords bound)
    | .newline | .semicolon => return []
    | _ => unexpected none

/-- Reads a loop over words, behind its first word. -/
def readForEach (line : Nat) : Reading Node := do
  let name ← match ← level.next with
    | .word word false =>
      match plainText? word with
      | some name => if isName name then pure name else mistake "Bad for loop variable"
      | none => mistake "Bad for loop variable"
    | _ => mistake "Bad for loop variable"
  want { reserved := true, acrossLines := true, aliases := true }
  let token ← level.next
  let words ← if token.isReserved "in" then level.readWords ((← get).rest.length + 1)
    else do
      match token with
      | .semicolon => pure ()
      | _ => putBack
      pure [[.parameter "@" .value [] true]]
  wantCommand
  level.expect "do"
  return .forEach line name words (← level.readBody)

/-- The pattern that a token is. -/
def patternOf : Lexeme → Word
  | .word word _ => word
  | .reserved text => plain false text.toList
  | _ => []

/-- Reads the patterns of a case behind the first token of it. -/
def readPatterns : Nat → Reading (List Word)
  | 0 => return []
  | bound + 1 => do
    let word := patternOf (← get).last
    match ← level.next with
    | .bar =>
      let _ ← level.next
      return word :: (← readPatterns bound)
    | .rightParen => return [word]
    | _ => unexpected (some .rightParen)

/-- Reads the cases of a selection. -/
def readCases : Nat → Reading (List (List Word × Option Node))
  | 0 => return []
  | bound + 1 => do
    want { reserved := true, acrossLines := true }
    let token ← level.next
    if token.isReserved "esac" then return []
    else
      match token with
      | .leftParen =>
        let _ ← level.next
      | _ => pure ()
      let patterns ← level.readPatterns bound
      let body ← level.list 2 none
      want { reserved := true, acrossLines := true }
      let token ← level.next
      if token.isReserved "esac" then return [(patterns, body)]
      else
        match token with
        | .caseEnd => return (patterns, body) :: (← readCases bound)
        | _ => unexpected (some .caseEnd)

/-- Reads a selection, behind its first word. -/
def readSelect (line : Nat) : Reading Node := do
  match ← level.next with
  | .word subject _ =>
    want { reserved := true, acrossLines := true, aliases := true }
    level.expect "in"
    return .select line subject (← level.readCases ((← get).rest.length + 3))
  | _ => unexpected (some (.word [] false))

/-- Puts redirections behind a command. -/
def redirected (line : Nat) (body : Node) (redirects : List Redirect) : Node :=
  match body, redirects with
  | .subshell line body _, redirects => .subshell line body redirects
  | body, [] => body
  | body, redirects => .redirected line body redirects

/-- Reads a command made of others, behind its first token, and the token that ends it. -/
def readCompound (line : Nat) (first : Lexeme) : Reading Node := do
  let close (token : Octets) (node : Node) : Reading Node := do
    level.expect token
    return node
  let bound := (← get).rest.length + 1
  match first with
  | .leftParen =>
    let body ← level.readBody
    match ← level.next with
    | .rightParen => return .subshell line body []
    | _ => unexpected (some .rightParen)
  | .reserved "if" => do close "fi" (← level.readChoice bound)
  | .reserved "while" =>
    let test ← level.readBody
    level.expect "do"
    close "done" (.loop false test (← level.readBody))
  | .reserved "until" =>
    let test ← level.readBody
    level.expect "do"
    close "done" (.loop true test (← level.readBody))
  | .reserved "for" => do close "done" (← level.readForEach line)
  | .reserved "case" => level.readSelect line
  | .reserved "\x7b" => do close "\x7d" (← level.readBody)
  | _ => unexpected none

/-- Reads a command that is no list. -/
def readOne : Reading Node := do
  let line := (← get).line
  let bound := (← get).rest.length + 2
  match ← level.next with
  | .word .. | .redirect .. =>
    putBack
    level.readSimple (← get).line bound {}
  | first =>
    let body ← level.readCompound line first
    want { reserved := true, aliases := true }
    return redirected line body (← level.readRedirects bound)

/-- Reads the commands of a pipeline behind the first. -/
def readPiped : Nat → Reading (List Node)
  | 0 => return []
  | bound + 1 => do
    match ← level.next with
    | .bar =>
      wantCommand
      let command ← level.command
      return command :: (← readPiped bound)
    | _ =>
      putBack
      return []

/-- Reads a pipeline. -/
def readPipeline : Reading Node := do
  let negated ← if (← level.next).isReserved "!" then do
      want { reserved := true, aliases := true }
      pure true
    else do
      putBack
      pure false
  let first ← level.command
  let others ← level.readPiped ((← get).rest.length + 1)
  let body := if others.isEmpty then first else .pipeline (first :: others)
  return if negated then .negation body else body

/-- Reads the pipelines that hang on the success of others. -/
def readLinked : Nat → Node → Reading Node
  | 0, first => return first
  | bound + 1, first => do
    match ← level.next with
    | .and =>
      wantCommand
      readLinked bound (.both first (← level.readPipeline))
    | .or =>
      wantCommand
      readLinked bound (.either first (← level.readPipeline))
    | _ =>
      putBack
      return first

/-- Commands behind others. -/
def behind : Option Node → Node → Node
  | none, node => node
  | some first, node => .sequence first node

/-- Reads commands behind `earlier`. With `1` they end with their line; with `2` there may be none,
and else there has to be one. The numbers above mean that there is one already. -/
def readList (flag : Nat) (earlier : Option Node) : Reading (Option Node) := do
  let inLine := flag % 2 = 1
  want { reserved := true, acrossLines := !inLine, aliases := true }
  match ← level.next with
  | .newline =>
    level.readDocuments
    return earlier
  | .endOfFile =>
    level.readDocuments
    putBack
    return earlier
  | token =>
    putBack
    if flag = 2 && token.endsList then return earlier
    else
      let first ← level.readPipeline
      let node ← level.readLinked ((← get).rest.length + 1) first
      let token ← level.next
      let list := behind earlier (match token with
        | .ampersand => .background node
        | _ => node)
      let flag := flag % 2 + 2
      match token with
      | .endOfFile =>
        level.readDocuments
        putBack
        return some list
      | .newline =>
        putBack
        level.list flag (some list)
      | .ampersand | .semicolon => level.list flag (some list)
      | _ =>
        if inLine then unexpected none
        putBack
        return some list

end Level

/-- The levels of reading, one upon the other. -/
def levels : Nat → Level
  | 0 =>
    { pieces := fun _ => Reading.mistake "too deep"
      list := fun _ _ => Reading.mistake "too deep"
      command := Reading.mistake "too deep" }
  | n + 1 =>
    { pieces := fun context => (levels n).readPieces context
      list := fun flag earlier => (levels n).readList flag earlier
      command := (levels n).readOne }

/-- Reads the next line of commands. At the end of the script there is none, and the last token says
so. -/
def readLine (s : ReaderState) : EStateM.Result ScriptFault ReaderState (Option Node) :=
  (levels (8 * s.rest.length + 64)).list 1 none { s with again := false }

/-- Reads a text that is told before others, which is like one between double quotes. -/
def readPrompt (s : ReaderState) : EStateM.Result ScriptFault ReaderState Word :=
  let read : Reading Word := do
    return (← (levels (8 * s.rest.length + 64)).pieces .document).1
  read s

/-- Whether everything has been read. -/
def ReaderState.finished (s : ReaderState) : Bool :=
  match s.last with
  | .endOfFile => s.again
  | _ => false

end Modlet.Shell
