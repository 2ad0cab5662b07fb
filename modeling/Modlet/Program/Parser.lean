import Modlet.Program.Fault
import Modlet.Program.Tree
import Modlet.Token.Reader

/-!
# Reading a program

A program is read from the front, one token at a time: the current token alone decides what comes
next. Reading ends with the tree and the reader behind it, or with a fault and the reader as it
stood at the fault. Every piece consumes the tokens it is made of, so what is left gets less, and
the recursion through the bodies of functions ends.
-/

namespace Modlet

/-- A piece of a program to be read: it moves the `Reader` on, and stops it at a `Fault`. -/
abbrev Parser := EStateM Fault Reader

namespace Parser

variable {α : Type}

/-- What reading a piece came to: a result or a `Fault`, and the reader as it was left. -/
abbrev Outcome (α : Type) := EStateM.Result Fault Reader α

/-- A piece that was read from `r` on did not add to the `Reader.size`. -/
def Kept (r : Reader) : Outcome α → Prop
  | .ok _ behind => behind.size ≤ r.size
  | .error _ _ => True

/-- A piece that was read from `r` on made the `Reader.size` less. -/
def Consumed (r : Reader) : Outcome α → Prop
  | .ok _ behind => behind.size < r.size
  | .error _ _ => True

/-- Reading the piece never adds to the `Reader.size`. -/
def Keeps (p : Parser α) : Prop := ∀ r, Kept r (p r)

/-- Reading the piece always makes the `Reader.size` less, which is what the recursions below go
down on. -/
def Consumes (p : Parser α) : Prop := ∀ r, Consumed r (p r)

/-- Stops at the current token, in whose place something else is wanted; nothing is consumed. -/
def refuse (wanted : Expectation) : Parser α := fun r => .error (.unexpected wanted r.current) r

/-- Consumes the current token, which has to be of the given kind, or else is refused. -/
def expect (kind : Token.Kind) : Parser Token := fun r =>
  if r.current.kind = kind then .ok r.current r.advance
  else refuse (.token kind) r

/-- An identifier. -/
def identifier : Parser String := do
  let token ← expect .identifier
  return token.text

/-- The name of a type. -/
def typeName : Parser String := fun r =>
  match r.current.kind with
  | .identifier => .ok r.current.text r.advance
  | _ => refuse .type r

/-- A value: an integer literal, a string literal or a name. -/
def expression : Parser Expr := fun r =>
  match r.current.kind with
  | .integer =>
    -- Integers of a source are always in range, since others are invalid tokens.
    match Numeral.read? r.current.text.toList with
    | some n => .ok (.integer n) r.advance
    | none => .error (.integerOutOfRange r.current) r.advance
  | .string => .ok (.string r.current.text) r.advance
  | .identifier => .ok (.variable r.current.text) r.advance
  | _ => refuse .expression r

/-- A parameter with its type. -/
def parameter : Parser Param := do
  let name ← identifier
  let _ ← expect .colon
  let type ← typeName
  return ⟨name, type⟩

/-- Items up to a closing parenthesis, with commas between them; a comma may also stand behind
the last one. Whatever else stands behind an item ends the list. -/
def items (item : Parser α) (keeps : Keeps item) (r : Reader) : Outcome (List α) :=
  if r.current.kind = .rightParen then .ok [] r
  else
    match h : item r with
    | .error fault stop => .error fault stop
    | .ok first behind =>
      if comma : behind.current.kind = .comma then
        have : behind.advance.size < r.size := by
          have kept := keeps r
          rw [h] at kept
          exact Nat.lt_of_lt_of_le (Reader.size_advance_lt (by simp [comma])) kept
        match items item keeps behind.advance with
        | .error fault stop => .error fault stop
        | .ok others behind => .ok (first :: others) behind
      -- It is for the closing parenthesis to refuse what stands here.
      else .ok [first] behind
termination_by r.size

/-- A list of items in parentheses. -/
def parenthesized (item : Parser α) (keeps : Keeps item) : Parser (List α) := do
  let _ ← expect .leftParen
  let list ← items item keeps
  let _ ← expect .rightParen
  return list

/-! ### What is left behind a piece -/

theorem kept_of_consumed {o : Outcome α} {r : Reader} (h : Consumed r o) : Kept r o := by
  cases o with
  | ok a behind => exact Nat.le_of_lt h
  | error fault stop => trivial

/-- A piece that always makes the `Reader.size` less does not add to it. -/
theorem Consumes.keeps {p : Parser α} (h : Consumes p) : Keeps p :=
  fun r => kept_of_consumed (h r)

/-- Two pieces in order are `Keeps` if both are. -/
theorem Keeps.bind {β : Type} {p : Parser α} {q : α → Parser β} (hp : Keeps p)
    (hq : ∀ a, Keeps (q a)) : Keeps (p >>= q) := by
  intro r
  have first := hp r
  simp only [Bind.bind, EStateM.bind]
  cases h : p r with
  | error fault stop => trivial
  | ok a behind =>
    rw [h] at first
    have second := hq a behind
    simp only
    -- Neither piece adds to what is left, the second starting from what the first leaves.
    cases h' : q a behind with
    | error fault stop => trivial
    | ok b last =>
      rw [h'] at second
      exact Nat.le_trans second first

/-- Two pieces in order are `Consumes` if the first is and the second `Keeps`. -/
theorem Consumes.bind {β : Type} {p : Parser α} {q : α → Parser β} (hp : Consumes p)
    (hq : ∀ a, Keeps (q a)) : Consumes (p >>= q) := by
  intro r
  have first := hp r
  simp only [Bind.bind, EStateM.bind]
  cases h : p r with
  | error fault stop => trivial
  | ok a behind =>
    rw [h] at first
    have second := hq a behind
    simp only
    cases h' : q a behind with
    | error fault stop => trivial
    | ok b last =>
      rw [h'] at second
      exact Nat.lt_of_le_of_lt second first

theorem keeps_pure (a : α) : Keeps (pure a : Parser α) := fun _ => Nat.le_refl _

theorem consumes_expect {kind : Token.Kind} (h : kind ≠ .endOfFile) :
    Consumes (expect kind) := by
  intro r
  unfold expect
  split
  · next same => exact Reader.size_advance_lt (by simpa [same] using h)
  · trivial

theorem consumes_identifier : Consumes identifier :=
  (consumes_expect (by decide)).bind fun _ => keeps_pure _

theorem consumes_typeName : Consumes typeName := by
  intro r
  unfold typeName
  split
  · next h => exact Reader.size_advance_lt (by simp [h])
  · trivial

theorem consumes_expression : Consumes expression := by
  intro r
  unfold expression
  split
  · next h =>
    split
    · exact Reader.size_advance_lt (by simp [h])
    · trivial
  · next h => exact Reader.size_advance_lt (by simp [h])
  · next h => exact Reader.size_advance_lt (by simp [h])
  · trivial

theorem consumes_parameter : Consumes parameter :=
  consumes_identifier.bind fun _ => (consumes_expect (by decide)).keeps.bind fun _ =>
    consumes_typeName.keeps.bind fun _ => keeps_pure _

theorem keeps_items {item : Parser α} (keeps : Keeps item) : Keeps (items item keeps) := by
  intro r
  -- One case for each way that a round ends; only those that succeed leave something to be
  -- compared.
  fun_induction items item keeps r with
  | case1 r h => exact Nat.le_refl _
  | case2 r h fault stop hitem => trivial
  | case3 r h first behind hitem comma lt fault stop hrest ih => trivial
  | case4 r h first behind hitem comma lt others last hrest ih =>
    rw [hrest] at ih
    exact Nat.le_trans ih (Nat.le_of_lt lt)
  | case5 r h first behind hitem comma =>
    have kept := keeps r
    rw [hitem] at kept
    exact kept

theorem consumes_parenthesized {item : Parser α} (keeps : Keeps item) :
    Consumes (parenthesized item keeps) :=
  (consumes_expect (by decide)).bind fun _ => (keeps_items keeps).bind fun _ =>
    (consumes_expect (by decide)).keeps.bind fun _ => keeps_pure _

/-! ### Statements -/

/-- The parameters of a function. -/
def parameters : Parser (List Param) :=
  parenthesized parameter consumes_parameter.keeps

/-- The arguments of a call. -/
def arguments : Parser (List Expr) :=
  parenthesized expression consumes_expression.keeps

/-- A constant, with the semicolon that ends it. -/
def constant : Parser Stmt := do
  let _ ← expect (.keyword .let)
  let name ← identifier
  let _ ← expect .colon
  let type ← typeName
  let _ ← expect .assign
  let value ← expression
  let _ ← expect .semicolon
  return .constant name type value

/-- A call, with the semicolon that ends it. -/
def call : Parser Stmt := do
  let callee ← identifier
  let args ← arguments
  let _ ← expect .semicolon
  return .call callee args

/-- What a function says before its body. -/
structure Header where
  /-- The name of the function. -/
  name : String
  /-- Its parameters. -/
  params : List Param
  /-- The type of its result. -/
  result : String

/-- A function up to the brace that opens its body. -/
def header : Parser Header := do
  let _ ← expect (.keyword .fn)
  let name ← identifier
  let params ← parameters
  let _ ← expect .colon
  let result ← typeName
  let _ ← expect .leftBrace
  return ⟨name, params, result⟩

theorem consumes_constant : Consumes constant :=
  (consumes_expect (by decide)).bind fun _ => consumes_identifier.keeps.bind fun _ =>
    (consumes_expect (by decide)).keeps.bind fun _ => consumes_typeName.keeps.bind fun _ =>
      (consumes_expect (by decide)).keeps.bind fun _ => consumes_expression.keeps.bind fun _ =>
        (consumes_expect (by decide)).keeps.bind fun _ => keeps_pure _

theorem consumes_call : Consumes call :=
  consumes_identifier.bind fun _ => (consumes_parenthesized _).keeps.bind fun _ =>
    (consumes_expect (by decide)).keeps.bind fun _ => keeps_pure _

theorem consumes_header : Consumes header :=
  (consumes_expect (by decide)).bind fun _ => consumes_identifier.keeps.bind fun _ =>
    (consumes_parenthesized _).keeps.bind fun _ => (consumes_expect (by decide)).keeps.bind fun _ =>
      consumes_typeName.keeps.bind fun _ => (consumes_expect (by decide)).keeps.bind fun _ =>
        keeps_pure _

/-- Whether statements end at a token: at the end of the file, and `inside` a body also at the brace
that closes it. -/
def endsStatements (inside : Bool) (kind : Token.Kind) : Bool :=
  kind = .endOfFile || (inside && kind = .rightBrace)

mutual

/-- A statement, with the proof that it was `Consumed`. The current token tells which sort it is. -/
def readStatement (r : Reader) : { o : Outcome Stmt // Consumed r o } :=
  match r.current.kind with
  | .keyword .let => ⟨constant r, consumes_constant r⟩
  | .identifier => ⟨call r, consumes_call r⟩
  | .keyword .fn =>
    match h : header r with
    | .error fault stop => ⟨.error fault stop, trivial⟩
    | .ok head behind =>
      have first : behind.size < r.size := by simpa [h] using! consumes_header r
      match readStatements true behind with
      | ⟨.error fault stop, _⟩ => ⟨.error fault stop, trivial⟩
      | ⟨.ok body close, second⟩ =>
        match h' : expect .rightBrace close with
        | .error fault stop => ⟨.error fault stop, trivial⟩
        | .ok _ last =>
          have third : last.size < close.size := by
            simpa [h'] using! @consumes_expect .rightBrace (by decide) close
          ⟨.ok (.function head.name head.result head.params body) last,
            Nat.lt_trans third (Nat.lt_of_le_of_lt second first)⟩
  | _ => ⟨refuse .statement r, trivial⟩
termination_by (r.size, 0)

/-- Statements up to the end of the file, or with `inside` up to a closing brace, with the proof
that nothing was added to what is left. -/
def readStatements (inside : Bool) (r : Reader) : { o : Outcome (List Stmt) // Kept r o } :=
  if endsStatements inside r.current.kind then ⟨.ok [] r, Nat.le_refl _⟩
  else
    match readStatement r with
    | ⟨.error fault stop, _⟩ => ⟨.error fault stop, trivial⟩
    | ⟨.ok first behind, consumed⟩ =>
      have : behind.size < r.size := consumed
      match readStatements inside behind with
      | ⟨.error fault stop, _⟩ => ⟨.error fault stop, trivial⟩
      | ⟨.ok others last, kept⟩ =>
        ⟨.ok (first :: others) last, Nat.le_trans kept (Nat.le_of_lt consumed)⟩
termination_by (r.size, 1)

end

/-- A statement, without the proof that `readStatement` carries. -/
def statement : Parser Stmt := fun r => (readStatement r).1

/-- Statements up to the end of the file, or with `inside` up to a closing brace, without the proof
that `readStatements` carries. -/
def statements (inside : Bool) : Parser (List Stmt) := fun r => (readStatements inside r).1

/-- A whole module, up to the end of the file: its name and its `statements`. -/
def module : Parser Module := do
  let _ ← expect (.keyword .module)
  let name ← identifier
  let _ ← expect .semicolon
  let list ← statements false
  return ⟨name, list⟩

end Parser

/-- Reads the program that a source text spells, and keeps the reader as it stood at the end, with
every token that was read. -/
def Module.read (source : String) : Parser.Outcome Module :=
  Parser.module (Reader.ofSource source)

/-- The program that `Module.read` finds in a source text, or its fault as an error in the given
file. -/
def Module.parse (file source : String) : Except SourceError Module :=
  match Module.read source with
  | .ok program _ => .ok program
  | .error fault _ => .error (.ofFault file fault)

end Modlet
