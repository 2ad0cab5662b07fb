import Modlet.Proofs.Program.EarliestFault

/-!
# Reading always ends

The loops of reading go on as long as the tokens tell them to, and statements nest as deeply as they
like. Nothing in them counts. They end since every round consumes a token, and every statement does
so before another one is read in its body. Here the loops are written without any care for that, but
with a bound on how long they may go on, and it is shown that the number of tokens is enough.

* `Parser.Bounded`: reading with a bound, at which it gives up.
* `Completes`: with a bound, reading comes to the same as without one.
* `Round`: what one round of a loop comes to.
* `read_terminates`: a bound above the number of tokens is never met.
-/

namespace Modlet

open Token

namespace Parser

/-! ### Reading with a bound -/

/-- A piece to be read with a bound: a `Parser` that may give up, and then there is no result. -/
abbrev Attempt := OptionT Parser

namespace Bounded

variable {α : Type}

/-- What stands behind an item: a comma and the items that `others` reads, or nothing. -/
def itemsBehind (others : Attempt (List α)) (first : α) : Attempt (List α) := do
  if (← get).current.kind = .comma then
    let _ ← expect .comma
    let list ← others
    return first :: list
  else
    return [first]

/-- Items up to a closing parenthesis, in `bound` rounds at most. -/
def items (item : Parser α) : Nat → Attempt (List α)
  | 0 => failure
  | bound + 1 => do
    if (← get).current.kind = .rightParen then
      return []
    else
      let first ← item
      itemsBehind (items item bound) first

/-- A list of `items` in parentheses. -/
def parenthesized (item : Parser α) (bound : Nat) : Attempt (List α) := do
  let _ ← expect .leftParen
  let list ← items item bound
  let _ ← expect .rightParen
  return list

/-- A call, with the semicolon that ends it. -/
def call (bound : Nat) : Attempt Stmt := do
  let callee ← identifier
  let args ← parenthesized expression bound
  let _ ← expect .semicolon
  return .call callee args

/-- A function up to the brace that opens its body. -/
def header (bound : Nat) : Attempt Header := do
  let _ ← expect (.keyword .fn)
  let name ← identifier
  let params ← parenthesized parameter bound
  let _ ← expect .colon
  let result ← typeName
  let _ ← expect .leftBrace
  return ⟨name, params, result⟩

/-- A function, whose statements are those that `body` reads behind its `header`. -/
def function (bound : Nat) (body : Attempt (List Stmt)) : Attempt Stmt := do
  let head ← header bound
  let list ← body
  let _ ← expect .rightBrace
  return .function head.name head.result head.params list

/-- A statement. If it is a function, `body` reads the statements in it. -/
def statement (bound : Nat) (body : Attempt (List Stmt)) : Attempt Stmt := do
  let r ← get
  if r.current.kind = .keyword .let then liftM constant
  else if r.current.kind = .identifier then call bound
  else if r.current.kind = .keyword .fn then function bound body
  else liftM (refuse .statement : Parser Stmt)

/-- Statements up to the end of the file, or with `inside` up to a closing brace. At most `bound` of
them may stand one behind the other and one in the other. -/
def statements : Nat → Bool → Attempt (List Stmt)
  | 0, _ => failure
  | bound + 1, inside => do
    if endsStatements inside (← get).current.kind then
      return []
    else
      let first ← statement bound (statements bound true)
      let others ← statements bound inside
      return first :: others

/-- A whole module, up to the end of the file. -/
def module (bound : Nat) : Attempt Module := do
  let _ ← expect (.keyword .module)
  let name ← identifier
  let _ ← expect .semicolon
  let list ← statements bound false
  return ⟨name, list⟩

end Bounded

/-! ### The bound is not met -/

variable {α β : Type}

/-- The `Outcome` of a reading that did not give up. -/
def completed : Outcome α → Outcome (Option α)
  | .ok a behind => .ok (some a) behind
  | .error fault stop => .error fault stop

/-- Reading a piece with a bound does not give up, and its outcome is the `completed` one of reading
it without. -/
def Completes (attempt : Attempt α) (p : Parser α) (r : Reader) : Prop :=
  attempt.run r = completed (p r)

variable {a : Attempt α} {b : α → Attempt β} {p p' : Parser α} {q : α → Parser β} {r : Reader}

/-- A piece without loops needs no bound: `liftM` completes it. -/
theorem completes_lift (p : Parser α) (r : Reader) : Completes (liftM p) p r := by
  have hrun : (liftM p : Attempt α).run = p >>= fun x => pure (some x) := by rfl
  rw [Completes, hrun]
  cases h : p r with
  | ok x behind => 
    rw [bind_ok h]
    rfl
  | error fault stop => 
    rw [bind_error h]
    rfl

theorem completes_pure (x : α) (r : Reader) : Completes (pure x) (pure x) r := by
  rfl

/-- What a piece comes to may be told in another way, by a parser that agrees at `r`. -/
theorem Completes.congr (h : Completes a p' r) (hp : p r = p' r) : Completes a p r := by
  rw [Completes, hp]
  exact h

/-- Two pieces in order are completed if both are, the second from every reader that the first
leaves. -/
theorem Completes.bind (hp : Completes a p r)
    (hq : ∀ x behind, p r = .ok x behind → Completes (b x) (q x) behind) :
    Completes (a >>= b) (p >>= q) r := by
  rw [Completes] at hp
  -- An attempt that gives up would end here, without the second piece.
  have hrun : (a >>= b).run = a.run >>= fun
    | some x => (b x).run
    | none => pure none := by rfl
  rw [Completes, hrun]
  cases h : p r with
  | ok x behind =>
    rw [h] at hp
    rw [bind_ok h, bind_ok hp]
    exact hq x behind h
  | error fault stop =>
    rw [h] at hp
    rw [bind_error h, bind_error hp]
    rfl

/-- Looking at the reader changes nothing. -/
theorem Completes.get {a : Reader → Attempt α} (h : Completes (a r) p r) :
    Completes (get >>= a) p r := by
  exact h

/-- Behind a piece that `Consumes`, less is left than the bound. -/
theorem Completes.bind_consumes {n : Nat} (hp : Completes a p r) (hconsumes : Consumes p)
    (hsize : r.size ≤ n)
    (hq : ∀ x behind, behind.size < n → Completes (b x) (q x) behind) :
    Completes (a >>= b) (p >>= q) r := by
  refine hp.bind fun x behind h => hq x behind ?_
  have hless := hconsumes r
  rw [h] at hless
  exact Nat.lt_of_lt_of_le hless hsize

/-- Behind an item a list is completed, if `others` completes `items` behind the comma. -/
theorem completes_itemsBehind {item : Parser α} {keeps : Keeps item} {others : Attempt (List α)}
    (first : α) (h : ∀ behind : Reader, behind.size < r.size →
      Completes others (items item keeps) behind) :
    Completes (Bounded.itemsBehind others first) (itemsBehind keeps first) r := by
  refine Completes.get ?_
  by_cases hcomma : r.current.kind = .comma
  · rw [if_pos hcomma]
    have hmore : Completes _ (expect .comma >>= fun _ => items item keeps >>= fun list =>
        pure (first :: list)) r :=
      (completes_lift _ r).bind_consumes (consumes_expect (by decide)) (Nat.le_refl _)
        fun _ behind hless => (h behind hless).bind fun list last _ => completes_pure _ last
    exact hmore.congr (by rw [itemsBehind, if_pos hcomma])
  · rw [if_neg hcomma]
    exact (completes_pure [first] r).congr (by rw [itemsBehind, if_neg hcomma]; rfl)

/-- A list of `items` needs no more rounds than there are tokens. -/
theorem completes_items {item : Parser α} (hitem : Consumes item) {bound : Nat}
    (h : r.size < bound) : Completes (Bounded.items item bound) (items item hitem.keeps) r := by
  induction bound generalizing r with
  | zero => exact absurd h (Nat.not_lt_zero _)
  | succ bound ih =>
    refine Completes.get ?_
    by_cases hclosing : r.current.kind = .rightParen
    · rw [if_pos hclosing]
      exact (completes_pure [] r).congr (by rw [items_eq, if_pos hclosing]; rfl)
    · rw [if_neg hclosing]
      -- An item is consumed, so one round less is enough for what stands behind it.
      have hsome : Completes _ (item >>= itemsBehind hitem.keeps) r :=
        (completes_lift item r).bind_consumes hitem (Nat.le_of_lt_succ h)
          fun first behind hless =>
            completes_itemsBehind first fun last hlast => ih (Nat.lt_trans hlast hless)
      exact hsome.congr (by rw [items_eq, if_neg hclosing])

/-- A list in parentheses needs no more rounds than there are tokens behind the first one
(`parenthesized`). -/
theorem completes_parenthesized {item : Parser α} (hitem : Consumes item) {bound : Nat}
    (h : r.size ≤ bound) :
    Completes (Bounded.parenthesized item bound) (parenthesized item hitem.keeps) r :=
  (completes_lift _ r).bind_consumes (consumes_expect (by decide)) h fun _ _ hless =>
    (completes_items hitem hless).bind fun list close _ =>
      (completes_lift _ close).bind fun _ last _ => completes_pure list last

/-- A `call` needs no more rounds than there are tokens. -/
theorem completes_call {bound : Nat} (h : r.size ≤ bound) :
    Completes (Bounded.call bound) call r :=
  (completes_lift _ r).bind_consumes consumes_identifier h fun callee _ hless =>
    (completes_parenthesized consumes_expression hless.le).bind fun args behind _ =>
      (completes_lift _ behind).bind fun _ last _ => completes_pure (Stmt.call callee args) last

/-- The `header` of a function needs no more rounds than there are tokens. -/
theorem completes_header {bound : Nat} (h : r.size ≤ bound) :
    Completes (Bounded.header bound) header r :=
  (completes_lift _ r).bind_consumes (consumes_expect (by decide)) h fun _ _ hless =>
    (completes_lift _ _).bind_consumes consumes_identifier hless.le fun name _ hless =>
      (completes_parenthesized consumes_parameter hless.le).bind fun params behind _ =>
        (completes_lift _ behind).bind fun _ colon _ =>
          (completes_lift _ colon).bind fun result opening _ =>
            (completes_lift _ opening).bind fun _ last _ => completes_pure _ last

/-- A function is completed if its body is, before which `header` consumes tokens. -/
theorem completes_function {bound : Nat} {body : Attempt (List Stmt)} (h : r.size ≤ bound)
    (hbody : ∀ behind : Reader, behind.size < bound → Completes body (statements true) behind) :
    Completes (Bounded.function bound body) function r :=
  (completes_header h).bind_consumes consumes_header h fun _ behind hless =>
    (hbody behind hless).bind fun _ close _ =>
      (completes_lift _ close).bind fun _ last _ => completes_pure _ last

/-- A `statement` is completed if the body of a function is. -/
theorem completes_statement {bound : Nat} {body : Attempt (List Stmt)} (h : r.size ≤ bound)
    (hbody : ∀ behind : Reader, behind.size < bound → Completes body (statements true) behind) :
    Completes (Bounded.statement bound body) statement r := by
  refine Completes.get ?_
  rw [Completes, statement_eq]
  split_ifs
  · exact completes_lift constant r
  · exact completes_call h
  · exact completes_function h hbody
  · exact completes_lift (refuse .statement) r

/-- The `statements` of a source stand neither behind each other nor in each other more often than
there are tokens. So a bound above the `Reader.size` is not met. -/
theorem completes_statements {bound : Nat} (inside : Bool) (h : r.size < bound) :
    Completes (Bounded.statements bound inside) (statements inside) r := by
  induction bound generalizing inside r with
  | zero => exact absurd h (Nat.not_lt_zero _)
  | succ bound ih =>
    refine Completes.get ?_
    rw [Completes, statements_eq]
    split_ifs with hends
    · exact completes_pure [] r
    · -- The first statement consumes a token, and a function does so before its body.
      have hfirst := @completes_statement r bound _ (Nat.le_of_lt_succ h)
        fun behind hless => ih true hless
      exact hfirst.bind_consumes consumes_statement (Nat.le_of_lt_succ h) fun first behind hless =>
        (ih inside hless).bind fun others last _ => completes_pure (first :: others) last

/-- A `module` is read to its end with every bound above the `Reader.size`. -/
theorem completes_module {bound : Nat} (h : r.size < bound) :
    Completes (Bounded.module bound) module r :=
  (completes_lift _ r).bind_consumes (consumes_expect (by decide)) h.le fun _ _ hless =>
    (completes_lift _ _).bind_consumes consumes_identifier hless.le fun name _ hless =>
      (completes_lift _ _).bind_consumes (consumes_expect (by decide)) hless.le fun _ _ hless =>
        (completes_statements false hless).bind fun list last _ => completes_pure _ last

/-! ### What every round does -/

/-- What one round of a loop comes to at `r`. It ends the `loop` without an item, or its `item`
fails. Otherwise an item is read, which makes the `Reader.size` less, and the loop ends or goes on
there. -/
inductive Round (loop : Parser (List α)) (item : Parser α) (r : Reader) : Prop
  | done : loop r = .ok [] r → Round loop item r
  | fails {fault : Fault} {stop : Reader} :
      item r = .error fault stop → loop r = .error fault stop → Round loop item r
  | last {first : α} {behind : Reader} :
      item r = .ok first behind → behind.size < r.size → loop r = .ok [first] behind →
      Round loop item r
  | next {first : α} {behind next : Reader} :
      item r = .ok first behind → behind.size < r.size → next.size ≤ behind.size →
      loop r = (loop >>= fun others => pure (first :: others)) next → Round loop item r

/-- Every round of the loop over `statements` is a `Round`. -/
theorem round_statements (inside : Bool) (r : Reader) :
    Round (statements inside) statement r := by
  by_cases hends : endsStatements inside r.current.kind = true
  · exact .done (by rw [statements_eq, if_pos hends])
  cases hfirst : statement r with
  | error fault stop =>
    refine .fails hfirst ?_
    rw [statements_eq, if_neg hends, bind_error hfirst]
  | ok first behind =>
    have hless := consumes_statement r
    rw [hfirst] at hless
    refine .next hfirst hless (Nat.le_refl _) ?_
    rw [statements_eq, if_neg hends, bind_ok hfirst]

/-- Every round of a loop over `items` is a `Round`. -/
theorem round_items {item : Parser α} (hitem : Consumes item) (r : Reader) :
    Round (items item hitem.keeps) item r := by
  by_cases hclosing : r.current.kind = .rightParen
  · exact .done (by rw [items_eq, if_pos hclosing])
  -- An item is read before it is known whether the list goes on behind it.
  cases hfirst : item r with
  | error fault stop =>
    refine .fails hfirst ?_
    rw [items_eq, if_neg hclosing, bind_error hfirst]
  | ok first behind =>
    have hless := hitem r
    rw [hfirst] at hless
    by_cases hcomma : behind.current.kind = .comma
    · -- The comma is consumed too, and the loop goes on behind it.
      have hadvance : behind.advance.size < behind.size := Reader.size_advance_lt (by simp [hcomma])
      refine .next hfirst hless hadvance.le ?_
      rw [items_eq, if_neg hclosing, bind_ok hfirst, itemsBehind, if_pos hcomma,
        bind_ok (show expect .comma behind = .ok behind.current behind.advance by
          rw [expect, if_pos hcomma])]
    · refine .last hfirst hless ?_
      rw [items_eq, if_neg hclosing, bind_ok hfirst, itemsBehind, if_neg hcomma]

/-- Where the file ends, statements end, and the brace that closes a body is missing; in a list an
item is missing. -/
structure EndsHere (r : Reader) : Prop where
  /-- No statement is read any more. -/
  statements_eq : ∀ inside, statements inside r = .ok [] r
  /-- A body is refused. -/
  body : expect .rightBrace r = .error (.unexpected (.token .rightBrace) r.current) r
  /-- A list of arguments is refused. -/
  arguments : items expression consumes_expression.keeps r =
    .error (.unexpected .expression r.current) r
  /-- A list of parameters is refused. -/
  parameters : items parameter consumes_parameter.keeps r =
    .error (.unexpected (.token .identifier) r.current) r

/-- No loop goes on at the end of the file, in the sense of `EndsHere`. -/
theorem endsHere_of_endOfFile {r : Reader} (h : r.current.kind = .endOfFile) : EndsHere r := by
  -- Whatever is wanted, the end of the file is found in its place.
  have hexpect : ∀ kind, kind ≠ .endOfFile →
      expect kind r = .error (.unexpected (.token kind) r.current) r := by
    intro kind hkind
    rw [expect, if_neg (by rw [h]; exact hkind.symm)]
    rfl
  have hclosing : ¬ r.current.kind = .rightParen := by simp [h]
  refine ⟨fun inside => ?_, hexpect _ (by decide), ?_, ?_⟩
  · rw [statements_eq, if_pos (by simp [endsStatements, h])]
  · have hitem : expression r = .error (.unexpected .expression r.current) r := by
      simp [expression, h, refuse]
    rw [items_eq, if_neg hclosing, bind_error hitem]
  · have hname := hexpect .identifier (by decide)
    have hitem : parameter r = .error (.unexpected (.token .identifier) r.current) r :=
      bind_error (bind_error hname)
    rw [items_eq, if_neg hclosing, bind_error hitem]

/-- Every piece of a program that is read again and again `Consumes` a token, and so does every
`Round` of a loop. -/
structure Advances : Prop where
  /-- Statements are consumed. -/
  statement : Consumes statement
  /-- Parameters are consumed. -/
  parameter : Consumes parameter
  /-- Arguments are consumed. -/
  argument : Consumes expression
  /-- Before the body of a function is read, tokens are consumed. -/
  body : ∀ r head behind, r.current.kind = .keyword .fn → header r = .ok head behind →
    behind.size < r.size ∧ Parser.statement r =
      (statements true >>= fun list => expect .rightBrace >>= fun _ =>
        pure (.function head.name head.result head.params list)) behind
  /-- Rounds over statements, at the top of a module and in the body of a function. -/
  statements : ∀ inside r, Round (statements inside) Parser.statement r
  /-- Rounds over parameters. -/
  parameters : ∀ r, Round (items Parser.parameter consumes_parameter.keeps) Parser.parameter r
  /-- Rounds over arguments. -/
  arguments : ∀ r, Round (items expression consumes_expression.keeps) expression r
  /-- At the end of the file no loop goes on. -/
  endsHere : ∀ r : Reader, r.current.kind = .endOfFile → EndsHere r

/-- Reading `Advances` wherever something is done again and again. -/
theorem advances : Advances where
  statement := consumes_statement
  parameter := consumes_parameter
  argument := consumes_expression
  body r head behind hfn hhead := by
    have hless := consumes_header r
    rw [hhead] at hless
    refine ⟨hless, ?_⟩
    rw [statement_eq, if_neg (by simp [hfn]), if_neg (by simp [hfn]), if_pos hfn]
    exact bind_ok hhead
  statements := round_statements
  parameters := round_items consumes_parameter
  arguments := round_items consumes_expression
  endsHere _ := endsHere_of_endOfFile

end Parser

/-! ### Sources -/

/-- Reading a source comes to its end: the `Bounded` reading of it does not give up. -/
structure ReadingEnds (source : String) : Prop where
  /-- There are no more tokens than characters. -/
  length_le : (tokensOf source).length ≤ source.length
  /-- Behind the tokens, and only there, readings give the end of the file. -/
  kind_iff : ∀ n,
    ((Cursor.ofSource source).reading n).kind = .endOfFile ↔ (tokensOf source).length ≤ n
  /-- At the beginning all tokens are to be consumed. -/
  size_eq : (Reader.ofSource source).size = (tokensOf source).length
  /-- Reading with a bound above the number of tokens does not give up, and it succeeds or fails as
  it does without one. -/
  bounded : ∀ bound, (tokensOf source).length < bound →
    (Parser.Bounded.module bound).run (Reader.ofSource source) =
      Parser.completed (Module.read source)

/-- Reading ends on every source, however malformed. Every token that `Cursor.next` reads off a
source leaves less of it, every `Round` of a loop consumes a token by `Advances`, and so the loops
end by themselves: with any bound above the number of tokens, `Bounded` reading comes to the same as
`Module.read`. -/
theorem read_terminates :
    (∀ cursor : Cursor, cursor.next.1.kind ≠ .endOfFile →
      cursor.next.2.rest.length < cursor.rest.length)
      ∧ Parser.Advances ∧ ∀ source, ReadingEnds source := by
  refine ⟨fun cursor => Cursor.next_length_lt, Parser.advances, fun source => ?_⟩
  have hsize : (Reader.ofSource source).size = (tokensOf source).length := by
    rw [Reader.size, Reader.pending_ofSource]
  refine ⟨?_, fun n => Cursor.kind_reading_iff, hsize, fun bound hbound => ?_⟩
  · have hlength := Cursor.length_tokens_le (Cursor.ofSource source)
    rwa [Cursor.ofSource, String.length_toList] at hlength
  · exact Parser.completes_module (hsize ▸ hbound)

/-- A source that ends in the middle of a list, of which eight rounds are more than enough. -/
theorem read_terminates_open_list :
    (Cursor.ofSource "module a; f(x,").next.1.kind ≠ .endOfFile
      ∧ (Cursor.ofSource "module a; f(x,").next.2.rest.length <
        (Cursor.ofSource "module a; f(x,").rest.length
      ∧ (tokensOf "module a; f(x,").length < 8
      ∧ (Parser.Bounded.module 8).run (Reader.ofSource "module a; f(x,") =
        Parser.completed (Module.read "module a; f(x,") := by
  have hnext : (Cursor.ofSource "module a; f(x,").next.1.kind ≠ .endOfFile := by
    cbv
    intro h
    cases h
  have htokens : (tokensOf "module a; f(x,").length < 8 := by cbv
  obtain ⟨hless, -, hends⟩ := read_terminates
  exact ⟨hnext, hless _ hnext, htokens, (hends _).bounded 8 htokens⟩

/-- Its list is refused where the file ends. -/
example : Module.parse "m" "module a; f(x," =
    .error ⟨"expected an expression, found end of file", "m", ⟨1, 15⟩⟩ := by
  cbv

end Modlet
