import Modlet.Proofs.Program.Reading

/-!
# The parser accepts exactly the grammar

What `Proofs.Program.Reading` says of a successful reading is one half: the consumed tokens spell
the result. Here is the other half. Every piece of the parser gives each result that the grammar
allows, provided that what stands behind the piece does not belong to it: a list has to be followed
by its closing parenthesis, and statements by the end of what they are in.

* `Parser.Accepts`: a piece gives a result where given tokens pass.
* `Parser.accepts_items`, `Parser.accepts_statements`: lists and statements are accepted.
* `parse_eq_ok_iff`: parsing gives a tree exactly if the tokens of the source spell it.
-/

namespace Modlet

open Token

variable {α β : Type}

/-- The kind of the first of some tokens, or of what stands behind them if there are none. -/
def leading (ts : List Content) (behind : Kind) : Kind :=
  match ts with
  | [] => behind
  | t :: _ => t.1

@[simp]
theorem leading_nil (behind : Kind) : leading [] behind = behind := rfl

@[simp]
theorem leading_cons (t : Content) (ts : List Content) (behind : Kind) :
    leading (t :: ts) behind = t.1 := rfl

@[simp]
theorem leading_append (ts us : List Content) (behind : Kind) :
    leading (ts ++ us) behind = leading ts (leading us behind) := by
  cases ts <;> rfl

/-- A reader stands at the first token of those that it `Passes`. -/
theorem Reader.Passes.leading_eq {r last : Reader} {ts : List Token} (h : r.Passes ts last) :
    r.current.kind = leading (ts.map content) last.current.kind := by
  cases h <;> rfl

namespace Parser

/-- Where the tokens `ts` pass, and a token of a kind in `Follow` stands behind them, the piece
`p` gives the result `a`. One lemma of this form for each rule of the grammar makes up
`accepts_module`. -/
def Accepts (Follow : Kind → Prop) (ts : List Content) (a : α) (p : Parser α) : Prop :=
  ∀ (r last : Reader) (us : List Token), r.Passes us last → us.map content = ts →
    Follow last.current.kind → p r = .ok a last

variable {F G : Kind → Prop} {ts us : List Content} {a : α} {b : β} {p : Parser α}
  {q : α → Parser β}

/-- A piece is accepted if it does the same as an accepted one `p'` where its tokens begin. -/
theorem Accepts.congr {p' : Parser α} (h : Accepts F ts a p')
    (hp : ∀ (r : Reader) (behind : Kind), F behind → r.current.kind = leading ts behind →
      p r = p' r) : Accepts F ts a p := by
  intro r last us hpasses hcontent hlast
  have hcurrent := hpasses.leading_eq
  rw [hcontent] at hcurrent
  rw [hp r last.current.kind hlast hcurrent]
  exact h r last us hpasses hcontent hlast

theorem accepts_pure (a : α) : Accepts F [] a (pure a : Parser α) := by
  intro r last us hpasses hcontent _
  rw [List.map_eq_nil_iff] at hcontent
  subst hcontent
  cases hpasses
  rfl

/-- Two pieces in order are accepted if what stands behind the first is what may `Follow` it. -/
theorem Accepts.bind (hp : Accepts F ts a p) (hq : Accepts G us b (q a))
    (hfollow : ∀ behind, G behind → F (leading us behind)) :
    Accepts G (ts ++ us) b (p >>= q) := by
  intro r last vs hpasses hcontent hlast
  obtain ⟨first, second, rfl, rfl, rfl⟩ := List.map_eq_append_iff.mp hcontent
  obtain ⟨mid, hfirst, hsecond⟩ := hpasses.exists_mid
  -- Behind the first piece stands the first token of the second one, or what is behind both.
  have hmid : F mid.current.kind := by
    rw [hsecond.leading_eq]
    exact hfollow _ hlast
  rw [bind_ok (hp r mid first hfirst rfl hmid)]
  exact hq mid last second hsecond rfl hlast

/-- A single token is accepted, and then what stands behind it. -/
theorem Accepts.cons {t : Content} (hp : Accepts (fun _ => True) [t] a p)
    (hq : Accepts G us b (q a)) : Accepts G (t :: us) b (p >>= q) :=
  hp.bind hq (by simp)

/-- A keyword or a mark is accepted by `expect`, and then what stands behind it. -/
theorem Accepts.fixed {p : Parser α} (kind : Kind) (hp : Accepts F ts a p) :
    Accepts F (kind.fixed :: ts) a (expect kind >>= fun _ => p) := by
  intro r last us hpasses hcontent hlast
  cases hpasses with
  | refl => cases hcontent
  | @step _ _ us hend hrest =>
    obtain ⟨hkind, hcontent⟩ := List.cons.inj hcontent
    have hexpect : expect kind r = .ok r.current r.advance := by
      simp only [expect, show r.current.kind = kind from congrArg Prod.fst hkind, if_pos]
    rw [bind_ok hexpect]
    exact hp r.advance last us hrest hcontent hlast

/-- A piece that consumes the current token is accepted where it takes that token. -/
theorem accepts_single {t : Content}
    (h : ∀ r : Reader, r.current.content = t → p r = .ok a r.advance) : Accepts F [t] a p := by
  intro r last us hpasses hcontent _
  cases hpasses with
  | refl => cases hcontent
  | step hend hrest =>
    obtain ⟨hcurrent, hnone⟩ := List.cons.inj hcontent
    rw [List.map_eq_nil_iff] at hnone
    subst hnone
    cases hrest
    exact h r hcurrent

/-! ### Names and values -/

theorem accepts_identifier (text : String) : Accepts F [Grammar.name text] text identifier := by
  refine accepts_single fun r hr => ?_
  obtain ⟨hkind, htext⟩ := Prod.mk.inj hr
  simp [identifier, expect, hkind, htext, Bind.bind, EStateM.bind, pure, EStateM.pure]

theorem accepts_typeName (text : String) : Accepts F [Grammar.name text] text typeName := by
  refine accepts_single fun r hr => ?_
  obtain ⟨hkind, htext⟩ := Prod.mk.inj hr
  simp [typeName, hkind, htext]

/-- Every `Grammar.Value` is accepted by `expression`, whatever follows. -/
theorem accepts_expression {value : Expr} (h : Grammar.Value ts value) :
    Accepts F ts value expression := by
  -- Each sort of value is one token, whose kind and text tell the value.
  cases h with
  | integer hread =>
    refine accepts_single fun r hr => ?_
    obtain ⟨hkind, htext⟩ := Prod.mk.inj hr
    simp [expression, hkind, htext, hread]
  | string text =>
    refine accepts_single fun r hr => ?_
    obtain ⟨hkind, htext⟩ := Prod.mk.inj hr
    simp [expression, hkind, htext]
  | «variable» text =>
    refine accepts_single fun r hr => ?_
    obtain ⟨hkind, htext⟩ := Prod.mk.inj hr
    simp [expression, hkind, htext]

/-- Every `Grammar.Parameter` is accepted by `parameter`, whatever follows. -/
theorem accepts_parameter {param : Param} (h : Grammar.Parameter ts param) :
    Accepts F ts param parameter := by
  cases h with
  | mk text type =>
    exact .cons (accepts_identifier text) (.fixed .colon (.cons (accepts_typeName type)
      (accepts_pure _)))

/-! ### Lists -/

/-- A list of `Grammar.Items` is accepted by `items` before a closing parenthesis, if its items are
accepted and none of them begins with one. -/
theorem accepts_items {item : Parser α} (keeps : Keeps item) {Item : List Content → α → Prop}
    (haccepts : ∀ ts a, Item ts a → Accepts (fun _ => True) ts a item)
    (hbegin : ∀ ts a, Item ts a → ∀ behind, leading ts behind ≠ .rightParen)
    {list : List α} (h : Grammar.Items Item ts list) :
    Accepts (· = .rightParen) ts list (items item keeps) := by
  induction h with
  | none =>
    refine (accepts_pure []).congr fun r behind hbehind hr => ?_
    rw [items_eq, if_pos (hr.trans hbehind)]
    rfl
  | @last ts a hitem =>
    -- No comma stands behind the last item, since the closing parenthesis does.
    have hnone : Accepts (· = .rightParen) [] [a] (itemsBehind keeps a) := by
      refine (accepts_pure [a]).congr fun r behind hbehind hr => ?_
      rw [itemsBehind, if_neg (by simp [hr, hbehind])]
      rfl
    have hlast := (haccepts ts a hitem).bind (q := itemsBehind keeps) hnone (by simp)
    rw [List.append_nil] at hlast
    refine hlast.congr fun r behind _ hr => ?_
    rw [items_eq, if_neg (hr ▸ hbegin ts a hitem behind)]
  | @more ts us a list hitem _ ih =>
    -- Behind the comma there may be no further item, and `ih` covers that too.
    have hothers := ih.bind (accepts_pure (F := (· = .rightParen)) (a :: list))
      (q := fun others => pure (a :: others)) (fun _ h => h)
    rw [List.append_nil] at hothers
    have hcomma : Accepts (· = .rightParen) (Kind.comma.fixed :: us) (a :: list)
        (itemsBehind keeps a) := by
      refine (hothers.fixed .comma).congr fun r _ _ hr => ?_
      change r.current.kind = .comma at hr
      rw [itemsBehind, if_pos hr]
    have hmore := (haccepts ts a hitem).bind (q := itemsBehind keeps) hcomma (by simp)
    refine hmore.congr fun r behind _ hr => ?_
    rw [leading_append] at hr
    rw [items_eq, if_neg (hr ▸ hbegin ts a hitem _)]

/-- A list of `Grammar.Items` in parentheses is accepted by `parenthesized`. -/
theorem accepts_parenthesized {item : Parser α} (keeps : Keeps item)
    {Item : List Content → α → Prop}
    (haccepts : ∀ ts a, Item ts a → Accepts (fun _ => True) ts a item)
    (hbegin : ∀ ts a, Item ts a → ∀ behind, leading ts behind ≠ .rightParen)
    {list : List α} (h : Grammar.Items Item ts list) :
    Accepts F (Kind.leftParen.fixed :: (ts ++ [Kind.rightParen.fixed])) list
      (parenthesized item keeps) := by
  refine .fixed .leftParen ?_
  exact (accepts_items keeps haccepts hbegin h).bind ((accepts_pure list).fixed .rightParen)
    fun _ _ => rfl

theorem accepts_parameters {params : List Param} (h : Grammar.Items Grammar.Parameter ts params) :
    Accepts F (Kind.leftParen.fixed :: (ts ++ [Kind.rightParen.fixed])) params parameters :=
  accepts_parenthesized _ (fun _ _ => accepts_parameter) (by rintro _ _ ⟨⟩ _; simp [Grammar.name]) h

theorem accepts_arguments {args : List Expr} (h : Grammar.Items Grammar.Value ts args) :
    Accepts F (Kind.leftParen.fixed :: (ts ++ [Kind.rightParen.fixed])) args arguments :=
  accepts_parenthesized _ (fun _ _ => accepts_expression)
    (by rintro _ _ (_ | _ | _) _ <;> simp [Grammar.name]) h

/-! ### Statements -/

/-- A constant of the grammar is accepted by `constant`. -/
theorem accepts_constant (text type : String) {value : Expr} (h : Grammar.Value ts value) :
    Accepts F
      ([(Kind.keyword .let).fixed, Grammar.name text, Kind.colon.fixed, Grammar.name type,
        Kind.assign.fixed] ++ ts ++ [Kind.semicolon.fixed])
      (.constant text type value) constant := by
  refine .fixed (.keyword .let) (.cons (accepts_identifier text) (.fixed .colon
    (.cons (accepts_typeName type) (.fixed .assign ?_))))
  exact (accepts_expression h).bind (F := fun _ => True) ((accepts_pure _).fixed .semicolon)
    (by simp)

/-- A call of the grammar is accepted by `call`. -/
theorem accepts_call (callee : String) {args : List Expr}
    (h : Grammar.Items Grammar.Value ts args) :
    Accepts F
      ([Grammar.name callee, Kind.leftParen.fixed] ++ ts
        ++ [Kind.rightParen.fixed, Kind.semicolon.fixed])
      (.call callee args) call := by
  have hargs := (accepts_arguments h).bind (F := fun _ => True) (G := F)
    (q := fun args => expect .semicolon >>= fun _ => pure (Stmt.call callee args))
    ((accepts_pure _).fixed .semicolon) (by simp)
  have hcall : Accepts F _ (Stmt.call callee args) call :=
    .cons (accepts_identifier callee) hargs
  simpa using! hcall

/-- What comes before the body of a function is accepted by `header`. -/
theorem accepts_header (text result : String) {params : List Param}
    (h : Grammar.Items Grammar.Parameter ts params) :
    Accepts F
      ([(Kind.keyword .fn).fixed, Grammar.name text, Kind.leftParen.fixed] ++ ts
        ++ [Kind.rightParen.fixed, Kind.colon.fixed, Grammar.name result, Kind.leftBrace.fixed])
      ⟨text, params, result⟩ header := by
  have hparams := (accepts_parameters h).bind (F := fun _ => True) (G := F)
    (q := fun params => expect .colon >>= fun _ => typeName >>= fun result =>
      expect .leftBrace >>= fun _ => pure (Header.mk text params result))
    (.fixed .colon (.cons (accepts_typeName result) (.fixed .leftBrace (accepts_pure _))))
    (by simp)
  have hheader : Accepts F _ (Header.mk text params result) header :=
    .fixed (.keyword .fn) (.cons (accepts_identifier text) hparams)
  simpa using! hheader

/-- A function is accepted if its body is accepted by `statements` before a closing brace. -/
theorem accepts_function (text result : String) {params : List Param} {body : List Stmt}
    (h : Grammar.Items Grammar.Parameter ts params)
    (hbody : Accepts (fun kind => endsStatements true kind = true) us body (statements true)) :
    Accepts F
      ([(Kind.keyword .fn).fixed, Grammar.name text, Kind.leftParen.fixed] ++ ts
        ++ [Kind.rightParen.fixed, Kind.colon.fixed, Grammar.name result, Kind.leftBrace.fixed]
        ++ us ++ [Kind.rightBrace.fixed])
      (.function text result params body) function := by
  have hclosed := hbody.bind (G := F)
    (q := fun body => expect .rightBrace >>= fun _ =>
      pure (Stmt.function text result params body))
    (.fixed .rightBrace (accepts_pure _)) (by simp [endsStatements, Kind.fixed])
  rw [List.append_assoc _ us]
  exact (accepts_header text result h).bind (F := fun _ => True) hclosed (by simp)

/-- A `Grammar.Statement` begins with a token that is none of those at which `endsStatements`
holds. -/
theorem leading_statement {stmt : Stmt} (h : Grammar.Statement ts stmt) (inside : Bool)
    (behind : Kind) : endsStatements inside (leading ts behind) = false := by
  cases h <;> cases inside <;> rfl

mutual

/-- Every `Grammar.Statement` is accepted by `statement`, whatever follows. -/
theorem accepts_statement {ts : List Content} {stmt : Stmt} :
    Grammar.Statement ts stmt → Accepts (fun _ => True) ts stmt statement
  | .constant text type hvalue => by
    refine (accepts_constant text type hvalue).congr fun r _ _ hlet => ?_
    change r.current.kind = .keyword .let at hlet
    rw [statement_eq, if_pos hlet]
  | .call callee hargs => by
    refine (accepts_call callee hargs).congr fun r _ _ hname => ?_
    change r.current.kind = .identifier at hname
    rw [statement_eq, if_neg (by simp [hname]), if_pos hname]
  | .function text result hparams hbody => by
    refine (accepts_function text result hparams (accepts_statements true hbody)).congr
      fun r _ _ hfn => ?_
    change r.current.kind = .keyword .fn at hfn
    rw [statement_eq, if_neg (by simp [hfn]), if_neg (by simp [hfn]), if_pos hfn]

/-- Every list of `Grammar.Statements` is accepted by `statements` before the end of what it is
in. -/
theorem accepts_statements {ts : List Content} {list : List Stmt} (inside : Bool) :
    Grammar.Statements ts list →
      Accepts (fun kind => endsStatements inside kind = true) ts list (statements inside)
  | .nil => by
    refine (accepts_pure []).congr fun r behind hbehind hr => ?_
    rw [leading_nil] at hr
    rw [statements_eq, if_pos (hr ▸ hbehind)]
    rfl
  | @Grammar.Statements.cons ts us first others hfirst hothers => by
    have hrest : Accepts (fun kind => endsStatements inside kind = true) (us ++ [])
        (first :: others) (statements inside >>= fun others => pure (first :: others)) :=
      (accepts_statements inside hothers).bind (accepts_pure _) fun _ h => h
    rw [List.append_nil] at hrest
    have hboth := (accepts_statement hfirst).bind
      (q := fun first => statements inside >>= fun others => pure (first :: others)) hrest (by simp)
    refine hboth.congr fun r behind _ hr => ?_
    -- The loop goes on, since no statement begins with what ends it.
    have hgoes : ¬ endsStatements inside r.current.kind = true := by
      rw [hr, leading_append, leading_statement hfirst]
      decide
    rw [statements_eq, if_neg hgoes]

end

/-- Every `Grammar.Program` is accepted by `module` at the end of the file. -/
theorem accepts_module {program : Module} (h : Grammar.Program ts program) :
    Accepts (· = .endOfFile) ts program module := by
  cases h with
  | @mk ts list text hlist =>
    have hrest : Accepts (· = .endOfFile) (ts ++ []) (Module.mk text list)
        (statements false >>= fun list => pure (Module.mk text list)) :=
      (accepts_statements false hlist).bind (accepts_pure _) (by simp [endsStatements])
    rw [List.append_nil] at hrest
    exact .fixed (.keyword .module) (.cons (accepts_identifier text) (.fixed .semicolon hrest))

end Parser

/-- What `Module.parse` gives is spelled by the tokens of the source, all of them, in the sense of
`Grammar.Program`. -/
theorem Module.program_of_parse {file source : String} {program : Module}
    (h : Module.parse file source = .ok program) :
    Grammar.Program ((tokensOf source).map content) program := by
  obtain ⟨_, last, -, ⟨read, hok, rfl, hspells⟩ | ⟨wanted, hfault, -⟩⟩ := Module.read_cases source
  · rw [Module.parse, hok] at h
    obtain rfl := Except.ok.inj h
    exact hspells
  · rw [Module.parse, hfault] at h
    cases h

/-- The tree that the tokens of the source spell is what `Module.parse` gives. -/
theorem Module.parse_of_program {source : String} {program : Module}
    (h : Grammar.Program ((tokensOf source).map content) program) (file : String) :
    Module.parse file source = .ok program := by
  obtain ⟨last, hpasses, hlast⟩ := Reader.exists_passes (Reader.ofSource source)
    (tokensOf source) [] (by rw [Reader.pending_ofSource, List.append_nil])
  have hend := Reader.endOfFile_of_pending hlast
  rw [Module.parse, Module.read, Parser.accepts_module h _ last _ hpasses rfl hend]

/-- The grammar decides. Parsing a source with `Module.parse` gives a tree exactly if the tokens of
the source, all of them, spell that tree in the sense of `Grammar.Program`, and a source whose
tokens spell no tree is rejected with an error. -/
theorem parse_eq_ok_iff (file source : String) :
    (∀ program, Module.parse file source = .ok program ↔
        Grammar.Program ((tokensOf source).map content) program)
      ∧ ((∀ program, ¬ Grammar.Program ((tokensOf source).map content) program) →
        ∃ e, Module.parse file source = .error e) := by
  refine ⟨fun program => ⟨Module.program_of_parse, fun h => Module.parse_of_program h file⟩,
    fun hnone => ?_⟩
  cases hparse : Module.parse file source with
  | ok program => exact absurd (Module.program_of_parse hparse) (hnone program)
  | error e => exact ⟨e, rfl⟩

end Modlet
