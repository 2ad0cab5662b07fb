import Modlet.Program.WellFormed
import Modlet.Proofs.Program.Acceptance

/-!
# What the trees of sources are made of

Every name and every value of a tree that is read from a source stands there as a token. Since the
tokens of a source have spellings that fit their kinds, names are identifiers, numbers are in range
and no string holds a quotation mark, at any depth of the tree.

* `Module.All.mono`: properties of names and values pass to weaker ones.
* `Grammar.Program.all`: what all tokens have in common, the names and values of the tree have.
* `Module.wellFormed_of_parse`: trees that are read are well-formed.
* `parse_madeOfTokens`: they are made of what the tokens of the source say.
-/

namespace Modlet

open Token

/-! ### Properties of names and values -/

/-- A number that a source can give. -/
abbrev IsInRange (n : Int) : Prop := 0 ≤ n ∧ n ≤ Numeral.greatest

/-- What a string can contain. -/
abbrev IsUnquoted (text : String) : Prop := '"' ∉ text.toList

variable {Name Name' Contents Contents' : String → Prop} {Number Number' : Int → Prop}

theorem Expr.All.mono (hname : ∀ name, Name name → Name' name)
    (hnumber : ∀ n, Number n → Number' n) (hcontents : ∀ text, Contents text → Contents' text) :
    ∀ {value : Expr}, value.All Name Number Contents → value.All Name' Number' Contents'
  | .integer n, h => hnumber n h
  | .string text, h => hcontents text h
  | .variable name, h => hname name h

mutual

/-- Properties of the names and values of a statement pass to weaker ones in `Stmt.All`. -/
theorem Stmt.All.mono (hname : ∀ name, Name name → Name' name)
    (hnumber : ∀ n, Number n → Number' n) (hcontents : ∀ text, Contents text → Contents' text) :
    ∀ {statement : Stmt}, statement.All Name Number Contents →
      statement.All Name' Number' Contents'
  | .constant name type _, ⟨h, htype, hvalue⟩ =>
    ⟨hname name h, hname type htype, hvalue.mono hname hnumber hcontents⟩
  | .function name result _ _, ⟨h, hresult, hparams, hbody⟩ =>
    ⟨hname name h, hname result hresult,
      fun param hparam => (hparams param hparam).imp (hname _) (hname _),
      Stmt.AllList.mono hname hnumber hcontents hbody⟩
  | .call callee _, ⟨h, hargs⟩ =>
    ⟨hname callee h, fun arg harg => (hargs arg harg).mono hname hnumber hcontents⟩

/-- Properties of the names and values of statements pass to weaker ones in `Stmt.AllList`. -/
theorem Stmt.AllList.mono (hname : ∀ name, Name name → Name' name)
    (hnumber : ∀ n, Number n → Number' n) (hcontents : ∀ text, Contents text → Contents' text) :
    ∀ {list : List Stmt}, Stmt.AllList Name Number Contents list →
      Stmt.AllList Name' Number' Contents' list
  | [], _ => trivial
  | _ :: _, ⟨hfirst, hothers⟩ =>
    ⟨Stmt.All.mono hname hnumber hcontents hfirst,
      Stmt.AllList.mono hname hnumber hcontents hothers⟩

end

/-- Properties of the names and values of a module pass to weaker ones in `Module.All`. -/
theorem Module.All.mono {program : Module} (h : program.All Name Number Contents)
    (hname : ∀ name, Name name → Name' name) (hnumber : ∀ n, Number n → Number' n)
    (hcontents : ∀ text, Contents text → Contents' text) :
    program.All Name' Number' Contents' :=
  ⟨hname _ h.1, h.2.mono hname hnumber hcontents⟩

/-! ### From tokens to trees -/

/-- What `read?` gives for a numeral is the `value` of its digits. -/
theorem Numeral.eq_value_of_read? {text : List Char} {n : Nat} (h : read? text = some n) :
    n = value text := by
  unfold read? at h
  split at h
  · exact (Option.some.inj h).symm
  · cases h

/-- The number `n` is the value of an integer token with the property `P`. -/
def IsNumberOf (P : Content → Prop) (n : Int) : Prop :=
  ∃ text : String, P (.integer, text) ∧ n = Numeral.value text.toList

/-- What a tree says stands in tokens with the property `P`: every name is that of an identifier,
every number is the value of an integer, and every text is what a string contains. -/
def Module.MadeOf (P : Content → Prop) (program : Module) : Prop :=
  program.All (fun name => P (.identifier, name)) (IsNumberOf P) (fun text => P (.string, text))

variable {P : Content → Prop} {ts : List Content}

/-- A value says what a token of `ts` says, if `Grammar.Value` derives it from them. -/
theorem Grammar.Value.all {value : Expr} (h : Grammar.Value ts value) (hts : ∀ t ∈ ts, P t) :
    value.All (fun name => P (.identifier, name)) (IsNumberOf P)
      (fun text => P (.string, text)) := by
  cases h with
  | integer hread =>
    rw [Numeral.eq_value_of_read? hread]
    exact ⟨_, hts _ (List.mem_singleton_self _), rfl⟩
  | string text => exact hts _ (by simp)
  | «variable» text => exact hts _ (by simp [Grammar.name])

/-- A parameter says what tokens of `ts` say, if `Grammar.Parameter` derives it from them. -/
theorem Grammar.Parameter.all {param : Param} (h : Grammar.Parameter ts param)
    (hts : ∀ t ∈ ts, P t) : P (.identifier, param.name) ∧ P (.identifier, param.type) := by
  cases h with
  | mk text type => exact ⟨hts _ (by simp [Grammar.name]), hts _ (by simp [Grammar.name])⟩

/-- What follows for an item from its tokens follows for every item of a list that `Grammar.Items`
derives. -/
theorem Grammar.Items.forall_mem {α : Type} {Item : List Content → α → Prop} {Q : α → Prop}
    (hitem : ∀ us a, Item us a → (∀ t ∈ us, P t) → Q a) {list : List α}
    (h : Grammar.Items Item ts list) (hts : ∀ t ∈ ts, P t) : ∀ a ∈ list, Q a := by
  induction h with
  | none => simp
  | last hlast => simpa using hitem _ _ hlast hts
  | more hfirst _ ih =>
    rw [List.forall_mem_append, List.forall_mem_cons] at hts
    rw [List.forall_mem_cons]
    exact ⟨hitem _ _ hfirst hts.1, ih hts.2.2⟩

mutual

/-- A statement is made of what its tokens say: `Stmt.All` with the property that they all have. -/
theorem Grammar.Statement.all {ts : List Content} : ∀ {statement : Stmt},
    Grammar.Statement ts statement → (∀ t ∈ ts, P t) →
    statement.All (fun name => P (.identifier, name)) (IsNumberOf P) (fun text => P (.string, text))
  | _, .constant text type hvalue, hts => by
    simp only [List.forall_mem_append, List.forall_mem_cons, Grammar.name] at hts
    obtain ⟨⟨⟨-, hname, -, htype, -⟩, hts⟩, -⟩ := hts
    exact ⟨hname, htype, hvalue.all hts⟩
  | _, .call callee hargs, hts => by
    simp only [List.forall_mem_append, List.forall_mem_cons, Grammar.name] at hts
    obtain ⟨⟨⟨hcallee, -⟩, hts⟩, -⟩ := hts
    exact ⟨hcallee, hargs.forall_mem (fun _ _ harg hus => harg.all hus) hts⟩
  | _, .function text result hparams hbody, hts => by
    simp only [List.forall_mem_append, List.forall_mem_cons, Grammar.name] at hts
    obtain ⟨⟨⟨⟨⟨-, hname, -⟩, hts⟩, -, -, hresult, -⟩, hus⟩, -⟩ := hts
    exact ⟨hname, hresult, hparams.forall_mem (fun _ _ hparam hus => hparam.all hus) hts,
      Grammar.Statements.all hbody hus⟩

/-- Statements are made of what their tokens say: `Stmt.AllList` with the property that they all
have. -/
theorem Grammar.Statements.all {ts : List Content} : ∀ {list : List Stmt},
    Grammar.Statements ts list → (∀ t ∈ ts, P t) →
    Stmt.AllList (fun name => P (.identifier, name)) (IsNumberOf P)
      (fun text => P (.string, text)) list
  | _, .nil, _ => trivial
  | _, .cons hfirst hothers, hts => by
    rw [List.forall_mem_append] at hts
    exact ⟨Grammar.Statement.all hfirst hts.1, Grammar.Statements.all hothers hts.2⟩

end

/-- A module that `Grammar.Program` derives is made of what its tokens say. -/
theorem Grammar.Program.all {program : Module} (h : Grammar.Program ts program)
    (hts : ∀ t ∈ ts, P t) : program.MadeOf P := by
  cases h with
  | mk text hlist =>
    simp only [List.forall_mem_append, List.forall_mem_cons, Grammar.name] at hts
    obtain ⟨⟨-, hname, -⟩, hts⟩ := hts
    exact ⟨hname, hlist.all hts⟩

/-! ### The tokens of a source -/

/-- A token of `tokensOf` a source is invalid, or it `IsWritten`. -/
theorem isWritten_of_mem_tokensOf {source : String} {t : Content}
    (h : t ∈ (tokensOf source).map content) : t.1 = .invalid ∨ IsWritten t := by
  obtain ⟨u, hu, rfl⟩ := List.mem_map.mp h
  obtain ⟨lexeme, hmeans⟩ := Cursor.exists_means_of_mem hu
  exact hmeans.isWritten

/-- A module that is `MadeOf` tokens that a source can give is `WellFormed`. -/
theorem Module.MadeOf.wellFormed {program : Module} (h : program.MadeOf P)
    (hP : ∀ t, P t → t.1 = .invalid ∨ IsWritten t) : program.WellFormed := by
  -- The kinds of the tokens are those of names, integers and strings, so none is invalid.
  refine h.mono (fun name hname => ?_) (fun n hn => ?_) (fun text htext => ?_)
  · exact isIdentifier_of_isWritten ((hP _ hname).resolve_left (by simp))
  · obtain ⟨digits, hdigits, rfl⟩ := hn
    have hrange := (isWritten_integer.mp ((hP _ hdigits).resolve_left (by simp))).2.2
    exact ⟨Int.natCast_nonneg _, Int.ofNat_le.mpr hrange⟩
  · exact (hP _ htext).resolve_left (by simp)

/-- A tree that `Module.parse` gives is `MadeOf` the tokens of its source. -/
theorem Module.madeOf_of_parse {file source : String} {program : Module}
    (h : Module.parse file source = .ok program) :
    program.MadeOf (· ∈ (tokensOf source).map content) :=
  (Module.program_of_parse h).all fun _ ht => ht

/-- A tree that `Module.parse` gives is `WellFormed`. -/
theorem Module.wellFormed_of_parse {file source : String} {program : Module}
    (h : Module.parse file source = .ok program) : program.WellFormed :=
  (Module.madeOf_of_parse h).wellFormed fun _ => isWritten_of_mem_tokensOf

/-- Every tree that `Module.parse` gives has what writing it needs, and nothing is made up. It is
`WellFormed`: at every depth names are identifiers, numbers fit into 63 bits and strings hold no
quotation mark. And it is `MadeOf` the tokens of the source: each of these is the name, the value or
the contents of one of them. -/
theorem parse_madeOfTokens {file source : String} {program : Module}
    (h : Module.parse file source = .ok program) :
    program.WellFormed ∧ program.MadeOf (· ∈ (tokensOf source).map content) :=
  ⟨Module.wellFormed_of_parse h, Module.madeOf_of_parse h⟩

/-- A function inside another, with a parameter, a zero before a number and a string. -/
theorem parse_madeOfTokens_nested :
    Module.parse "m" "module a; fn f(): t \x7b fn g(x: u,): t \x7b h(07, \"b\", x); \x7d \x7d" =
        .ok ⟨"a", [.function "f" "t" [] [.function "g" "t" [⟨"x", "u"⟩]
          [.call "h" [.integer 7, .string "b", .variable "x"]]]]⟩
      ∧ Module.WellFormed ⟨"a", [.function "f" "t" [] [.function "g" "t" [⟨"x", "u"⟩]
          [.call "h" [.integer 7, .string "b", .variable "x"]]]]⟩
      ∧ Module.MadeOf (· ∈ (tokensOf
            "module a; fn f(): t \x7b fn g(x: u,): t \x7b h(07, \"b\", x); \x7d \x7d").map content)
          ⟨"a", [.function "f" "t" [] [.function "g" "t" [⟨"x", "u"⟩]
            [.call "h" [.integer 7, .string "b", .variable "x"]]]]⟩ := by
  have hargs : Grammar.Items Grammar.Value _ [.integer 7, .string "b", .variable "x"] :=
    .more (@Grammar.Value.integer "07" 7 (by decide)) (.more (.string "b") (.last (.variable "x")))
  have hinner : Grammar.Statement _ (.function "g" "t" [⟨"x", "u"⟩] [.call "h" _]) :=
    .function "g" "t" (.more (.mk "x" "u") .none) (.cons (.call "h" hargs) .nil)
  have houter : Grammar.Program _ ⟨"a", [.function "f" "t" [] [_]]⟩ :=
    .mk "a" (.cons (.function "f" "t" .none (.cons hinner .nil)) .nil)
  have hparse := @Module.parse_of_program
    "module a; fn f(): t \x7b fn g(x: u,): t \x7b h(07, \"b\", x); \x7d \x7d" _
    (by cbv; exact houter) "m"
  exact ⟨hparse, parse_madeOfTokens hparse⟩

end Modlet
