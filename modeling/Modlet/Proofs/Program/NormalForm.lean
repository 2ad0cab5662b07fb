import Modlet.Program.Tokens
import Modlet.Proofs.Program.AnyLayout
import Modlet.Proofs.Program.EarliestFault
import Modlet.Proofs.Program.Origin
import Modlet.Token.Normal

/-!
# Trees and normal forms

Sources that are read as one tree have tokens with one normal form, and the normal form tells the
tree. So reading a source loses its gaps, the commas behind the last items of its lists, the zeros
before its integers, and nothing else.

* `Token.BecomesNormal`: what stands in a normal form for some tokens, whatever is behind them.
* `Grammar.Program.normalForm_eq`: the normal form of tokens that spell a tree is told by the tree.
* `Module.tokens_injective`: well-formed trees with the same tokens are the same.
* `parse_eq_iff_normalForm`: two trees that are read are the same exactly if the normal forms are.
-/

namespace Modlet

open Token

/-! ### Normal forms piece by piece -/

namespace Token

/-- In every `normalForm` the tokens `us` stand for `ts`, whatever is behind them. -/
def BecomesNormal (ts us : List Content) : Prop :=
  ∀ rest, normalForm (ts ++ rest) = us ++ normalForm rest

/-- Whether a token stands in every `normalForm` as it is. -/
def isNormal (t : Content) : Bool := t.1 ≠ .comma && t.1 ≠ .integer

/-- Only integers have zeros to lose in `canonical`. -/
theorem canonical_eq_self {t : Content} (h : t.1 ≠ .integer) : canonical t = t := by
  obtain ⟨kind, text⟩ := t
  cases kind <;> first | rfl | exact absurd rfl h

namespace BecomesNormal

variable {ts us vs ws : List Content}

/-- Pieces become normal one after the other, so `BecomesNormal` is shown of each part. -/
theorem append (h : BecomesNormal ts us) (h' : BecomesNormal vs ws) :
    BecomesNormal (ts ++ vs) (us ++ ws) := by
  intro rest
  rw [List.append_assoc, h, h', List.append_assoc]

/-- Only commas are deleted: any other token becomes its `canonical` form. -/
theorem single {t : Content} (ht : t.1 ≠ .comma) : BecomesNormal [t] [canonical t] := by
  intro rest
  rw [List.singleton_append, normalForm, if_neg fun h => ht h.1, List.singleton_append]

/-- Tokens that are neither commas nor integers stay as they are, by `isNormal`. -/
theorem self (h : ts.all isNormal = true) : BecomesNormal ts ts := by
  induction ts with
  | nil => exact fun rest => rfl
  | cons t ts ih =>
    rw [List.all_cons, Bool.and_eq_true] at h
    obtain ⟨ht, hts⟩ := h
    simp only [isNormal, Bool.and_eq_true, decide_eq_true_eq] at ht
    have hfirst := single ht.1
    rw [canonical_eq_self ht.2] at hfirst
    exact hfirst.append (ih hts)

end BecomesNormal

/-- Where no closing parenthesis stands behind it, a comma is kept. -/
theorem normalForm_comma {ts : List Content} (h : startsWithClosing ts = false) :
    normalForm (Kind.comma.fixed :: ts) = Kind.comma.fixed :: normalForm ts := by
  rw [normalForm, if_neg (by simp [h])]
  rfl

/-- A comma directly before a closing parenthesis is deleted. -/
theorem normalForm_lastComma {ts : List Content} (h : startsWithClosing ts = true) :
    normalForm (Kind.comma.fixed :: ts) = normalForm ts := by
  rw [normalForm, if_pos ⟨rfl, h⟩]

end Token

/-! ### Normal forms of programs -/

variable {ts : List Content}

/-- The tokens of a `Grammar.Value` become those of `Expr.tokens`. -/
theorem Grammar.Value.becomesNormal {value : Expr} (h : Grammar.Value ts value) :
    BecomesNormal ts value.tokens := by
  cases h with
  | integer hread =>
    rw [Numeral.eq_value_of_read? hread]
    exact .single (by simp)
  | string text => exact .single (by simp)
  | «variable» text => exact .single (by simp [Grammar.name])

/-- The tokens of a `Grammar.Parameter` become those of `Param.tokens`. -/
theorem Grammar.Parameter.becomesNormal {param : Param} (h : Grammar.Parameter ts param) :
    BecomesNormal ts param.tokens := by
  cases h with
  | mk text type => exact .self rfl

/-- A list of `Grammar.Items` has one normal form with the parenthesis that closes it, if every item
has one and can be told from the end of the list. -/
theorem Grammar.Items.becomesNormal {α : Type} {Item : List Content → α → Prop}
    {tokens : α → List Content} (hitem : ∀ us a, Item us a → BecomesNormal us (tokens a))
    (hbegin : ∀ us a, Item us a → ∀ rest, startsWithClosing (us ++ rest) = false)
    {list : List α} (h : Grammar.Items Item ts list) :
    BecomesNormal (ts ++ [Kind.rightParen.fixed])
      ([Kind.comma.fixed].intercalate (list.map tokens) ++ [Kind.rightParen.fixed]) := by
  have hclose : BecomesNormal [Kind.rightParen.fixed] [Kind.rightParen.fixed] :=
    .self rfl
  induction h with
  | none => exact hclose
  | last hlast => simpa using (hitem _ _ hlast).append hclose
  | @more ts us a list hfirst hothers ih =>
    intro rest
    have hrest := ih rest
    rw [List.append_assoc] at hrest
    rw [List.append_assoc, List.append_assoc, hitem _ _ hfirst, List.cons_append]
    -- Whether the comma is deleted depends on whether items stand behind it.
    cases hothers with
    | none =>
      rw [normalForm_lastComma rfl, hrest]
      simp
    | last hnext =>
      rw [normalForm_comma (hbegin _ _ hnext _), hrest]
      simp
    | more hnext _ =>
      rw [List.append_assoc] at hrest ⊢
      rw [normalForm_comma (hbegin _ _ hnext _), hrest]
      simp

/-- Parameters with the parenthesis behind them become those of `Param.tokens` with commas between
them. -/
theorem becomesNormal_parameters {params : List Param}
    (h : Grammar.Items Grammar.Parameter ts params) :
    BecomesNormal (ts ++ [Kind.rightParen.fixed])
      ([Kind.comma.fixed].intercalate (params.map Param.tokens) ++ [Kind.rightParen.fixed]) := by
  refine h.becomesNormal (fun _ _ hparam => hparam.becomesNormal) ?_
  intro us param hparam rest
  cases hparam
  rfl

/-- Arguments with the parenthesis behind them become those of `Expr.tokens` with commas between
them. -/
theorem becomesNormal_arguments {args : List Expr} (h : Grammar.Items Grammar.Value ts args) :
    BecomesNormal (ts ++ [Kind.rightParen.fixed])
      ([Kind.comma.fixed].intercalate (args.map Expr.tokens) ++ [Kind.rightParen.fixed]) := by
  refine h.becomesNormal (fun _ _ harg => harg.becomesNormal) ?_
  intro us arg harg rest
  cases harg <;> rfl

mutual

/-- The tokens of a `Grammar.Statement` become those of `Stmt.tokens`. -/
theorem Grammar.Statement.becomesNormal {ts : List Content} : ∀ {statement : Stmt},
    Grammar.Statement ts statement → BecomesNormal ts statement.tokens
  | _, .constant text type hvalue => by
    have hbegin : BecomesNormal [(Kind.keyword .let).fixed, Grammar.name text, Kind.colon.fixed,
        Grammar.name type, Kind.assign.fixed] _ :=
      .self rfl
    exact (hbegin.append hvalue.becomesNormal).append (.self rfl)
  | _, .call callee hargs => by
    have hbegin : BecomesNormal [Grammar.name callee, Kind.leftParen.fixed] _ :=
      .self rfl
    have hend : BecomesNormal [Kind.semicolon.fixed] _ := .self rfl
    simpa [Stmt.tokens] using! (hbegin.append (becomesNormal_arguments hargs)).append hend
  | _, .function text result hparams hbody => by
    have hbegin : BecomesNormal
        [(Kind.keyword .fn).fixed, Grammar.name text, Kind.leftParen.fixed] _ :=
      .self rfl
    have hresult : BecomesNormal [Kind.colon.fixed, Grammar.name result, Kind.leftBrace.fixed] _ :=
      .self rfl
    have hend : BecomesNormal [Kind.rightBrace.fixed] _ := .self rfl
    -- The parenthesis belongs to the parameters, as a comma before it is deleted.
    have hheader := (hbegin.append (becomesNormal_parameters hparams)).append hresult
    simpa [Stmt.tokens] using!
      (hheader.append (Grammar.Statements.becomesNormal hbody)).append hend

/-- The tokens of `Grammar.Statements` become those of `Stmt.tokensList`. -/
theorem Grammar.Statements.becomesNormal {ts : List Content} : ∀ {list : List Stmt},
    Grammar.Statements ts list → BecomesNormal ts (Stmt.tokensList list)
  | _, .nil => fun _ => rfl
  | _, .cons hfirst hothers =>
    (Grammar.Statement.becomesNormal hfirst).append (Grammar.Statements.becomesNormal hothers)

end

/-- The `normalForm` of the tokens that spell a module is told by the module: it is
`Module.tokens`. -/
theorem Grammar.Program.normalForm_eq {program : Module} (h : Grammar.Program ts program) :
    normalForm ts = program.tokens := by
  cases h with
  | mk text hlist =>
    have hbegin : BecomesNormal [(Kind.keyword .module).fixed, Grammar.name text,
        Kind.semicolon.fixed] _ := .self rfl
    have hwhole := hbegin.append hlist.becomesNormal []
    rw [List.append_nil] at hwhole
    rw [hwhole]
    simp [Module.tokens, normalForm]

/-! ### Trees from their tokens -/

/-- A value `Prints` its `Expr.tokens`, with no zeros before them. -/
theorem Expr.prints_tokens (value : Expr) : value.Prints value.tokens := by
  cases value with
  | integer n => exact ⟨0, by simp [Expr.tokens]⟩
  | string text => rfl
  | «variable» name => rfl

/-- A parameter `Prints` its `Param.tokens`. -/
theorem Param.prints_tokens (param : Param) : param.Prints param.tokens := rfl

/-- Items are printed as their tokens with no comma behind the last, if each of them is
(`PrintsItems`). -/
theorem printsItems_tokens {α : Type} {Prints : α → List Content → Prop}
    {tokens : α → List Content} (h : ∀ a, Prints a (tokens a)) (list : List α) :
    PrintsItems Prints list ([Kind.comma.fixed].intercalate (list.map tokens)) :=
  ⟨list.map tokens, by simp [List.forall₂_map_right_iff, List.forall₂_same, h], .inl rfl⟩

mutual

/-- A statement `Prints` its `Stmt.tokens`. -/
theorem Stmt.prints_tokens : (statement : Stmt) → statement.Prints statement.tokens
  | .constant _ _ value => ⟨_, value.prints_tokens, rfl⟩
  | .function _ _ params body =>
    ⟨_, _, printsItems_tokens Param.prints_tokens params, Stmt.printsAll_tokens body, rfl⟩
  | .call _ args => ⟨_, printsItems_tokens Expr.prints_tokens args, rfl⟩

/-- Statements are printed as their `Stmt.tokensList` (`PrintsAll`). -/
theorem Stmt.printsAll_tokens : (list : List Stmt) → Stmt.PrintsAll list (Stmt.tokensList list)
  | [] => rfl
  | statement :: others =>
    ⟨_, _, Stmt.prints_tokens statement, Stmt.printsAll_tokens others, rfl⟩

end

/-- A module that is `WellFormed` is spelled by its `Module.tokens`. -/
theorem Module.program_tokens {program : Module} (h : program.WellFormed) :
    Grammar.Program program.tokens program :=
  Module.Prints.grammar ⟨_, Stmt.printsAll_tokens _, rfl⟩ h

/-- A module that is `WellFormed` is read back from its tokens, each on one of the `lines`. -/
theorem Module.parse_lines_tokens {program : Module} (h : program.WellFormed) (file : String) :
    Module.parse file (String.ofList (lines program.tokens)) = .ok program := by
  have hprogram := Module.program_tokens h
  refine Module.parse_of_program ?_ file
  rwa [tokensOf_ofList, contents_tokens_lines (hprogram.isTidy h).written]

/-- Well-formed modules with the same `Module.tokens` are the same, because both are read back from
them. -/
theorem Module.tokens_injective {a b : Module} (ha : a.WellFormed) (hb : b.WellFormed)
    (h : a.tokens = b.tokens) : a = b := by
  -- Both modules are read back from the same text.
  have hread := Module.parse_lines_tokens ha ""
  rw [h, Module.parse_lines_tokens hb ""] at hread
  exact (Except.ok.inj hread).symm

/-- Reading loses nothing but gaps, commas behind last items of lists, and zeros before integers.
Two sources that `Module.parse` accepts have one tree exactly if their tokens have one
`normalForm`. -/
theorem parse_eq_iff_normalForm {file file' source source' : String} {a b : Module}
    (ha : Module.parse file source = .ok a) (hb : Module.parse file' source' = .ok b) :
    a = b ↔
      normalForm ((tokensOf source).map content) = normalForm ((tokensOf source').map content) := by
  rw [(Module.program_of_parse ha).normalForm_eq, (Module.program_of_parse hb).normalForm_eq]
  exact ⟨congrArg Module.tokens,
    Module.tokens_injective (Module.wellFormed_of_parse ha) (Module.wellFormed_of_parse hb)⟩

/-- A comma behind the last argument and zeros before an integer make no difference. -/
theorem parse_eq_iff_normalForm_commas :
    Module.parse "m" "module a; g(007, x,);" =
        .ok ⟨"a", [.call "g" [.integer 7, .variable "x"]]⟩
      ∧ Module.parse "m" "module a;\ng(7, x); // last" =
        .ok ⟨"a", [.call "g" [.integer 7, .variable "x"]]⟩
      ∧ ((⟨"a", [.call "g" [.integer 7, .variable "x"]]⟩ : Module) =
          ⟨"a", [.call "g" [.integer 7, .variable "x"]]⟩ ↔
        normalForm ((tokensOf "module a; g(007, x,);").map content) =
          normalForm ((tokensOf "module a;\ng(7, x); // last").map content)) := by
  have hlong : Module.parse "m" "module a; g(007, x,);" =
      .ok ⟨"a", [.call "g" [.integer 7, .variable "x"]]⟩ := by cbv
  have hshort : Module.parse "m" "module a;\ng(7, x); // last" =
      .ok ⟨"a", [.call "g" [.integer 7, .variable "x"]]⟩ := by cbv
  exact ⟨hlong, hshort, parse_eq_iff_normalForm hlong hshort⟩

end Modlet
