import Modlet.Program.WellFormed
import Modlet.Proofs.Program.Acceptance

/-!
# Programs are read back from every layout

A tree can be written in many ways: integers with zeros before their digits, lists with a comma
behind the last item, and gaps between the tokens as one likes, as long as words are kept apart.
Reading undoes all of this.

* `Module.Prints`: the tokens with which a module can be written.
* `Module.Prints.grammar`: the grammar derives the module from these tokens.
* `IsTidy`: tokens of which only words run together, as those of programs are.
* `parse_of_prints`: a well-formed module is read back from every text that spells its tokens.
-/

namespace Modlet

open Token

/-! ### Writing programs -/

/-- The tokens of a value. An integer is written with any number of zeros before its digits. -/
def Expr.Prints : Expr → List Content → Prop
  | .integer n, ts =>
    ∃ zeros, ts = [(.integer, String.ofList (List.replicate zeros '0') ++ Numeral.ofInt n)]
  | .string text, ts => ts = [(.string, text)]
  | .variable name, ts => ts = [Grammar.name name]

/-- The tokens of a parameter. -/
def Param.Prints (param : Param) (ts : List Content) : Prop :=
  ts = [Grammar.name param.name, Kind.colon.fixed, Grammar.name param.type]

/-- The tokens of items in the sense of `Prints`, with commas between them. Where there are items,
one more comma may stand behind the last. -/
def PrintsItems {α : Type} (Prints : α → List Content → Prop) (list : List α)
    (ts : List Content) : Prop :=
  ∃ groups, List.Forall₂ Prints list groups
    ∧ (ts = [Kind.comma.fixed].intercalate groups
      ∨ (list ≠ [] ∧ ts = [Kind.comma.fixed].intercalate groups ++ [Kind.comma.fixed]))

mutual

/-- The tokens of a statement, which `Expr.Prints` and `PrintsItems` leave some choice. -/
def Stmt.Prints : Stmt → List Content → Prop
  | .constant name type value, ts =>
    ∃ us, value.Prints us
      ∧ ts = [(Kind.keyword .let).fixed, Grammar.name name, Kind.colon.fixed, Grammar.name type,
          Kind.assign.fixed] ++ us ++ [Kind.semicolon.fixed]
  | .function name result params body, ts =>
    ∃ us vs, PrintsItems Param.Prints params us ∧ Stmt.PrintsAll body vs
      ∧ ts = [(Kind.keyword .fn).fixed, Grammar.name name, Kind.leftParen.fixed] ++ us
          ++ [Kind.rightParen.fixed, Kind.colon.fixed, Grammar.name result, Kind.leftBrace.fixed]
          ++ vs ++ [Kind.rightBrace.fixed]
  | .call callee args, ts =>
    ∃ us, PrintsItems Expr.Prints args us
      ∧ ts = [Grammar.name callee, Kind.leftParen.fixed] ++ us
          ++ [Kind.rightParen.fixed, Kind.semicolon.fixed]

/-- The tokens of statements in order. -/
def Stmt.PrintsAll : List Stmt → List Content → Prop
  | [], ts => ts = []
  | statement :: others, ts =>
    ∃ us vs, Stmt.Prints statement us ∧ Stmt.PrintsAll others vs ∧ ts = us ++ vs

end

/-- The tokens of a module. -/
def Module.Prints (program : Module) (ts : List Content) : Prop :=
  ∃ us, Stmt.PrintsAll program.statements us
    ∧ ts = [(Kind.keyword .module).fixed, Grammar.name program.name, Kind.semicolon.fixed] ++ us

/-- Words are kept apart: between two tokens that are `Kind.isWordLike` stands a gap. -/
def WordsApart (left : Content) (gap : List Char) (right : Content) : Prop :=
  left.1.isWordLike = true → right.1.isWordLike = true → gap ≠ []

instance (left : Content) (gap : List Char) (right : Content) :
    Decidable (WordsApart left gap right) := by
  unfold WordsApart
  infer_instance

/-! ### The grammar of what is written -/

/-- A numeral has the value of its digits, whatever zeros stand before them: `read?` takes them
all. -/
theorem Numeral.read?_zeros {n : Nat} (h : n ≤ greatest) (zeros : Nat) :
    read? (List.replicate zeros '0' ++ Nat.toDigits 10 n) = some n := by
  have hne : List.replicate zeros '0' ++ Nat.toDigits 10 n ≠ [] := by
    simp [Nat.toDigits_ne_nil]
  have hdigits : (List.replicate zeros '0' ++ Nat.toDigits 10 n).all Char.isDigit = true := by
    rw [List.all_eq_true]
    intro c hc
    rcases List.mem_append.mp hc with hzero | hdigit
    · rw [List.eq_of_mem_replicate hzero]
      decide
    · exact Nat.isDigit_of_mem_toDigits (by decide) (by decide) hdigit
  -- Leading zeros add nothing to the value.
  have hvalue : value (List.replicate zeros '0' ++ Nat.toDigits 10 n) = n := by
    rw [value, Nat.ofDigitChars_append, Nat.ofDigitChars_replicate_zero, Nat.mul_zero]
    exact value_toDigits n
  rw [read?_of_digits hne hdigits, hvalue, if_pos h]

variable {ts us vs : List Content} {Name Contents : String → Prop}
  {Number : Int → Prop}

/-- A value in range is derived by `Grammar.Value` from every choice of its tokens. -/
theorem Expr.Prints.grammar {value : Expr} (h : value.Prints ts)
    (hall : value.All Name (fun n => 0 ≤ n ∧ n ≤ Numeral.greatest) Contents) :
    Grammar.Value ts value := by
  cases value with
  | integer n =>
    obtain ⟨zeros, rfl⟩ := h
    -- The number is not negative, so its numeral is digits alone.
    obtain ⟨n, rfl⟩ := Int.eq_ofNat_of_zero_le hall.1
    have hdigits : (Numeral.ofInt n).toList = Nat.toDigits 10 n := Nat.toList_repr
    refine .integer ?_
    rw [String.toList_append, String.toList_ofList, hdigits]
    exact Numeral.read?_zeros (Int.ofNat_le.mp hall.2) zeros
  | string text =>
    obtain rfl := h
    exact .string text
  | «variable» name =>
    obtain rfl := h
    exact .variable name

/-- Items are derived by `Grammar.Items` from their tokens if each of them is. -/
theorem PrintsItems.grammar {α : Type} {Prints : α → List Content → Prop}
    {Item : List Content → α → Prop} {list : List α} (h : PrintsItems Prints list ts)
    (hitem : ∀ a ∈ list, ∀ us, Prints a us → Item us a) : Grammar.Items Item ts list := by
  obtain ⟨groups, hgroups, hts⟩ := h
  induction hgroups generalizing ts with
  | nil =>
    rcases hts with rfl | ⟨hne, -⟩
    · exact .none
    · exact absurd rfl hne
  | @cons a group list groups hgroup hgroups ih =>
    -- Behind the last item the comma is the end of the list, behind others it is passed on.
    rw [List.forall_mem_cons] at hitem
    cases hgroups with
    | nil =>
      rcases hts with rfl | ⟨-, rfl⟩
      · simpa using Grammar.Items.last (hitem.1 _ hgroup)
      · simpa using Grammar.Items.more (hitem.1 _ hgroup) .none
    | @cons b next rest others hnext hrest =>
      rcases hts with rfl | ⟨-, rfl⟩
      · rw [List.intercalate_cons_cons, List.append_assoc]
        exact .more (hitem.1 _ hgroup) (ih hitem.2 (.inl rfl))
      · rw [List.intercalate_cons_cons, List.append_assoc, List.append_assoc]
        exact .more (hitem.1 _ hgroup) (ih hitem.2 (.inr ⟨List.cons_ne_nil _ _, rfl⟩))

mutual

/-- A statement with integers in range is derived by `Grammar.Statement` from every choice of its
tokens. -/
theorem Stmt.Prints.grammar {ts : List Content} : ∀ {statement : Stmt}, statement.Prints ts →
    statement.All Name (fun n => 0 ≤ n ∧ n ≤ Numeral.greatest) Contents →
    Grammar.Statement ts statement
  | .constant name type value, ⟨us, hvalue, hts⟩, ⟨_, _, hall⟩ => by
    rw [hts]
    exact .constant name type (hvalue.grammar hall)
  | .function name result params body, ⟨us, vs, hparams, hbody, hts⟩, ⟨_, _, _, hall⟩ => by
    rw [hts]
    refine .function name result (hparams.grammar ?_) (Stmt.PrintsAll.grammar hbody hall)
    rintro ⟨text, type⟩ - us rfl
    exact .mk text type
  | .call callee args, ⟨us, hargs, hts⟩, ⟨_, hall⟩ => by
    rw [hts]
    exact .call callee (hargs.grammar fun arg harg us hus => hus.grammar (hall arg harg))

/-- Statements with integers in range are derived by `Grammar.Statements` from every choice of their
tokens. -/
theorem Stmt.PrintsAll.grammar {ts : List Content} : ∀ {list : List Stmt}, Stmt.PrintsAll list ts →
    Stmt.AllList Name (fun n => 0 ≤ n ∧ n ≤ Numeral.greatest) Contents list →
    Grammar.Statements ts list
  | [], hts, _ => by
    rw [show ts = [] from hts]
    exact .nil
  | statement :: others, ⟨us, vs, hfirst, hothers, hts⟩, ⟨hall, hrest⟩ => by
    rw [hts]
    exact .cons (Stmt.Prints.grammar hfirst hall) (Stmt.PrintsAll.grammar hothers hrest)

end

/-- A module with integers in range is derived by `Grammar.Program` from every choice of its
tokens. -/
theorem Module.Prints.grammar {program : Module} (h : program.Prints ts)
    (hall : program.All Name (fun n => 0 ≤ n ∧ n ≤ Numeral.greatest) Contents) :
    Grammar.Program ts program := by
  obtain ⟨us, hlist, rfl⟩ := h
  exact .mk program.name (hlist.grammar hall.2)

/-! ### Tokens that need only words kept apart -/

/-- Whether `right` behind `left` runs together with it only as words do: before an integer stands
neither a word nor an integer. -/
def Neighbours (left right : Content) : Prop :=
  right.1 = .integer → left.1.isWordLike = false ∧ left.1 ≠ .integer

/-- Tokens that can be written, of which only words run together. For them `WordsApart` is enough to
keep them `Apart`. -/
structure IsTidy (ts : List Content) : Prop where
  /-- Every token can be written. -/
  written : ∀ t ∈ ts, IsWritten t
  /-- The marks that can go on are not among them. -/
  plain : ∀ t ∈ ts, t.1 ≠ .greater ∧ t.1 ≠ .divide
  /-- No integer goes on a word or an integer. -/
  neighbours : ts.IsChain Neighbours

/-- The marks of the grammar. -/
def Token.Kind.isMark : Kind → Bool
  | .leftParen | .rightParen | .leftBrace | .rightBrace | .colon | .comma | .semicolon | .assign =>
    true
  | _ => false

namespace IsTidy

theorem nil : IsTidy [] := ⟨by simp, by simp, .nil⟩

/-- A single token that `IsWritten` is tidy, unless it is a mark that can go on. -/
theorem single {t : Content} (h : IsWritten t) (hplain : t.1 ≠ .greater ∧ t.1 ≠ .divide) :
    IsTidy [t] :=
  ⟨by simpa using h, by simpa using hplain, .singleton t⟩

/-- Tidy tokens without the first one are tidy. -/
theorem tail {t : Content} (h : IsTidy (t :: ts)) : IsTidy ts :=
  ⟨(List.forall_mem_cons.mp h.written).2, (List.forall_mem_cons.mp h.plain).2,
    h.neighbours.of_cons⟩

/-- On both sides of a mark tokens are tidy by themselves, so `IsTidy` is shown of each part. -/
theorem join (hus : IsTidy us) (kind : Kind) (hkind : kind.isMark = true) (hvs : IsTidy vs) :
    IsTidy (us ++ kind.fixed :: vs) := by
  have hfixed : kind.isFixed = true := by cases kind <;> first | rfl | cases hkind
  -- What a mark of the grammar is not, case by case.
  have hplain : kind ≠ .greater ∧ kind ≠ .divide := by constructor <;> (rintro rfl; cases hkind)
  have hinteger : kind ≠ .integer := by rintro rfl; cases hkind
  have hword : kind.isWordLike = false := by cases kind <;> first | rfl | cases hkind
  refine ⟨?_, ?_, ?_⟩
  · rw [List.forall_mem_append, List.forall_mem_cons]
    exact ⟨hus.written, isWritten_fixed hfixed, hvs.written⟩
  · rw [List.forall_mem_append, List.forall_mem_cons]
    exact ⟨hus.plain, hplain, hvs.plain⟩
  · -- A mark is no word and no integer, and it runs together with neither.
    refine hus.neighbours.append (List.isChain_cons.mpr ⟨fun t _ _ => ⟨hword, hinteger⟩,
      hvs.neighbours⟩) ?_
    rintro t - u hu hinteger'
    cases hu
    exact absurd hinteger' hinteger

/-- A word may stand before everything but an integer. -/
theorem word {t u : Content} (hword : t.1.isWordLike = true) (ht : IsWritten t)
    (hu : u.1 ≠ .integer) (h : IsTidy (u :: us)) : IsTidy (t :: u :: us) := by
  have hplain : t.1 ≠ .greater ∧ t.1 ≠ .divide := by
    constructor <;> (intro hkind; rw [hkind] at hword; cases hword)
  refine ⟨?_, ?_, .cons_cons (fun hinteger => absurd hinteger hu) h.neighbours⟩
  · rw [List.forall_mem_cons]
    exact ⟨ht, h.written⟩
  · rw [List.forall_mem_cons]
    exact ⟨hplain, h.plain⟩

end IsTidy

/-- A name that `IsIdentifier` is tidy. -/
theorem IsTidy.name {text : String} (h : IsIdentifier text) : IsTidy [Grammar.name text] :=
  .single h.isWritten (by simp [Grammar.name])

/-- A name may stand behind a keyword. -/
theorem IsTidy.keyword {text : String} (word : Keyword) (h : IsIdentifier text) :
    IsTidy [(Kind.keyword word).fixed, Grammar.name text] :=
  .word rfl (isWritten_fixed rfl) (by simp [Grammar.name]) (.name h)

/-- The token of a well-formed `Grammar.Value` is tidy. -/
theorem Grammar.Value.isTidy {value : Expr} (h : Grammar.Value ts value)
    (hall : value.All IsIdentifier Number (fun text => '"' ∉ text.toList)) : IsTidy ts := by
  cases h with
  | integer hread => exact .single (by simp [IsWritten, hread]) (by simp)
  | string text => exact .single hall (by simp)
  | «variable» text => exact .name hall

/-- The tokens of a well-formed `Grammar.Parameter` are tidy. -/
theorem Grammar.Parameter.isTidy {param : Param} (h : Grammar.Parameter ts param)
    (hall : IsIdentifier param.name ∧ IsIdentifier param.type) : IsTidy ts := by
  cases h with
  | mk text type => exact (IsTidy.name hall.1).join .colon rfl (.name hall.2)

/-- The tokens of `Grammar.Items` are tidy if those of each item are. -/
theorem Grammar.Items.isTidy {α : Type} {Item : List Content → α → Prop} {list : List α}
    (h : Grammar.Items Item ts list) (hitem : ∀ a ∈ list, ∀ us, Item us a → IsTidy us) :
    IsTidy ts := by
  induction h with
  | none => exact .nil
  | last hlast => exact hitem _ (by simp) _ hlast
  | more hfirst _ ih =>
    rw [List.forall_mem_cons] at hitem
    exact (hitem.1 _ hfirst).join .comma rfl (ih hitem.2)

mutual

/-- The tokens of a well-formed `Grammar.Statement` are tidy before all tokens that are tidy. -/
theorem Grammar.Statement.isTidy {ts vs : List Content} (hvs : IsTidy vs) : ∀ {statement : Stmt},
    Grammar.Statement ts statement →
    statement.All IsIdentifier Number (fun text => '"' ∉ text.toList) → IsTidy (ts ++ vs)
  -- Each statement is put together from behind, one mark after the other.
  | _, .constant text type hvalue, ⟨hname, htype, hall⟩ => by
    have hbehind := (hvalue.isTidy hall).join .semicolon rfl hvs
    have htidy := (IsTidy.keyword .let hname).join .colon rfl
      ((IsTidy.name htype).join .assign rfl hbehind)
    simpa using htidy
  | _, .call callee hargs, ⟨hname, hall⟩ => by
    have hbehind := (hargs.isTidy fun arg harg us hus => hus.isTidy (hall arg harg)).join
      .rightParen rfl (IsTidy.nil.join .semicolon rfl hvs)
    have htidy := (IsTidy.name hname).join .leftParen rfl hbehind
    simpa using htidy
  | _, .function text result hparams hbody, ⟨hname, hresult, hparam, hall⟩ => by
    have hclose := IsTidy.nil.join .rightBrace rfl hvs
    have hopen := (IsTidy.name hresult).join .leftBrace rfl
      (Grammar.Statements.isTidy hclose hbody hall)
    have hbehind := (hparams.isTidy fun param hmem us hus => hus.isTidy (hparam param hmem)).join
      .rightParen rfl (IsTidy.nil.join .colon rfl hopen)
    have htidy := (IsTidy.keyword .fn hname).join .leftParen rfl hbehind
    simpa using htidy

/-- The tokens of well-formed `Grammar.Statements` are tidy before all tokens that are tidy. -/
theorem Grammar.Statements.isTidy {ts vs : List Content} (hvs : IsTidy vs) : ∀ {list : List Stmt},
    Grammar.Statements ts list →
    Stmt.AllList IsIdentifier Number (fun text => '"' ∉ text.toList) list → IsTidy (ts ++ vs)
  | _, .nil, _ => hvs
  | _, .cons hfirst hothers, ⟨hall, hrest⟩ => by
    rw [List.append_assoc]
    exact Grammar.Statement.isTidy (Grammar.Statements.isTidy hvs hothers hrest) hfirst hall

end

/-- The tokens of a well-formed `Grammar.Program` are tidy. -/
theorem Grammar.Program.isTidy {program : Module} (h : Grammar.Program ts program)
    (hall : program.WellFormed) : IsTidy ts := by
  cases h with
  | mk text hlist =>
    have hbody := hlist.isTidy .nil hall.2
    rw [List.append_nil] at hbody
    exact (IsTidy.keyword .module hall.1).join .semicolon rfl hbody

/-! ### Reading what is written -/

/-- A gap that is `WordsApart` keeps tidy neighbours `Apart`. -/
theorem apart_of_wordsApart {left right : Content} {gap : List Char} (h : WordsApart left gap right)
    (hneighbours : Neighbours left right) (hplain : left.1 ≠ .greater ∧ left.1 ≠ .divide) :
    Apart left gap right := by
  refine ⟨?_, fun hslash => absurd hslash hplain.2⟩
  -- Of the tokens that run together, only two words occur next to each other.
  rintro (⟨hleft, hright | hright⟩ | ⟨hleft, hright⟩ | ⟨hleft, -⟩)
  · exact h hleft hright
  · exact absurd hleft (by simp [(hneighbours hright).1])
  · exact absurd hleft (hneighbours hright).2
  · exact absurd hleft hplain.1

/-- Texts in which `WordsApart` holds between tidy tokens keep them `Apart`. -/
theorem IsTidy.spellsFrom {text : List Char} (hts : IsTidy ts) (h : SpellsFrom WordsApart ts text) :
    SpellsFrom Apart ts text := by
  induction h with
  | one t hgap => exact .one t hgap
  | @cons gap text t u ts hgap hapart _ ih =>
    have hneighbours := (List.isChain_cons_cons.mp hts.neighbours).1
    have hseparate := apart_of_wordsApart hapart hneighbours (hts.plain t (by simp))
    exact .cons hgap hseparate (ih hts.tail)

/-- Tokens that `IsTidy` holds of are read back from every text that `Spells` them. -/
theorem IsTidy.contents_tokens {text : List Char} (hts : IsTidy ts) (h : Spells WordsApart ts text)
    (pos : Position) : (Cursor.tokens ⟨text, pos⟩).map content = ts := by
  have hspells : Spells Apart ts text := by
    cases h with
    | none hgap => exact .none hgap
    | some hgap hfrom => exact .some hgap (hts.spellsFrom hfrom)
  exact hspells.contents_tokens hts.written
    (fun t ht => (hts.plain t (List.mem_of_getLast? ht)).2) pos

/-- Parsing undoes printing, for any layout. A module that is `WellFormed` is what `Module.parse`
gives for every text that `Spells` tokens which it `Prints`: with any zeros before its integers,
with or without a comma behind the last item of a list, and with any gaps before, between and behind
the tokens, as long as they are `WordsApart`. -/
theorem parse_of_prints {program : Module} (hwell : program.WellFormed) {ts : List Content}
    (hprints : program.Prints ts) {text : List Char} (hspells : Spells WordsApart ts text)
    (file : String) : Module.parse file (String.ofList text) = .ok program := by
  have hgrammar : Grammar.Program ts program := hprints.grammar hwell
  have hcontents : (tokensOf (String.ofList text)).map content = ts := by
    rw [tokensOf_ofList]
    exact (hgrammar.isTidy hwell).contents_tokens hspells .start
  exact Module.parse_of_program (hcontents.symm ▸ hgrammar) file

/-- A function with a comment before it, a comma behind its parameter and zeros in its body. -/
theorem parse_of_prints_function :
    Module.parse "m" "module a;//b\nfn f(x: t,): t \x7bg(007); \x7d" =
      .ok ⟨"a", [.function "f" "t" [⟨"x", "t"⟩] [.call "g" [.integer 7]]]⟩ := by
  have hwell : Module.WellFormed
      ⟨"a", [.function "f" "t" [⟨"x", "t"⟩] [.call "g" [.integer 7]]]⟩ := by
    simp [Module.WellFormed, Module.All, Stmt.AllList, Stmt.All, Expr.All]
    decide
  have hprints : Module.Prints
      ⟨"a", [.function "f" "t" [⟨"x", "t"⟩] [.call "g" [.integer 7]]]⟩ _ :=
    ⟨_, ⟨_, _, ⟨_, _, ⟨_, .cons rfl .nil, .inr ⟨by simp, rfl⟩⟩,
      ⟨_, _, ⟨_, ⟨_, .cons ⟨2, rfl⟩ .nil, .inl rfl⟩, rfl⟩, rfl, rfl⟩, rfl⟩, rfl, rfl⟩, rfl⟩
  have hspace : IsGap [' '] := .spacing rfl .nil
  have hcomment : IsGap ['/', '/', 'b', '\n'] := @IsGap.comment ['b'] [] (by decide) .nil
  have hbody : SpellsFrom WordsApart
      [Grammar.name "g", Kind.leftParen.fixed, (.integer, "007"), Kind.rightParen.fixed,
        Kind.semicolon.fixed, Kind.rightBrace.fixed] _ :=
    .cons .nil (by decide) (.cons .nil (by decide) (.cons .nil (by decide) (.cons .nil (by decide)
      (.cons hspace (by decide) (.one _ .nil)))))
  have hheader : SpellsFrom WordsApart
      ([(Kind.keyword .fn).fixed, Grammar.name "f", Kind.leftParen.fixed, Grammar.name "x",
        Kind.colon.fixed, Grammar.name "t", Kind.comma.fixed, Kind.rightParen.fixed,
        Kind.colon.fixed, Grammar.name "t", Kind.leftBrace.fixed] ++ _) _ :=
    .cons hspace (by decide) (.cons .nil (by decide) (.cons .nil (by decide) (.cons .nil (by decide)
      (.cons hspace (by decide) (.cons .nil (by decide) (.cons .nil (by decide)
        (.cons .nil (by decide) (.cons hspace (by decide) (.cons hspace (by decide)
          (.cons .nil (by decide) hbody))))))))))
  have hspells : Spells WordsApart
      ([(Kind.keyword .module).fixed, Grammar.name "a", Kind.semicolon.fixed] ++ _) _ :=
    .some .nil (.cons hspace (by decide) (.cons .nil (by decide) (.cons hcomment (by decide)
      hheader)))
  exact parse_of_prints hwell hprints hspells "m"

end Modlet
