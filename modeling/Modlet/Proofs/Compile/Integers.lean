import Modlet.Proofs.Compile.Gaps
import Modlet.Proofs.Compile.Literals
import Modlet.Proofs.Program.EarliestFault

/-!
# Integers on their way to C

A run of digits that stands for a value is an integer token if its value is in range, however many
zeros lead it. The tree then holds that value, and the C text has it as a numeral without leading
zeros. A run of digits that is out of range is an invalid token, at which the source is refused.

* `IsNumeralOf`: the numeral that C reads as the same number.
* `forall_mem_definitionTokens`: what is true of all tokens that a definition is made of.
* `StandsForValue`: digits of a source in a place where an expression is expected.
* `compile_integer_value`: the value of such digits, from the source to the C text.
-/

namespace Modlet

open Token CText

/-! ### Numerals -/

/-- The text `numeral` is the decimal numeral of a number, without leading zeros. -/
structure IsNumeralOf (numeral : String) (n : Nat) : Prop where
  /-- There is a digit. -/
  ne_empty : numeral ≠ ""
  /-- There are only digits. -/
  all_isDigit : numeral.toList.all Char.isDigit = true
  /-- The first of them is zero only if there is no other one. -/
  eq_zero : numeral.toList.head? = some '0' → numeral = "0"
  /-- Together they have the value of the number. -/
  value_eq : Numeral.value numeral.toList = n

/-- The digits that `Nat.toDigits` gives for a positive number do not begin with a zero. -/
theorem Numeral.head?_toDigits_ne {n : Nat} (h : 0 < n) :
    (Nat.toDigits 10 n).head? ≠ some '0' := by
  induction n using Nat.strong_induction_on with
  | _ n ih =>
    rw [Nat.toDigits_eq_if (by decide)]
    split
    · next hless => interval_cases n <;> decide
    · next hle =>
      -- The first digit is that of the number without its last digit.
      rw [List.head?_append_of_ne_nil _ Nat.toDigits_ne_nil]
      exact ih (n / 10) (by omega) (by omega)

/-- What `Numeral.ofInt` writes for a number is its numeral. -/
theorem isNumeralOf_ofInt (n : Nat) : IsNumeralOf (Numeral.ofInt n) n := by
  have hdigits : (Numeral.ofInt n).toList = Nat.toDigits 10 n := Nat.toList_repr
  refine ⟨?_, ?_, fun hhead => ?_, ?_⟩
  · rw [Ne, ← String.toList_inj, hdigits]
    exact Nat.toDigits_ne_nil
  · rw [hdigits, List.all_eq_true]
    exact fun c => Nat.isDigit_of_mem_toDigits (by decide) (by decide)
  · rw [hdigits] at hhead
    rcases Nat.eq_zero_or_pos n with rfl | hpos
    · rfl
    · exact absurd hhead (Numeral.head?_toDigits_ne hpos)
  · rw [hdigits, Numeral.value_toDigits]

/-! ### Integers among the tokens of C -/

namespace CText

section Tokens

variable {P : Content → Prop}
variable {Name : String → Prop} {Number : Int → Prop} {Contents : String → Prop}

mutual

/-- What is true of names, marks and values is true of all `definitionTokens`. -/
theorem forall_mem_definitionTokens (hname : ∀ name, P (nameToken name))
    (hmark : ∀ kind ∈ Kind.marks, P kind.fixed)
    (hvalue : ∀ value : Expr, value.All Name Number Contents → P (valueToken value)) :
    ∀ {statement : Stmt}, statement.All Name Number Contents →
      ∀ t ∈ definitionTokens statement, P t
  | .constant name type value, ⟨_, _, h⟩ => by
    simp only [definitionTokens, List.forall_mem_cons]
    exact ⟨hname _, hname _, hname _, hmark .assign (by decide), hvalue value h,
      hmark .semicolon (by decide), by simp⟩
  | .function name result params body, ⟨_, _, _, h⟩ => by
    -- The parameters and the body have tokens of their own; the others are names and marks.
    have hparams : ∀ t ∈ commaTokens
        (params.map fun param => [nameToken param.type, nameToken param.name]), P t := by
      refine forall_mem_commaTokens (hmark .comma (by decide)) fun param _ => ?_
      rw [List.forall_mem_cons, List.forall_mem_singleton]
      exact ⟨hname _, hname _⟩
    have hbody := forall_mem_definitionTokensList hname hmark hvalue h
    simp only [definitionTokens, signatureTokens, List.forall_mem_append, List.forall_mem_cons]
    exact ⟨⟨⟨⟨⟨hname _, hname _, hmark .leftParen (by decide), by simp⟩, hparams⟩,
      hmark .rightParen (by decide), by simp⟩, hmark .leftBrace (by decide), hbody⟩,
      hmark .rightBrace (by decide), by simp⟩
  | .call callee args, ⟨_, h⟩ => by
    have hargs : ∀ t ∈ commaTokens (args.map fun arg => [valueToken arg]), P t := by
      refine forall_mem_commaTokens (hmark .comma (by decide)) fun arg harg => ?_
      rw [List.forall_mem_singleton]
      exact hvalue arg (h arg harg)
    simp only [definitionTokens, List.forall_mem_append, List.forall_mem_cons]
    exact ⟨⟨⟨hname _, hmark .leftParen (by decide), by simp⟩, hargs⟩,
      hmark .rightParen (by decide), hmark .semicolon (by decide), by simp⟩

/-- What is true of names, marks and values is true of all tokens of definitions, by
`forall_mem_definitionTokens`. -/
theorem forall_mem_definitionTokensList (hname : ∀ name, P (nameToken name))
    (hmark : ∀ kind ∈ Kind.marks, P kind.fixed)
    (hvalue : ∀ value : Expr, value.All Name Number Contents → P (valueToken value)) :
    ∀ {list : List Stmt}, Stmt.AllList Name Number Contents list →
      ∀ t ∈ definitionTokensList list, P t
  | [], _ => by simp [definitionTokensList]
  | _ :: _, ⟨hfirst, hothers⟩ => by
    rw [definitionTokensList, List.forall_mem_append]
    exact ⟨forall_mem_definitionTokens hname hmark hvalue hfirst,
      forall_mem_definitionTokensList hname hmark hvalue hothers⟩

end

end Tokens

/-- Every integer in C is written as the numeral of its value, which is its `valueToken`. -/
theorem eq_valueToken_of_mem {list : List Stmt}
    (h : Stmt.AllList IsIdentifier IsInRange IsUnquoted list) :
    ∀ t ∈ definitionTokensList list, ∀ n : Nat, literal? t = some (.integer n) →
      t = valueToken (.integer n) := by
  -- Names and marks are no integers, so the token is that of a value.
  refine forall_mem_definitionTokensList (fun name n hn => ?_) (fun kind hkind n hn => ?_)
    (fun value hvalue n hn => ?_) h
  · cases hn
  · revert hn
    revert hkind
    cases kind <;> simp [Kind.marks, literal?, Kind.fixed]
  · cases value with
    | integer m =>
      have hliteral := literals_valueToken hvalue
      simp only [literals_cons, literals_nil, hn, Expr.literals] at hliteral
      obtain rfl : (n : Int) = m := by simpa using hliteral
      rfl
    | string text => cases hn
    | «variable» name => cases hn

/-- An integer among the `literalsList` of definitions stands in their C text as its numeral, behind
the literals before it. -/
theorem exists_numeral {list : List Stmt} {before others : List Expr} {n : Nat}
    (h : Stmt.AllList IsIdentifier IsInRange IsUnquoted list)
    (hlist : Stmt.literalsList list = before ++ .integer n :: others) :
    ∃ front behind, (tokensOf (definitionText list)).map content =
        front ++ valueToken (.integer n) :: behind ∧ literals front = before := by
  rw [contents_tokensOf_definitionText h]
  rw [← literals_definitionTokensList h, literals, List.filterMap_eq_append_iff] at hlist
  obtain ⟨front, rest, htokens, hfront, hrest⟩ := hlist
  rw [List.filterMap_eq_cons_iff] at hrest
  obtain ⟨names, t, behind, rfl, hnames, ht, -⟩ := hrest
  -- Between the literal before and the integer only names and marks stand.
  obtain rfl := eq_valueToken_of_mem h t (by simp [htokens]) n ht
  refine ⟨front ++ names, behind, by simpa using htokens, ?_⟩
  have hnone : names.filterMap literal? = [] := List.filterMap_eq_nil_iff.mpr hnames
  rw [literals_append, literals, literals, hfront, hnone, List.append_nil]

end CText

/-! ### Digits in a source -/

/-- What is missing where a source ends, if `Module.read` stops there. -/
def Module.missing? (source : String) : Option Expectation :=
  match Module.read source with
  | .error (.unexpected wanted found) _ => if found.kind = .endOfFile then some wanted else none
  | _ => none

/-- Digits that are a token of a source, at a place where an expression is expected: for the text
before them, read alone, `Module.missing?` tells that one is missing. -/
structure StandsForValue (source : String) (front digits : List Char) : Prop where
  /-- The digits are a token of the source. -/
  tokenAt : TokenAt source.toList front digits
  /-- There is a digit. -/
  ne_nil : digits ≠ []
  /-- There are only digits. -/
  all_isDigit : digits.all Char.isDigit = true
  /-- Before them stands a text that ends where an expression is missing. -/
  missing : Module.missing? (String.ofList front) = some .expression

/-- A program holds an integer behind the literals `before`, in its tree and in its C text. -/
structure HoldsInteger (program : Module) (before : List Expr) (n : Nat) : Prop where
  /-- The tree holds the value. -/
  tree : ∃ others, program.literals = before ++ .integer n :: others
  /-- The definitions in C hold its numeral. -/
  text : ∃ front numeral behind,
    (tokensOf (definitionText program.statements)).map content =
        front ++ (.integer, numeral) :: behind
      ∧ literals front = before ∧ IsNumeralOf numeral n

/-- A token is read as the integer that its digits are, and the program `HoldsInteger` behind the
literals before it. -/
structure KeepsValue (file source : String) (front digits : List Char) (t : Token) : Prop where
  /-- The token is an integer with these digits. -/
  content_eq : t.content = (.integer, String.ofList digits)
  /-- Where the token stands for an expression, that is the value of the digits. -/
  expression_eq : ∀ r : Reader, r.current = t →
    Parser.expression r = .ok (.integer (Numeral.value digits)) r.advance
  /-- An error only stands behind the token. -/
  before_error : ∀ e, Module.parse file source = .error e → t.pos.Before e.pos
  /-- A program is compiled to its prototypes and its definitions. -/
  result_eq : ∀ program, Module.parse file source = .ok program →
    (compile file source).result = .ok (ofParts program.name (prototypeText program.statements)
      (definitionText program.statements))
  /-- It holds the value, behind all literals that stand before the token. -/
  holds : ∀ program, Module.parse file source = .ok program →
    HoldsInteger program (literals ((tokensOf (String.ofList front)).map content))
      (Numeral.value digits)

/-- A token is refused since its digits are out of range. -/
structure IsOutOfRange (file source : String) (digits : List Char) (t : Token) : Prop where
  /-- The token is invalid and tells the digits. -/
  content_eq : t.content =
    (.invalid, (LexicalError.integerOutOfRange (String.ofList digits)).message)
  /-- The source has an error at the token. -/
  error : ∃ e, Module.parse file source = .error e ∧ e.pos = t.pos

/-- A `TokenAt` some place of a text that is no end of a file stands between other tokens. -/
theorem TokenAt.exists_standsBetween {text front lexeme : List Char} (h : TokenAt text front lexeme)
    (hne : lexeme ≠ []) : ∃ ts t us, StandsBetween text front lexeme ts t us := by
  cases h with
  | endOfFile => exact absurd rfl hne
  | lexeme hcut =>
    obtain ⟨t, us, hstands⟩ := hcut.exists_standsBetween hcut.isClosed_of_mem
    exact ⟨_, t, us, hstands⟩

namespace StandsBetween

variable {source : String} {front lexeme : List Char} {ts us : List Token} {t : Token}

/-- The `tokensOf` a source around one of them. -/
theorem tokensOf_eq (h : StandsBetween source.toList front lexeme ts t us) :
    tokensOf source = ts ++ t :: us :=
  h.tokens_eq

/-- A token is the `reading` with the number of the tokens before it. -/
theorem eq_reading (h : StandsBetween source.toList front lexeme ts t us) :
    t = (Cursor.ofSource source).reading ts.length := by
  rw [Cursor.reading_eq, ← tokensOf, h.tokensOf_eq, List.getElem?_append_right (Nat.le_refl _),
    Nat.sub_self, List.getElem?_cons_zero, Option.getD_some]

end StandsBetween

/-- No string begins with a digit, so digits are closed. -/
theorem isClosed_of_digits {digits : List Char} (h : digits.all Char.isDigit = true) :
    IsClosed digits := by
  rintro body rfl
  simp at h

section Digits

variable {source : String} {front digits : List Char} {ts us : List Token} {t : Token}

/-- What stands before the digits is the beginning of a program, which `GoesOn` with every value. -/
theorem StandsForValue.goesOn (h : StandsForValue source front digits) (hread : IsReadAs front ts) :
    Language.GoesOn 34 Grammar.Program (ts.map content) .expression := by
  have hmissing := h.missing
  obtain ⟨vs, last, hreading, ⟨program, hok, -⟩ | ⟨wanted, hfault, -, hgoes⟩⟩ :=
    Module.read_cases (String.ofList front)
  · simp [Module.missing?, hok] at hmissing
  obtain ⟨hend, rfl⟩ : last.current.kind = .endOfFile ∧ wanted = .expression := by
    simpa [Module.missing?, hfault] using hmissing
  -- Reading stopped at the end of this text, so all its tokens were consumed.
  have hall := hreading.passes.of_endOfFile hend
  rw [Reader.pending_ofSource, hread.tokensOf_eq] at hall
  rwa [hall]

/-- Digits in range keep their value, in the sense of `KeepsValue`. -/
theorem StandsForValue.keepsValue (h : StandsForValue source front digits)
    (hstands : StandsBetween source.toList front digits ts t us)
    (hrange : Numeral.value digits ≤ Numeral.greatest) (file : String) :
    KeepsValue file source front digits t := by
  have hcontent : t.content = (.integer, String.ofList digits) :=
    hstands.means.unique (.integer h.ne_nil h.all_isDigit hrange)
  have hread : Numeral.read? digits = some (Numeral.value digits) := by
    rw [Numeral.read?_of_digits h.ne_nil h.all_isDigit, if_pos hrange]
  -- One goal each for what reading makes of the token, for errors, for the C text and for literals.
  refine ⟨hcontent, fun r hr => ?_, fun e he => ?_, fun program hprogram => ?_,
    fun program hprogram => ?_⟩
  · obtain ⟨hkind, htext⟩ := Prod.mk.inj (hr ▸ hcontent)
    simp [Parser.expression, hkind, htext, hread]
  · -- With the digits too, a program begins, so no error stands before the next token.
    have hwritten : IsWritten t.content :=
      hstands.means.isWritten.resolve_left (by simp [hcontent])
    obtain ⟨rest, program, hprogram, -, hrest⟩ :=
      h.goesOn hstands.before t.content ⟨.inl (congrArg Prod.fst hcontent), hwritten⟩
    have hthrough := hstands.through (isClosed_of_digits h.all_isDigit)
    obtain ⟨i, hi, hle, hpos, -⟩ := hthrough.exists_reading_of_error
      (by simpa using hprogram) hrest (by simp [hstands.tokensOf_eq]) he
    rw [List.length_append, List.length_singleton] at hi
    rw [← hpos, hstands.eq_reading]
    exact Cursor.reading_before hi hle
  · rw [compile_result_of_parse hprogram, ofModule_eq_ofParts]
  · -- The literals of the tree are those of the tokens.
    have hliterals := (Module.program_of_parse hprogram).literals_eq
    rw [hstands.tokensOf_eq, List.map_append, List.map_cons, hcontent, literals_append,
      literals_cons] at hliterals
    have hvalue : literal? (.integer, String.ofList digits) =
        some (.integer (Numeral.value digits)) := by
      rw [literal?, String.toList_ofList]
    rw [hvalue] at hliterals
    rw [hstands.before.tokensOf_eq]
    obtain ⟨before, behind, htokens, hbefore⟩ :=
      exists_numeral (Module.wellFormed_of_parse hprogram).2 hliterals.symm
    exact ⟨⟨_, hliterals.symm⟩, before, _, behind, htokens, hbefore, isNumeralOf_ofInt _⟩

/-- Digits out of range are refused, in the sense of `IsOutOfRange`. -/
theorem StandsForValue.isOutOfRange (h : StandsForValue source front digits)
    (hstands : StandsBetween source.toList front digits ts t us)
    (hrange : Numeral.greatest < Numeral.value digits) (file : String) :
    IsOutOfRange file source digits t := by
  have hcontent := hstands.means.unique (.outOfRange h.all_isDigit hrange)
  refine ⟨hcontent, ?_⟩
  cases hparse : Module.parse file source with
  | ok program =>
    refine absurd (congrArg Prod.fst hcontent) (Module.kind_ne_of_parse hparse t ?_)
    simp [hstands.tokensOf_eq]
  | error e =>
    refine ⟨e, rfl, ?_⟩
    obtain ⟨rest, program, hprogram, -, hrest⟩ :=
      h.goesOn hstands.before (Grammar.name "x") ⟨.inr (.inr rfl), isWritten_x⟩
    obtain ⟨i, hi, hle, hpos, hvalid⟩ := hstands.before.exists_reading_of_error hprogram
      (List.forall_mem_cons.mpr ⟨isWritten_x, hrest⟩) (by simp [hstands.tokensOf_eq]) hparse
    -- The error stands neither before the token nor behind it, since the token is invalid.
    rw [← hpos, hstands.eq_reading]
    rcases Nat.eq_or_lt_of_le hi with rfl | hlt
    · rfl
    · refine absurd (congrArg Prod.fst hcontent) (hvalid t ?_)
      obtain ⟨k, rfl⟩ := Nat.exists_eq_add_of_lt hlt
      simp [hstands.tokensOf_eq, List.take_append, Nat.add_assoc]

/-- Reading a source with `Module.read` never meets an integer token whose digits are out of range:
such digits are an invalid token already. -/
theorem Module.read_ne_integerOutOfRange (source : String) (literal : Token) (stop : Reader) :
    Module.read source ≠ .error (.integerOutOfRange literal) stop := by
  intro h
  obtain ⟨_, _, -, ⟨program, hok, -⟩ | ⟨wanted, hfault, -⟩⟩ := Module.read_cases source
  · cases h.symm.trans hok
  · cases h.symm.trans hfault

end Digits

/-- Where an integer is read, its digits are a token of the source (`TokenAt`). -/
theorem tokenAt_of_reading {source : String} {front digits : List Char} {i : Nat}
    (hfront : front <+: source.toList) (h : (Cursor.ofSource source).reading i =
      ⟨.integer, String.ofList digits, Position.start.after front⟩) :
    TokenAt source.toList front digits := by
  obtain ⟨parts, gap, hcut⟩ := exists_decomposes source.toList
  have hstands := hcut.standsAt_reading i
  rw [show Cursor.reading ⟨source.toList, .start⟩ i = _ from h] at hstands
  obtain ⟨hat, hpos, hmeans, hend⟩ := hstands
  have hprefix := (List.prefix_append _ _).trans hat.isPrefix
  obtain rfl := Position.after_injective hfront hprefix hpos
  have hne : lexemeOf parts i ≠ [] := fun hnil => by cases hend hnil
  -- Only the digits themselves mean an integer with these digits.
  have hlexeme : lexemeOf parts i = digits := by
    generalize hcontent : Token.content _ = t at hmeans
    generalize lexemeOf parts i = lexeme at hmeans hne
    cases hmeans hne with
    | integer => exact String.ofList_injective (congrArg Prod.snd hcontent).symm
    | mark hkind =>
      cases congrArg Prod.fst hcontent
      exact absurd hkind (by decide)
    | _ => cases congrArg Prod.fst hcontent
  exact hlexeme ▸ hat

/-- Integers keep their value. Digits of a source that `StandsForValue` places where an expression
is expected are an integer token if their value is less than `2 ^ 63`, however many zeros lead them.
Then `KeepsValue` says that the tree holds that value, and the C text its numeral without leading
zeros. Other digits are an invalid token, at which the source has an error (`IsOutOfRange`). So the
fault `integerOutOfRange` never comes of `Module.read`. -/
theorem compile_integer_value :
    (∀ source literal stop, Module.read source ≠ .error (.integerOutOfRange literal) stop)
      ∧ ∀ file source front digits, StandsForValue source front digits →
        ∃ t ∈ tokensOf source, t.pos = Position.start.after front
          ∧ if Numeral.value digits < 2 ^ 63 then KeepsValue file source front digits t
            else IsOutOfRange file source digits t := by
  refine ⟨Module.read_ne_integerOutOfRange, fun file source front digits h => ?_⟩
  obtain ⟨ts, t, us, hstands⟩ := h.tokenAt.exists_standsBetween h.ne_nil
  have hbound : Numeral.greatest + 1 = 2 ^ 63 := by decide
  refine ⟨t, by simp [hstands.tokensOf_eq], hstands.pos_eq, ?_⟩
  split
  · next hless => exact h.keepsValue hstands (by omega) file
  · next hmore => exact h.isOutOfRange hstands (by omega) file

/-- A seven with leading zeros, as an argument. -/
theorem compile_integer_value_padded :
    StandsForValue "module a; f(x, 007);" "module a; f(x, ".toList "007".toList
      ∧ ∃ t ∈ tokensOf "module a; f(x, 007);", t.pos = ⟨1, 16⟩
        ∧ KeepsValue "m" "module a; f(x, 007);" "module a; f(x, ".toList "007".toList t := by
  have hat : TokenAt "module a; f(x, 007);".toList "module a; f(x, ".toList "007".toList := by
    refine @tokenAt_of_reading _ _ _ 7 (by decide) ?_
    cbv
  have hstands : StandsForValue "module a; f(x, 007);" "module a; f(x, ".toList "007".toList :=
    ⟨hat, by decide, by decide, by cbv⟩
  obtain ⟨t, ht, hpos, hkeeps⟩ := compile_integer_value.2 "m" _ _ _ hstands
  rw [if_pos (by decide)] at hkeeps
  exact ⟨hstands, t, ht, hpos, hkeeps⟩

end Modlet
