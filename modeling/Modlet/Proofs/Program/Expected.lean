import Modlet.Proofs.Program.EarliestFault

/-!
# What was expected would have been accepted

The message of a fault says what would have been accepted in place of the token found. It says so
truly: any token of what it names can be written there instead, behind all that stands before the
fault. Then reading goes on past it, to the end of a program or to the end of the file.

* `Expectation.eq_of_message_eq`: a message tells what was expected and what was found.
* `GoesThrough`: sources that are programs, or that could go on where they end.
* `goesThrough_of_isPrefix`: a source whose tokens are the first ones of a program goes through.
* `parse_error_expected`: with a token that was expected, what stands before the fault goes through.
-/

namespace Modlet

open Token

/-! ### What a message says -/

/-- What `takeWhile` gives up to a character without the property `p` is the same, whatever stands
behind that character. -/
theorem takeWhile_append_cons {p : Char → Bool} {c : Char} (hc : p c = false)
    (text rest : List Char) : (text ++ c :: rest).takeWhile p = text.takeWhile p := by
  induction text with
  | nil => simp [hc]
  | cons d text ih => simp [List.takeWhile_cons, ih]

/-- Every kind of token. -/
def Token.Kind.all : List Kind :=
  [endOfFile, invalid, identifier, integer, string] ++ Keyword.all.map keyword ++ marks

namespace Expectation

/-- Every expectation. -/
def all : List Expectation := [statement, expression, type] ++ Kind.all.map token

theorem mem_all (wanted : Expectation) : wanted ∈ all := by
  cases wanted with
  | token kind =>
    cases kind with
    | keyword word => cases word <;> decide
    | _ => decide
  | _ => decide

/-- The name of an expectation up to its first comma, which only the name of the comma has. In a
message the comma before `found` ends it otherwise. -/
def key (wanted : Expectation) : List Char := wanted.name.toList.takeWhile (· ≠ ',')

/-- An expectation is found by its `key`, so the key tells all of them apart. -/
theorem find?_key (wanted : Expectation) : all.find? (·.key = wanted.key) = some wanted := by
  have h : ∀ other ∈ all, all.find? (·.key = other.key) = some other := by decide +kernel
  exact h wanted wanted.mem_all

/-- A message tells what was expected and what was found: the `key` is all that stands before the
first comma behind `expected`. -/
theorem eq_of_message_eq {wanted wanted' : Expectation} {x y : String}
    (h : "expected " ++ wanted.name ++ ", found " ++ x =
      "expected " ++ wanted'.name ++ ", found " ++ y) : wanted = wanted' ∧ x = y := by
  have htext : wanted.name.toList ++ ',' :: (" found ".toList ++ x.toList) =
      wanted'.name.toList ++ ',' :: (" found ".toList ++ y.toList) := by
    simpa using congrArg String.toList h
  have hkey : wanted.key = wanted'.key := by
    have hcut := congrArg (List.takeWhile (· ≠ ',')) htext
    rwa [takeWhile_append_cons (by decide), takeWhile_append_cons (by decide)] at hcut
  obtain rfl : wanted = wanted' := by
    rw [← Option.some.injEq, ← find?_key, hkey, find?_key]
  exact ⟨rfl, String.toList_injective (by simpa using htext)⟩

end Expectation

/-! ### Sources that go through -/

/-- A source is a program for `Module.parse`, or it could go on where it ends: what is missing is
missing there. -/
def GoesThrough (file source : String) : Prop :=
  (∃ program, Module.parse file source = .ok program)
    ∨ ∃ missing : Expectation, Module.parse file source =
        .error ⟨"expected " ++ missing.name ++ ", found end of file", file,
          Position.start.after source.toList⟩

/-- What `Fault.message` says where a source ends. -/
theorem Fault.message_endAt (missing : Expectation) (pos : Position) :
    message (.unexpected missing (Token.endAt pos)) =
      "expected " ++ missing.name ++ ", found end of file" := by
  rw [message_unexpected, String.append_assoc]
  rfl

/-- A source whose tokens are the first ones of a program `GoesThrough`. -/
theorem goesThrough_of_isPrefix {file source other : String} {program : Module}
    (hparse : Module.parse file other = .ok program)
    (htokens : tokensOf source <+: tokensOf other) :
    GoesThrough file source := by
  obtain ⟨us, htokens⟩ := htokens
  obtain ⟨ts, last, hread, ⟨program', hok, -⟩ | ⟨missing, hfault, -⟩⟩ := Module.read_cases source
  · exact .inl ⟨program', by rw [Module.parse, hok]⟩
  by_cases hend : last.current.kind = .endOfFile
  · -- All tokens were consumed, so what was found is the end of the file.
    have hall := hread.passes.of_endOfFile hend
    have hcurrent := hread.passes.current_eq_reading (Reader.shows_ofSource source)
    rw [Reader.pending_ofSource] at hall
    rw [Cursor.reading_eq, ← tokensOf, hall, List.getElem?_eq_none (Nat.le_refl _)] at hcurrent
    refine .inr ⟨missing, ?_⟩
    rw [Module.parse, hfault]
    simp only [SourceError.ofFault, hcurrent, Option.getD_none, Fault.message_endAt]
    rfl
  · -- The program has the token that was found there too, and would have been refused at it.
    have hpending := hread.passes.pending_eq
    rw [Reader.pending_ofSource, Reader.pending_eq_cons hend] at hpending
    rw [hpending, List.append_assoc, List.cons_append] at htokens
    rw [error_of_tokens hread hfault htokens.symm] at hparse
    cases hparse

/-! ### What was expected -/

/-- Where a text begins with the valid tokens `ts`, the next reading `StandsAt` some place, and what
stands before it `IsReadAs` these tokens. -/
theorem exists_standsAt {text : List Char} {ts us : List Token}
    (h : Cursor.tokens ⟨text, .start⟩ = ts ++ us) (hvalid : ∀ t ∈ ts, t.kind ≠ .invalid) :
    ∃ front lexeme, (Cursor.reading ⟨text, .start⟩ ts.length).StandsAt text front lexeme
      ∧ IsReadAs front ts := by
  obtain ⟨parts, gap, hcut⟩ := exists_decomposes text
  have hstands := hcut.standsAt_reading ts.length
  obtain ⟨front, lexeme, hat, hfront, hbehind⟩ := exists_tokenAt h hvalid
  -- Both are the token at one place, so what stands before it is the same.
  have hpos : Position.start.after front = (Cursor.reading ⟨text, .start⟩ ts.length).pos := by
    rw [Cursor.reading_eq, h]
    rcases hbehind with ⟨rfl, rfl, -⟩ | ⟨t, vs, rfl, ht, -⟩
    · simp [Token.endAt]
    · simp [ht]
  obtain ⟨rfl, rfl⟩ := hat.unique hstands.tokenAt (hpos.trans hstands.pos_eq)
  exact ⟨_, _, hstands, hfront⟩

/-- Behind the beginning of a program, every token that the expectation `Admits` goes through on a
line of its own. -/
theorem IsReadAs.goesThrough {front : List Char} {ts : List Token} {wanted : Expectation} {n : Nat}
    (hread : IsReadAs front ts) (hgoes : Language.GoesOn n Grammar.Program (ts.map content) wanted)
    {t : Content} (ht : wanted.Admits t) (file : String) :
    GoesThrough file (String.ofList (front ++ '\n' :: spelled t)) := by
  obtain ⟨us, program, hprogram, -, hwritten⟩ := hgoes t ht
  have hall : ∀ u ∈ t :: us, IsWritten u := by
    rw [List.forall_mem_cons]
    exact ⟨ht.isWritten, hwritten⟩
  -- In a program the token can stand there, and reading it does not depend on what comes next.
  have hparse := hread.parse_lines hprogram hall file
  have hline : lines (t :: us) = spelled t ++ '\n' :: lines us := by simp [lines]
  have hbehind : ∀ c ∈ ('\n' :: lines us).head?, t.1.goesOn c = false := by
    rintro _ ⟨⟩
    exact t.1.goesOn_of_isSpacing rfl
  have hfirst := Cursor.tokens_spelled ht.isWritten hbehind (Position.start.after (front ++ ['\n']))
  refine goesThrough_of_isPrefix hparse ?_
  rw [tokensOf_ofList, tokensOf_ofList, hread.lineBreak, hread.lineBreak, hline, hfirst,
    Cursor.tokens_spelled_alone ht.isWritten, List.prefix_append_right_inj]
  exact List.prefix_append [_] _

/-- An error is reported at a token, and in place of that token what it says was expected would have
been accepted. -/
structure IsTruthful (file source : String) (e : SourceError) (front lexeme : List Char)
    (found : Token) : Prop where
  /-- The token is one of the source, or the end of the file. -/
  standsAt : found.StandsAt source.toList front lexeme
  /-- The error stands where the token begins. -/
  place : e.pos = found.pos
  /-- The message says what was expected, which is something, and what was found. -/
  message : ∃ (wanted : Expectation) (t : Content), wanted.Admits t
    ∧ e.message = "expected " ++ wanted.name ++ ", found " ++ found.describe
  /-- However the message is taken apart, it describes the token that was found, and all that it
  says was expected goes through behind what stands before that token. -/
  accepted : ∀ (wanted : Expectation) (y : String),
    e.message = "expected " ++ wanted.name ++ ", found " ++ y →
      y = found.describe ∧ ∀ t, wanted.Admits t →
        GoesThrough file (String.ofList (front ++ '\n' :: spelled t))

/-- What was expected would have been accepted. Every source that `Module.parse` refuses has an
error at one of its tokens that `IsTruthful`: its message describes that token, and behind the
text before it every other token that the message names `GoesThrough`, at least to the end of the
file. -/
theorem parse_error_expected {file source : String} {e : SourceError}
    (h : Module.parse file source = .error e) :
    ∃ front lexeme found, IsTruthful file source e front lexeme found := by
  rw [Module.parse, Module.read] at h
  obtain ⟨ts, last, hread⟩ := Parser.reads_module.reading _ (Reader.isGenuine_ofSource source)
  -- The reading that stopped explains itself by the tokens that it consumed.
  have hexplains := hread.explains
  cases hmodule : Parser.module (Reader.ofSource source) with
  | ok program stop => simp [hmodule] at h
  | error fault stop =>
    rw [hmodule] at h hexplains
    obtain ⟨wanted, rfl, ⟨t, ht, -⟩, hgoes⟩ := hexplains
    obtain rfl := Except.error.inj h
    have htokens := hread.passes.pending_eq
    rw [Reader.pending_ofSource] at htokens
    obtain ⟨front, lexeme, hstands, hfront⟩ := exists_standsAt htokens hread.valid
    rw [← Cursor.ofSource, ← hread.passes.current_eq_reading (Reader.shows_ofSource source)]
      at hstands
    refine ⟨front, lexeme, last.current, hstands, rfl, ⟨wanted, t, ht, rfl⟩,
      fun wanted' y hmessage => ?_⟩
    -- The message tells the expectation, so no other one has to be looked at.
    obtain ⟨rfl, rfl⟩ := Expectation.eq_of_message_eq hmessage
    exact ⟨rfl, fun u hu => hfront.goesThrough hgoes hu file⟩

/-- The name of a type is missing. -/
theorem parse_error_expected_missing_type :
    Module.parse "m" "module a;\nlet x: = 1;" =
        .error ⟨"expected a type, found `=`", "m", ⟨2, 8⟩⟩
      ∧ ∃ front lexeme found, IsTruthful "m" "module a;\nlet x: = 1;"
          ⟨"expected a type, found `=`", "m", ⟨2, 8⟩⟩ front lexeme found := by
  have herror : Module.parse "m" "module a;\nlet x: = 1;" =
      .error ⟨"expected a type, found `=`", "m", ⟨2, 8⟩⟩ := by cbv
  exact ⟨herror, parse_error_expected herror⟩

end Modlet
