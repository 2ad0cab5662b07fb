import Modlet.Proofs.Program.Acceptance
import Modlet.Proofs.Token.Places

/-!
# Faults are found as early as can be

A source that is not a program is refused at the first token that no program can have there. What
stands before that token is the beginning of some program, and nothing that stands behind it makes
a difference any more, except for a string that nothing closes: later text could close it.

* `StandsBetween`: a token of a text, with the tokens before it and behind it.
* `exists_tokenAt`: the token behind those that were consumed.
* `parse_error_earliest`: a fault is found at the earliest token, and it stays.
-/

namespace Modlet

open Token

/-! ### Texts up to a token -/

/-- A text of lexemes that all `IsClosed`, which is read as the given tokens. -/
def IsReadAs (text : List Char) (ts : List Token) : Prop :=
  ∃ parts gap, Decomposes text parts gap ∧ (∀ part ∈ parts, IsClosed part.lexeme)
    ∧ Cursor.tokens ⟨text, .start⟩ = ts

/-- The tokens of a source that `IsReadAs` the given ones. -/
theorem IsReadAs.tokensOf_eq {text : List Char} {ts : List Token} (h : IsReadAs text ts) :
    tokensOf (String.ofList text) = ts := by
  obtain ⟨-, -, -, -, htokens⟩ := h
  rw [tokensOf_ofList, htokens]

/-- Behind a text that `IsReadAs` some tokens, and the end of a line, reading begins anew. -/
theorem IsReadAs.lineBreak {text : List Char} {ts : List Token} (h : IsReadAs text ts)
    (rest : List Char) :
    Cursor.tokens ⟨text ++ '\n' :: rest, .start⟩ =
      ts ++ Cursor.tokens ⟨rest, Position.start.after (text ++ ['\n'])⟩ := by
  obtain ⟨parts, gap, hcut, hclosed, rfl⟩ := h
  exact hcut.tokens_lineBreak hclosed rest .start

/-- There are no more tokens than characters, since each token of `next` leaves less of the rest. -/
theorem Cursor.length_tokens_le (cursor : Cursor) :
    cursor.tokens.length ≤ cursor.rest.length := by
  fun_induction tokens cursor with
  | case1 cursor h => exact Nat.zero_le _
  | case2 cursor h ih =>
    have hless := next_length_lt h
    rw [List.length_cons]
    omega

/-- A text that `IsReadAs` some tokens has at least as many characters as there are of them. -/
theorem IsReadAs.length_le {text : List Char} {ts : List Token} (h : IsReadAs text ts) :
    ts.length ≤ text.length := by
  obtain ⟨-, -, -, -, rfl⟩ := h
  exact Cursor.length_tokens_le _

/-- A token `t` of a text, with its `front` and its `lexeme`, between the tokens `ts` before it and
`us` behind it. -/
structure StandsBetween (text front lexeme : List Char) (ts : List Token) (t : Token)
    (us : List Token) : Prop where
  /-- The tokens of the text. -/
  tokens_eq : Cursor.tokens ⟨text, .start⟩ = ts ++ t :: us
  /-- The token stands where its lexeme begins. -/
  pos_eq : t.pos = Position.start.after front
  /-- It is what the lexeme means. -/
  means : Means lexeme t.content
  /-- What stands before the lexeme is read as the tokens before it. -/
  before : IsReadAs front ts
  /-- With the lexeme, one token more is read. -/
  through : IsClosed lexeme → IsReadAs (front ++ lexeme) (ts ++ [t])

/-- A lexeme behind closed ones is read as a token between others, in the sense of
`StandsBetween`. -/
theorem Decomposes.exists_standsBetween {text gap : List Char} {before after : List Part}
    {part : Part} (h : Decomposes text (before ++ part :: after) gap)
    (hclosed : ∀ p ∈ before, IsClosed p.lexeme) :
    ∃ t us, StandsBetween text (before.flatMap Part.text ++ part.gap) part.lexeme
      ((Cursor.tokens ⟨text, .start⟩).take before.length) t us := by
  obtain ⟨hmeans, hplaces⟩ := h.tokens .start
  -- The tokens are divided where the parts are.
  have hbehind := List.forall₂_drop before.length hmeans
  rw [List.drop_left, List.forall₂_cons_left_iff] at hbehind
  obtain ⟨t, us, hpart, -, hdrop⟩ := hbehind
  have htokens := (List.take_append_drop before.length (Cursor.tokens ⟨text, .start⟩)).symm
  rw [hdrop] at htokens
  have hlength : ((Cursor.tokens ⟨text, .start⟩).take before.length).length = before.length := by
    have htotal := hmeans.length_eq
    rw [List.length_append] at htotal
    rw [List.length_take]
    omega
  -- The text up to the lexeme is cut into the first parts and the gap before that lexeme.
  have hfront := h.take hclosed (h.isGap_of_mem part (by simp))
    ⟨part.lexeme ++ after.flatMap Part.text ++ gap, by simp [Part.text]⟩
  refine ⟨t, us, htokens, ?_, hpart, ⟨before, part.gap, hfront, hclosed, h.tokens_take hfront _⟩,
    fun hpartClosed => ?_⟩
  · rw [htokens, List.map_append, lexemePlaces_append] at hplaces
    have hrest := List.append_inj_right hplaces (by simpa [length_lexemePlaces] using hlength)
    rw [Position.after_append]
    exact (List.cons.inj hrest).1
  · -- With that lexeme, the text is cut into one part more and nothing behind it.
    have hcut : Decomposes text ((before ++ [part]) ++ after) gap := by simpa using h
    have hall : ∀ p ∈ before ++ [part], IsClosed p.lexeme := by
      rw [List.forall_mem_append, List.forall_mem_singleton]
      exact ⟨hclosed, hpartClosed⟩
    have hthrough := hcut.take hall .nil List.nil_prefix
    have hmore := hcut.tokens_take hthrough .start
    refine ⟨before ++ [part], [], by simpa [Part.text] using hthrough, hall, ?_⟩
    rw [List.length_append, List.length_singleton, List.take_add_one, ← List.head?_drop, hdrop]
      at hmore
    simpa [Part.text] using hmore

/-- Where a text begins with the valid tokens `ts`, there is a `TokenAt` the place behind them, and
what stands before it `IsReadAs` these tokens. -/
theorem exists_tokenAt {text : List Char} {ts us : List Token}
    (h : Cursor.tokens ⟨text, .start⟩ = ts ++ us) (hvalid : ∀ t ∈ ts, t.kind ≠ .invalid) :
    ∃ front lexeme, TokenAt text front lexeme ∧ IsReadAs front ts
      ∧ ((us = [] ∧ front = text ∧ lexeme = []) ∨
        ∃ t vs, us = t :: vs ∧ t.pos = Position.start.after front
          ∧ (IsClosed lexeme → IsReadAs (front ++ lexeme) (ts ++ [t]))) := by
  obtain ⟨parts, gap, hcut⟩ := exists_decomposes text
  obtain ⟨hmeans, -⟩ := hcut.tokens .start
  rw [h] at hmeans
  -- The parts are divided where the tokens are.
  have hbefore := List.forall₂_take_append parts ts us hmeans
  have hafter := List.forall₂_drop_append parts ts us hmeans
  have hparts := List.take_append_drop ts.length parts
  generalize parts.take ts.length = before at hbefore hparts
  generalize parts.drop ts.length = after at hafter hparts
  subst hparts
  have hclosed := isClosed_of_forall_means hbefore hvalid
  cases hafter with
  | nil =>
    -- All tokens of the text are among the first ones, and what comes next is its end.
    rw [List.append_nil] at hcut h
    exact ⟨text, [], .endOfFile, ⟨before, gap, hcut, hclosed, h⟩, .inl ⟨rfl, rfl, rfl⟩⟩
  | cons hpart hafter =>
    obtain ⟨t, vs, hstands⟩ := hcut.exists_standsBetween hclosed
    rw [h, hbefore.length_eq, List.take_left] at hstands
    have htokens := hstands.tokens_eq
    rw [h, List.append_cancel_left_eq] at htokens
    exact ⟨_, _, .lexeme hcut, hstands.before,
      .inr ⟨t, vs, htokens, hstands.pos_eq, hstands.through⟩⟩

/-! ### Texts that go on -/

/-- Tokens written with the end of a line behind each. -/
def Token.lines (ts : List Content) : List Char := ts.flatMap fun t => spelled t ++ ['\n']

/-- What `lines` writes is read as the tokens that stand on the lines. -/
theorem contents_tokens_lines {ts : List Content} (h : ∀ t ∈ ts, IsWritten t) (pos : Position) :
    (Cursor.tokens ⟨lines ts, pos⟩).map content = ts := by
  induction ts generalizing pos with
  | nil => simp [lines]
  | cons t ts ih =>
    have hline : lines (t :: ts) = spelled t ++ (['\n'] ++ lines ts) := by simp [lines]
    have hbehind : ∀ c ∈ (['\n'] ++ lines ts).head?, t.1.goesOn c = false := by
      rintro _ ⟨⟩
      exact t.1.goesOn_of_isSpacing rfl
    rw [List.forall_mem_cons] at h
    rw [hline, Cursor.tokens_spelled h.1 hbehind, Cursor.tokens_of_isGap (.spacing rfl .nil),
      List.map_cons, ih h.2]
    rfl

theorem length_lines (ts : List Content) : (lines ts).length = weight ts := by
  simp [lines, weight]

/-- What an expectation `Admits` can be written. -/
theorem Expectation.Admits.isWritten {wanted : Expectation} {t : Content} (h : wanted.Admits t) :
    IsWritten t := by
  cases wanted <;> exact h.2

/-- Tokens that complete a program can stand on `lines` behind its beginning. -/
theorem IsReadAs.parse_lines {front : List Char} {ts : List Token} {us : List Content}
    {program : Module} (hread : IsReadAs front ts)
    (hprogram : Grammar.Program (ts.map content ++ us) program) (hus : ∀ u ∈ us, IsWritten u)
    (file : String) :
    Module.parse file (String.ofList (front ++ '\n' :: lines us)) = .ok program := by
  refine Module.parse_of_program ?_ file
  rw [tokensOf_ofList, hread.lineBreak, List.map_append, contents_tokens_lines hus]
  exact hprogram

/-- What `IsReadAs` the beginning of a program can be completed, and there is a short way to do so:
`GoesOn` bounds its length. -/
theorem exists_completion {front : List Char} {ts : List Token} {wanted : Expectation} {n : Nat}
    (hread : IsReadAs front ts) (hmet : wanted.CanBeMet)
    (hgoes : Language.GoesOn n Grammar.Program (ts.map content) wanted) (file : String) :
    ∃ rest program, Module.parse file (String.ofList (front ++ '\n' :: rest)) = .ok program
      ∧ 2 * rest.length ≤ ts.length + 2 * n + 14 := by
  obtain ⟨u, hu, hshort⟩ := hmet
  obtain ⟨us, program, hprogram, hweight, hwritten⟩ := hgoes u hu
  have hall : ∀ t ∈ u :: us, IsWritten t := by
    rw [List.forall_mem_cons]
    exact ⟨hu.isWritten, hwritten⟩
  -- Behind the end of the line stand the token that is wanted and what it goes on with.
  refine ⟨lines (u :: us), program, hread.parse_lines hprogram hall file, ?_⟩
  rw [List.length_map] at hweight
  rw [length_lines, weight_cons]
  omega

/-- A fault of a reading is the fault of every source that has the same tokens up to the one at
which reading stopped. `IsReading` says that no other token was looked at. -/
theorem error_of_tokens {source other : String} {ts us : List Token} {last : Reader} {n : Nat}
    {L : Language Module} {fault : Fault} {stop : Reader}
    (hread : Parser.IsReading n L Parser.module (Reader.ofSource source) ts last)
    (hfault : Parser.module (Reader.ofSource source) = .error fault stop)
    (htokens : tokensOf other = ts ++ last.current :: us) (file : String) :
    Module.parse file other = .error (.ofFault file fault) := by
  -- The same tokens pass and the same one stands behind them, so the reading is repeated.
  obtain ⟨stop', hpasses, hrest⟩ := Reader.exists_passes (Reader.ofSource other) ts _
    (by rw [Reader.pending_ofSource, htokens])
  have hrepeat := hread.repeats _ stop' hpasses (Reader.current_of_pending hrest)
  rw [hfault] at hrepeat
  rw [Module.parse, Module.read, hrepeat, Parser.standingAt]

/-- No token of a source that `Module.parse` accepts is invalid. -/
theorem Module.kind_ne_of_parse {file source : String} {program : Module}
    (h : Module.parse file source = .ok program) : ∀ t ∈ tokensOf source, t.kind ≠ .invalid := by
  obtain ⟨ts, last, hread, ⟨_, -, rfl, -⟩ | ⟨wanted, hfault, -⟩⟩ := Module.read_cases source
  · exact hread.valid
  · rw [Module.parse, hfault] at h
    cases h

/-- A source that begins with the first tokens of some program is not refused at any of them, nor at
an invalid token behind another one. So a `Module.parse` error has a `reading` at or behind them. -/
theorem IsReadAs.exists_reading_of_error {front : List Char} {ts : List Token} {us : List Content}
    {program : Module} (hread : IsReadAs front ts)
    (hprogram : Grammar.Program (ts.map content ++ us) program) (hus : ∀ u ∈ us, IsWritten u)
    {file source : String} {e : SourceError} (hsource : ts <+: tokensOf source)
    (h : Module.parse file source = .error e) :
    ∃ i, ts.length ≤ i ∧ i ≤ (tokensOf source).length
      ∧ ((Cursor.ofSource source).reading i).pos = e.pos
      ∧ ∀ t ∈ (tokensOf source).take i, t.kind ≠ .invalid := by
  obtain ⟨vs, last, hreading, ⟨program', hok, -⟩ | ⟨wanted, hfault, -⟩⟩ := Module.read_cases source
  · rw [Module.parse, hok] at h
    cases h
  rw [Module.parse, hfault] at h
  obtain rfl := Except.error.inj h
  have htokens := hreading.passes.pending_eq
  rw [Reader.pending_ofSource] at htokens
  refine ⟨vs.length, ?_, by simp [htokens], ?_, ?_⟩
  · by_contra hless
    -- The program has the same tokens up to the one that was refused, and is refused there too.
    obtain ⟨ws, hsource⟩ := hsource
    rw [htokens] at hsource
    rcases List.append_eq_append_iff.mp hsource with ⟨more, rfl, -⟩ | ⟨more, rfl, hpending⟩
    · exact hless (by simp)
    · cases more with
      | nil => exact hless (by simp)
      | cons t more =>
        obtain rfl := Reader.current_of_pending hpending
        have hother := hread.lineBreak (lines us)
        rw [List.append_assoc, List.cons_append, ← tokensOf_ofList] at hother
        have hrefused := error_of_tokens hreading hfault hother file
        rw [hread.parse_lines hprogram hus] at hrefused
        cases hrefused
  · rw [← hreading.passes.current_eq_reading (Reader.shows_ofSource source)]
    rfl
  · rw [htokens, List.take_left]
    exact hreading.valid

/-- The fault of a reading is also that of every text that goes on behind that token and the end of
its line. -/
theorem error_of_isReadAs {source : String} {ts : List Token} {last : Reader} {n : Nat}
    {L : Language Module} {fault : Fault} {stop : Reader} {text : List Char}
    (hread : Parser.IsReading n L Parser.module (Reader.ofSource source) ts last)
    (hfault : Parser.module (Reader.ofSource source) = .error fault stop)
    (htext : IsReadAs text (ts ++ [last.current])) (file : String) (rest : List Char) :
    Module.parse file (String.ofList (text ++ '\n' :: rest)) = .error (.ofFault file fault) := by
  have htokens : tokensOf (String.ofList (text ++ '\n' :: rest)) =
      ts ++ last.current :: Cursor.tokens ⟨rest, Position.start.after (text ++ ['\n'])⟩ := by
    rw [tokensOf_ofList, htext.lineBreak, List.append_assoc, List.singleton_append]
  exact error_of_tokens hread hfault htokens file

/-- An error is reported at a token, and no program has that token there. -/
structure IsEarliest (file source : String) (e : SourceError) (front lexeme : List Char) :
    Prop where
  /-- The token is one of the source, or the end of the file. -/
  token : TokenAt source.toList front lexeme
  /-- The error stands where the token begins. -/
  place : Position.start.after front = e.pos
  /-- All that stands before the token is the beginning of a program. What is missing fits into a
  source whose places can be counted in 32 bits, unless the source is huge itself. -/
  completable : ∃ rest program,
    Module.parse file (String.ofList (front ++ '\n' :: rest)) = .ok program
      ∧ (source.length < 2 ^ 31 → (String.ofList (front ++ '\n' :: rest)).length < 2 ^ 32 - 1)
  /-- Whatever stands behind the token and the end of its line, the error is the same; but the file
  can go on at its end, and later text can close a string. -/
  stays : lexeme ≠ [] → IsClosed lexeme → ∀ rest,
    Module.parse file (String.ofList (front ++ lexeme ++ '\n' :: rest)) = .error e

/-- Errors are reported at the earliest token. Every source that `Module.parse` refuses has an error
at the place of one of its tokens, and the error `IsEarliest` there: what stands before the token
can be completed, and no program has that token in its place. No other `TokenAt` stands at the place
of the error. -/
theorem parse_error_earliest {file source : String} {e : SourceError}
    (h : Module.parse file source = .error e) :
    ∃ front lexeme, IsEarliest file source e front lexeme
      ∧ ∀ front' lexeme', TokenAt source.toList front' lexeme' →
          Position.start.after front' = e.pos → front' = front ∧ lexeme' = lexeme := by
  rw [Module.parse, Module.read] at h
  obtain ⟨ts, last, hread⟩ := Parser.reads_module.reading _ (Reader.isGenuine_ofSource source)
  have hexplains := hread.explains
  cases hmodule : Parser.module (Reader.ofSource source) with
  | ok program stop => simp [hmodule] at h
  | error fault stop =>
    rw [hmodule] at h hexplains
    obtain ⟨wanted, rfl, hmet, hgoes⟩ := hexplains
    obtain rfl := Except.error.inj h
    have htokens := hread.passes.pending_eq
    rw [Reader.pending_ofSource] at htokens
    have hcurrent : last.current =
        (tokensOf source)[ts.length]?.getD (Token.endAt (Position.start.after source.toList)) := by
      rw [hread.passes.current_eq_reading (Reader.shows_ofSource source), Cursor.reading_eq]
      rfl
    -- No consumed token is invalid, so all lexemes before the fault are closed.
    obtain ⟨front, lexeme, hat, hfront, hbehind⟩ := exists_tokenAt htokens hread.valid
    -- Reading stopped at the token behind those that were consumed.
    obtain ⟨hpos, hthrough⟩ : Position.start.after front = last.current.pos
        ∧ (lexeme ≠ [] → IsClosed lexeme → IsReadAs (front ++ lexeme) (ts ++ [last.current])) := by
      rw [hcurrent, htokens]
      rcases hbehind with ⟨hnone, rfl, rfl⟩ | ⟨t, vs, hsome, ht, hclosed⟩
      · simp [hnone, Token.endAt]
      · simpa [hsome, ht] using fun _ => hclosed
    refine ⟨front, lexeme, ⟨hat, hpos, ?_, fun hne hclosed rest => ?_⟩,
      fun front' lexeme' hat' hpos' => hat'.unique hat (hpos'.trans hpos.symm)⟩
    · obtain ⟨rest, program, hparse, hlength⟩ := exists_completion hfront hmet hgoes file
      refine ⟨rest, program, hparse, fun hsource => ?_⟩
      have hbound := hfront.length_le
      have hpart := ((List.prefix_append front lexeme).trans hat.isPrefix).length_le
      rw [String.length_toList] at hpart
      rw [String.length_ofList, List.length_append, List.length_cons]
      omega
    · exact error_of_isReadAs hread hmodule (hthrough hne hclosed) file rest

/-- A comma is missing between two arguments. -/
theorem parse_error_earliest_missing_comma :
    Module.parse "m" "module a;\nf(1 2);" =
        .error ⟨"expected `)`, found integer `2`", "m", ⟨2, 5⟩⟩
      ∧ ∃ front lexeme, IsEarliest "m" "module a;\nf(1 2);"
          ⟨"expected `)`, found integer `2`", "m", ⟨2, 5⟩⟩ front lexeme
        ∧ ∀ front' lexeme', TokenAt "module a;\nf(1 2);".toList front' lexeme' →
            Position.start.after front' = ⟨2, 5⟩ → front' = front ∧ lexeme' = lexeme := by
  have herror : Module.parse "m" "module a;\nf(1 2);" =
      .error ⟨"expected `)`, found integer `2`", "m", ⟨2, 5⟩⟩ := by cbv
  exact ⟨herror, parse_error_earliest herror⟩

end Modlet
