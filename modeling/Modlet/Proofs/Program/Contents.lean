import Modlet.Proofs.Program.Reading

/-!
# Programs are read from kinds and texts

Where the tokens of a source stand makes no difference to the parser. On two sources whose tokens
have the same kinds and texts it comes to the same program, or to faults with the same wording at
tokens with the same number.

* `Reader.Alike`: two windows show the same kinds and texts.
* `IsBlind`: a piece of the parser that does not see places.
* `Module.read_sameOutcome`: whole modules are read without seeing places.
-/

namespace Modlet

open Token

variable {α β : Type}

/-! ### Windows on the same kinds and texts -/

/-- The `pending` tokens have the same kinds and the same texts, wherever they stand. -/
def Reader.Alike (r s : Reader) : Prop := r.pending.map content = s.pending.map content

namespace Reader.Alike

variable {r s : Reader}

theorem size_eq (h : r.Alike s) : r.size = s.size := by
  simpa [size] using congrArg List.length h

/-- Both windows show a token, or none does: the two cases of `Alike`, with the windows behind in
the second. -/
theorem cases (h : r.Alike s) :
    (r.current.kind = .endOfFile ∧ s.current.kind = .endOfFile) ∨
      (r.current.kind ≠ .endOfFile ∧ r.current.content = s.current.content
        ∧ r.advance.Alike s.advance) := by
  by_cases hr : r.current.kind = .endOfFile
  · refine .inl ⟨hr, endOfFile_of_pending ?_⟩
    rw [Alike, pending_of_endOfFile hr] at h
    simpa using h.symm
  · by_cases hs : s.current.kind = .endOfFile
    · rw [Alike, pending_of_endOfFile hs, pending_eq_cons hr] at h
      cases h
    · rw [Alike, pending_eq_cons hr, pending_eq_cons hs, List.map_cons, List.map_cons,
        List.cons.injEq] at h
      exact .inr ⟨hr, h⟩

theorem kind_eq (h : r.Alike s) : r.current.kind = s.current.kind := by
  rcases h.cases with ⟨hr, hs⟩ | ⟨-, hcontent, -⟩
  · rw [hr, hs]
  · exact congrArg Prod.fst hcontent

/-- The end of the file needs no text. -/
theorem text_eq (h : r.Alike s) (hkind : r.current.kind ≠ .endOfFile) :
    r.current.text = s.current.text := by
  rcases h.cases with ⟨hr, -⟩ | ⟨-, hcontent, -⟩
  · exact absurd hr hkind
  · exact congrArg Prod.snd hcontent

theorem advance (h : r.Alike s) (hkind : r.current.kind ≠ .endOfFile) :
    r.advance.Alike s.advance := by
  rcases h.cases with ⟨hr, -⟩ | ⟨-, -, hadvance⟩
  · exact absurd hr hkind
  · exact hadvance

/-- Messages call both current tokens the same, as `describe` shows no place. -/
theorem describe_eq (h : r.Alike s) : r.current.describe = s.current.describe := by
  by_cases hkind : r.current.kind = .endOfFile
  · rw [describe, describe, ← h.kind_eq, hkind]
  · rw [describe, describe, h.kind_eq, h.text_eq hkind]

end Reader.Alike

/-! ### Pieces that do not see places -/

namespace Parser

/-- The same result, or faults with the same wording, and windows on the same kinds and texts. -/
inductive SameOutcome : Outcome α → Outcome α → Prop
  | ok (a : α) {r s : Reader} : r.Alike s → SameOutcome (.ok a r) (.ok a s)
  | error {fault fault' : Fault} {r s : Reader} : fault.message = fault'.message → r.Alike s →
      SameOutcome (.error fault r) (.error fault' s)

/-- Reading the piece comes to the `SameOutcome` wherever the tokens stand. -/
def IsBlind (p : Parser α) : Prop := ∀ r s : Reader, r.Alike s → SameOutcome (p r) (p s)

variable {p : Parser α} {q : α → Parser β} {r s : Reader}

/-- Two pieces in order come to the `SameOutcome` if the first does, and the second does behind
it. -/
theorem SameOutcome.bind (hp : SameOutcome (p r) (p s))
    (hq : ∀ a behind behind', p r = .ok a behind → behind.Alike behind' →
      SameOutcome (q a behind) (q a behind')) :
    SameOutcome ((p >>= q) r) ((p >>= q) s) := by
  generalize hr : p r = left at hp
  generalize hs : p s = right at hp
  cases hp with
  | ok a halike =>
    rw [bind_ok hr, bind_ok hs]
    exact hq a _ _ hr halike
  | error hmessage halike =>
    rw [bind_error hr, bind_error hs]
    exact .error hmessage halike

theorem IsBlind.bind (hp : IsBlind p) (hq : ∀ a, IsBlind (q a)) : IsBlind (p >>= q) :=
  fun r s h => (hp r s h).bind fun a _ _ _ => hq a _ _

theorem isBlind_pure (a : α) : IsBlind (pure a : Parser α) := fun _ _ h => .ok a h

/-- The wording that `refuse` leads to names the current token without its place. -/
theorem isBlind_refuse (wanted : Expectation) : IsBlind (refuse wanted : Parser α) := by
  intro r s h
  refine .error ?_ h
  rw [Fault.message_unexpected, Fault.message_unexpected, h.describe_eq]

/-- A piece behind a keyword or a mark that `expect` consumes, of which nothing is kept. -/
theorem SameOutcome.behind {kind : Kind} (h : r.Alike s)
    (hp : r.current.kind = kind → SameOutcome (p r.advance) (p s.advance)) :
    SameOutcome ((expect kind >>= fun _ => p) r) ((expect kind >>= fun _ => p) s) := by
  by_cases hr : r.current.kind = kind
  · have hs : s.current.kind = kind := h.kind_eq.symm.trans hr
    rw [bind_ok (a := r.current) (by rw [expect, if_pos hr]),
      bind_ok (a := s.current) (by rw [expect, if_pos hs])]
    exact hp hr
  · have hs : s.current.kind ≠ kind := h.kind_eq ▸ hr
    rw [bind_error (by rw [expect, if_neg hr]; rfl), bind_error (by rw [expect, if_neg hs]; rfl)]
    exact isBlind_refuse (α := α) (.token kind) r s h

theorem IsBlind.behind {kind : Kind} (hkind : kind ≠ .endOfFile) (hp : IsBlind p) :
    IsBlind (expect kind >>= fun _ => p) := by
  intro r s h
  refine .behind h fun hr => hp _ _ (h.advance ?_)
  rwa [hr]

/-! ### Single tokens -/

/-- The current token is consumed, and what `f` makes of it is told by its text. -/
theorem SameOutcome.consumed (h : r.Alike s) (hend : r.current.kind ≠ .endOfFile) (f : String → α) :
    SameOutcome (.ok (f r.current.text) r.advance) (.ok (f s.current.text) s.advance) := by
  rw [h.text_eq hend]
  exact .ok _ (h.advance hend)

theorem isBlind_identifier : IsBlind identifier := by
  intro r s h
  by_cases hr : r.current.kind = .identifier
  · have hs : s.current.kind = .identifier := h.kind_eq.symm.trans hr
    rw [identifier, bind_ok (a := r.current) (by rw [expect, if_pos hr]),
      bind_ok (a := s.current) (by rw [expect, if_pos hs])]
    exact .consumed h (by simp [hr]) id
  · have hs : s.current.kind ≠ .identifier := h.kind_eq ▸ hr
    rw [identifier, bind_error (by rw [expect, if_neg hr]; rfl),
      bind_error (by rw [expect, if_neg hs]; rfl)]
    exact isBlind_refuse (α := String) (.token .identifier) r s h

theorem isBlind_typeName : IsBlind typeName := by
  intro r s h
  rw [typeName, typeName, ← h.kind_eq]
  split
  · next hkind => exact .consumed h (by simp [hkind]) id
  · exact isBlind_refuse .type r s h

theorem isBlind_expression : IsBlind expression := by
  intro r s h
  rw [expression, expression, ← h.kind_eq]
  split
  · next hkind =>
    have hend : r.current.kind ≠ .endOfFile := by simp [hkind]
    -- Whether the integer is in range is told by its text.
    rw [← h.text_eq hend]
    split
    · exact .ok _ (h.advance hend)
    · refine .error ?_ (h.advance hend)
      rw [Fault.message_integerOutOfRange, Fault.message_integerOutOfRange, h.text_eq hend]
  · next hkind => exact .consumed h (by simp [hkind]) Expr.string
  · next hkind => exact .consumed h (by simp [hkind]) Expr.variable
  · exact isBlind_refuse .expression r s h

theorem isBlind_parameter : IsBlind parameter :=
  isBlind_identifier.bind fun _ => .behind (by decide) <| isBlind_typeName.bind fun _ =>
    isBlind_pure _

/-! ### Lists -/

/-- A list of `items` is read without seeing places if one item is. -/
theorem isBlind_items {item : Parser α} (keeps : Keeps item) (hitem : IsBlind item) :
    IsBlind (items item keeps) := by
  intro r s h
  -- The induction is on what is left to be consumed: behind an item a comma comes before others.
  induction hsize : r.size using Nat.strong_induction_on generalizing r s with
  | _ size ih =>
  subst hsize
  rw [items_eq, items_eq, ← h.kind_eq]
  split_ifs with hclosing
  · exact .ok [] h
  · refine (hitem r s h).bind fun first behind behind' hok halike => ?_
    rw [itemsBehind, itemsBehind, ← halike.kind_eq]
    split_ifs with hcomma
    · have hend : behind.current.kind ≠ .endOfFile := by simp [hcomma]
      have hkept := keeps r
      rw [hok] at hkept
      have hless := Nat.lt_of_lt_of_le (Reader.size_advance_lt hend) hkept
      refine .behind halike fun _ => ?_
      refine (ih _ hless _ _ (halike.advance hend) rfl).bind fun others _ _ _ => isBlind_pure _ _ _
    · exact .ok [first] halike

theorem isBlind_parenthesized {item : Parser α} (keeps : Keeps item) (hitem : IsBlind item) :
    IsBlind (parenthesized item keeps) :=
  .behind (by decide) <| (isBlind_items keeps hitem).bind fun _ =>
    .behind (by decide) <| isBlind_pure _

/-! ### Statements -/

theorem isBlind_constant : IsBlind constant :=
  .behind (by decide) <| isBlind_identifier.bind fun _ => .behind (by decide) <|
    isBlind_typeName.bind fun _ => .behind (by decide) <| isBlind_expression.bind fun _ =>
      .behind (by decide) <| isBlind_pure _

theorem isBlind_call : IsBlind call :=
  isBlind_identifier.bind fun _ => (isBlind_parenthesized _ isBlind_expression).bind fun _ =>
    .behind (by decide) <| isBlind_pure _

theorem isBlind_header : IsBlind header :=
  .behind (by decide) <| isBlind_identifier.bind fun _ =>
    (isBlind_parenthesized _ isBlind_parameter).bind fun _ => .behind (by decide) <|
      isBlind_typeName.bind fun _ => .behind (by decide) <| isBlind_pure _

/-- A statement is read without seeing places if the `statements` of a body are. -/
theorem SameOutcome.statement (h : r.Alike s)
    (hbody : ∀ behind behind' : Reader, behind.size < r.size → behind.Alike behind' →
      SameOutcome (statements true behind) (statements true behind')) :
    SameOutcome (statement r) (statement s) := by
  rw [statement_eq, statement_eq, ← h.kind_eq]
  split_ifs
  · exact isBlind_constant r s h
  · exact isBlind_call r s h
  · refine (isBlind_header r s h).bind fun head behind behind' hok halike => ?_
    have hless := consumes_header r
    rw [hok] at hless
    refine (hbody behind behind' hless halike).bind fun body _ _ _ halike => ?_
    exact IsBlind.behind (by decide) (isBlind_pure _) _ _ halike
  · exact isBlind_refuse .statement r s h

theorem isBlind_statements (inside : Bool) : IsBlind (statements inside) := by
  intro r s h
  -- The induction is on what is left to be consumed, which is less in the body of a function and
  -- behind the first statement.
  induction hsize : r.size using Nat.strong_induction_on generalizing r s inside with
  | _ size ih =>
  subst hsize
  rw [statements_eq, statements_eq, ← h.kind_eq]
  split_ifs
  · exact .ok [] h
  · have hfirst : SameOutcome (statement r) (statement s) :=
      .statement h fun behind behind' hless halike => ih _ hless true behind behind' halike rfl
    refine hfirst.bind fun first behind behind' hok halike => ?_
    have hless := consumes_statement r
    rw [hok] at hless
    exact (ih _ hless inside behind behind' halike rfl).bind fun _ _ _ _ => isBlind_pure _ _ _

theorem isBlind_module : IsBlind module :=
  .behind (by decide) <| isBlind_identifier.bind fun _ => .behind (by decide) <|
    (isBlind_statements false).bind fun _ => isBlind_pure _

end Parser

/-! ### Sources -/

/-- Sources whose tokens have the same kinds and texts come to the `SameOutcome` in
`Module.read`. -/
theorem Module.read_sameOutcome {source source' : String}
    (h : (tokensOf source).map content = (tokensOf source').map content) :
    Parser.SameOutcome (read source) (read source') := by
  refine Parser.isBlind_module _ _ ?_
  rw [Reader.Alike, Reader.pending_ofSource, Reader.pending_ofSource]
  exact h

/-- A fault of `Module.read` is found at the token of the source in front of what is left to be
consumed, which has a number among the readings. -/
theorem Module.exists_reading_of_fault {source : String} {fault : Fault} {stop : Reader}
    (h : read source = .error fault stop) :
    ∃ i, i + stop.size = (tokensOf source).length
      ∧ fault.token = (Cursor.ofSource source).reading i := by
  obtain ⟨ts, last, hread, ⟨program, hok, -⟩ | ⟨wanted, hfault, -⟩⟩ := read_cases source
  · cases h.symm.trans hok
  · cases h.symm.trans hfault
    refine ⟨ts.length, ?_, hread.passes.current_eq_reading (Reader.shows_ofSource source)⟩
    rw [← Reader.pending_ofSource, hread.passes.pending_eq, List.length_append, Reader.size]

end Modlet
