import Modlet.Program.Grammar
import Modlet.Program.Parser
import Modlet.Proofs.Token.Stream

/-!
# What reading a piece of a program comes to

One statement is proved of every piece of the parser, from single tokens up to whole modules.
Reading a piece consumes some tokens, none of them invalid, and stops behind them. If it succeeds,
these tokens spell the result. If it fails, they can go on with every token that the fault names as
wanted, to something that spells a result; and what is missing then is short. In both cases the
outcome depends on the consumed tokens and on the one behind them alone.

* `Language`: which tokens spell which results.
* `Expectation.Admits`: the tokens that an expectation names.
* `IsReading`: the statement, for a piece, the reader before it, the tokens and the reader behind.
* `HasReading.bind`: the statement holds of two pieces in order if it holds of both.
* `reads_module`: it holds of whole modules.
* `Module.read_cases`: what reading a source comes to.
-/

namespace Modlet

open Token

variable {α β : Type}

/-! ### Expectations -/

/-- The tokens that an expectation names, as they can be written (`IsWritten`). -/
def Expectation.Admits : Expectation → Content → Prop
  | .token kind, t => t.1 = kind ∧ IsWritten t
  | .statement, t =>
    (t.1 = .keyword .let ∨ t.1 = .keyword .fn ∨ t.1 = .identifier) ∧ IsWritten t
  | .expression, t => (t.1 = .integer ∨ t.1 = .string ∨ t.1 = .identifier) ∧ IsWritten t
  | .type, t => t.1 = .identifier ∧ IsWritten t

/-- An expectation that `Admits` some token, and a short one. -/
def Expectation.CanBeMet (wanted : Expectation) : Prop :=
  ∃ t, wanted.Admits t ∧ (spelled t).length ≤ 6

/-- The number of characters of tokens that are written with the end of a line behind each, as in
`lines`. -/
def Token.weight (ts : List Content) : Nat := (ts.map fun t => (spelled t).length + 1).sum

@[simp]
theorem Token.weight_nil : weight [] = 0 := rfl

@[simp]
theorem Token.weight_cons (t : Content) (ts : List Content) :
    weight (t :: ts) = (spelled t).length + 1 + weight ts := rfl

@[simp]
theorem Token.weight_append (ts us : List Content) : weight (ts ++ us) = weight ts + weight us := by
  simp [weight]

/-- A short name can be written. -/
theorem isWritten_x : IsWritten (Grammar.name "x") := ⟨'x', [], by decide⟩

/-! ### Languages -/

/-- Which tokens spell which results. -/
abbrev Language (α : Type) := List Content → α → Prop

namespace Language

/-- What is spelled by nothing. -/
def empty (a : α) : Language α := fun ts b => ts = [] ∧ b = a

/-- What is spelled by a keyword or a mark. -/
def fixed (kind : Kind) : Language Token := fun ts _ => ts = [kind.fixed]

/-- What is spelled by a name. -/
def named : Language String := fun ts text => ts = [Grammar.name text]

/-- What is spelled by two pieces in order. -/
def seq (L : Language α) (M : α → Language β) : Language β :=
  fun ts b => ∃ us vs a, ts = us ++ vs ∧ L us a ∧ M a vs b

/-- Something is spelled by tokens whose `weight` is at most `n`. -/
def IsShort (n : Nat) (L : Language α) : Prop :=
  ∃ ts a, L ts a ∧ weight ts ≤ n ∧ ∀ t ∈ ts, IsWritten t

/-- Behind `ts` every token that is wanted can follow, and what is missing behind that one has a
`weight` of at most `n` more than half of the number of tokens before it. -/
def GoesOn (n : Nat) (L : Language α) (ts : List Content) (wanted : Expectation) : Prop :=
  ∀ u, wanted.Admits u → ∃ us a, L (ts ++ u :: us) a
    ∧ 2 * weight us ≤ ts.length + 2 * n ∧ ∀ t ∈ us, IsWritten t

theorem isShort_empty (a : α) : IsShort 0 (empty a) := ⟨[], a, ⟨rfl, rfl⟩, by simp, by simp⟩

theorem isShort_named : IsShort 2 named :=
  ⟨[Grammar.name "x"], "x", rfl, by decide, by simpa using isWritten_x⟩

/-- Two pieces in order are short if both are: the bounds of `IsShort` add up. -/
theorem IsShort.seq {n m : Nat} {L : Language α} {M : α → Language β} (hL : L.IsShort n)
    (hM : ∀ a, (M a).IsShort m) : (L.seq M).IsShort (n + m) := by
  obtain ⟨us, a, hus, hn, husWritten⟩ := hL
  obtain ⟨vs, b, hvs, hm, hvsWritten⟩ := hM a
  refine ⟨us ++ vs, b, ⟨us, vs, a, rfl, hus, hvs⟩, ?_, ?_⟩
  · rw [weight_append]
    exact Nat.add_le_add hn hm
  · intro t ht
    rcases List.mem_append.mp ht with ht | ht
    · exact husWritten t ht
    · exact hvsWritten t ht

/-- What goes on to a first piece goes on to both, since the second `IsShort`. -/
theorem GoesOn.seq_left {n m N : Nat} {L : Language α} {M : α → Language β} {ts : List Content}
    {wanted : Expectation} (h : L.GoesOn n ts wanted) (hM : ∀ a, (M a).IsShort m)
    (hN : n + m ≤ N) : (L.seq M).GoesOn N ts wanted := by
  intro u hu
  obtain ⟨us, a, hus, hlength, husWritten⟩ := h u hu
  obtain ⟨vs, b, hvs, hm, hvsWritten⟩ := hM a
  refine ⟨us ++ vs, b, ⟨ts ++ u :: us, vs, a, by simp, hus, hvs⟩, ?_, ?_⟩
  · rw [weight_append]
    omega
  · intro t ht
    rcases List.mem_append.mp ht with ht | ht
    · exact husWritten t ht
    · exact hvsWritten t ht

/-- What goes on to a second piece goes on behind a first one. -/
theorem GoesOn.seq_right {k N : Nat} {L : Language α} {M : α → Language β} {ts us : List Content}
    {a : α} {wanted : Expectation} (hfirst : L ts a) (h : (M a).GoesOn k us wanted)
    (hN : 2 * k ≤ ts.length + 2 * N) : (L.seq M).GoesOn N (ts ++ us) wanted := by
  intro u hu
  obtain ⟨vs, b, hvs, hlength, hvsWritten⟩ := h u hu
  refine ⟨vs, b, ⟨ts, us ++ u :: vs, a, by simp, hfirst, hvs⟩, ?_, hvsWritten⟩
  rw [List.length_append]
  omega

end Language

/-! ### Readings -/

namespace Parser

/-- The same `Outcome` at another reader. -/
def standingAt (r : Reader) : Outcome α → Outcome α
  | .ok a _ => .ok a r
  | .error fault _ => .error fault r

/-- What an outcome says about the tokens `ts` that were consumed: they spell the result, or the
language `GoesOn` with what was wanted. -/
def Explains (n : Nat) (L : Language α) (ts : List Content) (last : Reader) : Outcome α → Prop
  | .ok a _ => L ts a
  | .error fault _ => ∃ wanted : Expectation,
      fault = .unexpected wanted last.current ∧ wanted.CanBeMet ∧ L.GoesOn n ts wanted

/-- Reading a piece from `r` on consumes the tokens `ts` and stops at `last`. The outcome `Explains`
itself by them, and every other reader at which they pass comes to the same. -/
structure IsReading (n : Nat) (L : Language α) (p : Parser α) (r : Reader) (ts : List Token)
    (last : Reader) : Prop where
  /-- The tokens are consumed. -/
  passes : r.Passes ts last
  /-- None of them is invalid. -/
  valid : ∀ t ∈ ts, t.kind ≠ .invalid
  /-- They spell the result, or they can go on with what is wanted. -/
  explains : Explains n L (ts.map content) last (p r)
  /-- Where the same tokens pass and the same token stands behind them, the outcome is the same. -/
  repeats : ∀ s stop : Reader, s.Passes ts stop → stop.current = last.current →
    p s = standingAt stop (p r)

/-- There is an `IsReading` from `r` on. -/
def HasReading (n : Nat) (L : Language α) (p : Parser α) (r : Reader) : Prop :=
  ∃ ts last, IsReading n L p r ts last

/-- There is an `IsReading` on every source, and what the piece is made of can be short. -/
structure Reads (n : Nat) (L : Language α) (p : Parser α) : Prop where
  /-- Something is spelled with few characters. -/
  short : L.IsShort n
  /-- There is a reading from every reader on. -/
  reading : ∀ r : Reader, r.IsGenuine → HasReading n L p r

variable {n m k N : Nat} {L L' : Language α} {M : α → Language β} {p : Parser α} {q : α → Parser β}
  {r last : Reader} {ts : List Token}

/-- Reading stops behind the tokens that it consumes, at `last`. -/
theorem IsReading.outcome_eq (h : IsReading n L p r ts last) : p r = standingAt last (p r) :=
  h.repeats r last h.passes rfl

/-- An `IsReading` for a language is one for a larger language. -/
theorem HasReading.mono (h : HasReading n L p r) (hn : n ≤ N) (hL : ∀ ts a, L ts a → L' ts a) :
    HasReading N L' p r := by
  obtain ⟨ts, last, hpasses, hvalid, hexplains, hrepeats⟩ := h
  refine ⟨ts, last, hpasses, hvalid, ?_, hrepeats⟩
  cases hp : p r with
  | ok a behind =>
    rw [hp] at hexplains
    exact hL _ a hexplains
  | error fault stop =>
    rw [hp] at hexplains
    obtain ⟨wanted, hfault, hmet, hgoes⟩ := hexplains
    refine ⟨wanted, hfault, hmet, fun u hu => ?_⟩
    obtain ⟨us, a, hus, hlength, hwritten⟩ := hgoes u hu
    exact ⟨us, a, hL _ a hus, by omega, hwritten⟩

/-- A piece that `Reads` a language reads a larger language. -/
theorem Reads.mono (h : Reads n L p) (hn : n ≤ N) (hL : ∀ ts a, L ts a → L' ts a) :
    Reads N L' p where
  short := by
    obtain ⟨ts, a, hts, hweight, hwritten⟩ := h.short
    exact ⟨ts, a, hL ts a hts, Nat.le_trans hweight hn, hwritten⟩
  reading r hr := (h.reading r hr).mono hn hL

/-- What a piece comes to depends on the current token, so only pieces that agree there matter for
`HasReading`. -/
theorem HasReading.congr {p' : Parser α} (h : HasReading n L p' r)
    (hp : ∀ s : Reader, s.current = r.current → p s = p' s) : HasReading n L p r := by
  obtain ⟨ts, last, hpasses, hvalid, hexplains, hrepeats⟩ := h
  refine ⟨ts, last, hpasses, hvalid, ?_, fun s stop hs hcurrent => ?_⟩
  · rw [hp r rfl]
    exact hexplains
  · rw [hp s (hpasses.current_eq hs hcurrent), hp r rfl]
    exact hrepeats s stop hs hcurrent

theorem bind_ok {a : α} {behind : Reader} (h : p r = .ok a behind) : (p >>= q) r = q a behind := by
  simp [Bind.bind, EStateM.bind, h]

theorem bind_error {fault : Fault} {stop : Reader} (h : p r = .error fault stop) :
    (p >>= q) r = .error fault stop := by
  simp [Bind.bind, EStateM.bind, h]

/-- Two pieces in order succeed only if both do, with a reader between them. -/
theorem exists_of_bind_ok {b : β} (h : (p >>= q) r = .ok b last) :
    ∃ a behind, p r = .ok a behind ∧ q a behind = .ok b last := by
  cases hp : p r with
  | ok a behind => exact ⟨a, behind, rfl, by rwa [bind_ok hp] at h⟩
  | error fault stop => simp [bind_error hp] at h

/-- Reading two pieces in order. When the second is at fault, what the first consumed may make up
for what is missing behind it. -/
theorem HasReading.bind (hp : HasReading n L p r) (hM : ∀ a, (M a).IsShort m)
    (hq : ∀ a ts behind, r.Passes ts behind → p r = .ok a behind → HasReading k (M a) (q a) behind)
    (hn : n + m ≤ N) (hk : ∀ ts a, L ts a → 2 * k ≤ ts.length + 2 * N) :
    HasReading N (L.seq M) (p >>= q) r := by
  obtain ⟨ts, mid, hfirst⟩ := hp
  have hstop := hfirst.outcome_eq
  have hexplains := hfirst.explains
  cases hpr : p r with
  | error fault stop =>
    -- The second piece is not looked at. Behind what the first one wants it can be short.
    rw [hpr] at hexplains hstop
    obtain ⟨wanted, hfault, hmet, hgoes⟩ := hexplains
    refine ⟨ts, mid, hfirst.passes, hfirst.valid, ?_, fun s stop' hs hcurrent => ?_⟩
    · rw [bind_error hpr]
      exact ⟨wanted, hfault, hmet, hgoes.seq_left hM hn⟩
    · have hps := hfirst.repeats s stop' hs hcurrent
      rw [hpr] at hps
      rw [bind_error hps, bind_error hpr, standingAt]
  | ok a behind =>
    rw [hpr] at hexplains hstop
    -- The second piece is read from where the first one stopped.
    obtain rfl : behind = mid := by simpa [standingAt] using hstop
    obtain ⟨us, last, hsecond⟩ := hq a ts behind hfirst.passes hpr
    refine ⟨ts ++ us, last, hfirst.passes.trans hsecond.passes, ?_, ?_,
      fun s stop hs hcurrent => ?_⟩
    · intro t ht
      rcases List.mem_append.mp ht with ht | ht
      · exact hfirst.valid t ht
      · exact hsecond.valid t ht
    · have hrest := hsecond.explains
      rw [bind_ok hpr, List.map_append]
      cases hqa : q a behind with
      | ok b _ =>
        rw [hqa] at hrest
        exact ⟨_, _, a, rfl, hexplains, hrest⟩
      | error fault _ =>
        rw [hqa] at hrest
        obtain ⟨wanted, hfault, hmet, hgoes⟩ := hrest
        exact ⟨wanted, hfault, hmet, hgoes.seq_right hexplains (hk _ a hexplains)⟩
    · -- On the other source both pieces meet the same token, the first one behind its tokens and
      -- the second one behind its own.
      obtain ⟨between, hbefore, hbehind⟩ := hs.exists_mid
      have hsame := hsecond.passes.current_eq hbehind hcurrent
      have hps := hfirst.repeats s between hbefore hsame
      rw [hpr] at hps
      rw [bind_ok hps, bind_ok hpr]
      exact hsecond.repeats between stop hbehind hcurrent

/-- Behind a piece that is read here comes one that is read everywhere. -/
theorem HasReading.andThen (hp : HasReading n L p r) (hr : r.IsGenuine)
    (hq : ∀ a, Reads m (M a) (q a)) : HasReading (n + m) (L.seq M) (p >>= q) r := by
  refine hp.bind (k := m) (fun a => (hq a).short) ?_ (Nat.le_refl (n + m)) fun _ _ _ => by omega
  intro a _ behind hpasses _
  exact (hq a).reading behind (hpasses.isGenuine hr)

/-- Two pieces in order are read if both are: `Reads` passes to the sequence of their languages. -/
theorem Reads.bind (hp : Reads n L p) (hq : ∀ a, Reads m (M a) (q a)) :
    Reads (n + m) (L.seq M) (p >>= q) where
  short := hp.short.seq fun a => (hq a).short
  reading r hr := (hp.reading r hr).andThen hr hq

/-! ### Single tokens -/

/-- The current token is refused, as by `Parser.refuse`. -/
theorem HasReading.refuse (wanted : Expectation) (hmet : wanted.CanBeMet)
    (hgoes : L.GoesOn n [] wanted)
    (hp : ∀ s : Reader, s.current = r.current → p s = Parser.refuse wanted s) :
    HasReading n L p r := by
  refine ⟨[], r, .refl r, by simp, ?_, fun s stop hs hcurrent => ?_⟩
  · rw [hp r rfl]
    exact ⟨wanted, rfl, hmet, hgoes⟩
  · cases hs
    rw [hp s hcurrent, hp r rfl, Parser.refuse, Parser.refuse, standingAt, hcurrent]

/-- The current token is consumed, and it alone spells the result. -/
theorem HasReading.single {a : α} (hend : r.current.kind ≠ .endOfFile)
    (hvalid : r.current.kind ≠ .invalid) (hL : L [r.current.content] a)
    (hp : ∀ s : Reader, s.current = r.current → p s = .ok a s.advance) :
    HasReading n L p r := by
  refine ⟨[r.current], r.advance, .single hend, by simpa using hvalid, ?_,
    fun s stop hs hcurrent => ?_⟩
  · rw [hp r rfl]
    exact hL
  · obtain ⟨hsame, rfl⟩ := hs.of_single
    rw [hp s hsame, hp r rfl, standingAt]

theorem reads_pure (a : α) : Reads 0 (Language.empty a) (pure a : Parser α) where
  short := Language.isShort_empty a
  reading r _ := ⟨[], r, .refl r, by simp, ⟨rfl, rfl⟩, fun s stop hs _ => by cases hs; rfl⟩

/-- A keyword or a mark is read by `expect`. -/
theorem reads_fixed {kind : Token.Kind} (hfixed : kind.isFixed = true) :
    Reads (weight [kind.fixed]) (Language.fixed kind) (expect kind) := by
  have hwritten := isWritten_fixed hfixed
  refine ⟨⟨[kind.fixed], default, rfl, Nat.le_refl _, by simpa using hwritten⟩, fun r hr => ?_⟩
  have hend : kind ≠ .endOfFile := by rintro rfl; cases hfixed
  have hvalid : kind ≠ .invalid := by rintro rfl; cases hfixed
  by_cases hkind : r.current.kind = kind
  · -- The current token can be written, and in this kind there is only one way to do so.
    have hcontent : r.current.content = kind.fixed := by
      subst hkind
      exact (isWritten_iff_of_isFixed hfixed).mp ((hr.current hend).resolve_left hvalid)
    refine .single (a := r.current) (hkind ▸ hend) (hkind ▸ hvalid) (by rw [hcontent]; rfl)
      fun s hs => ?_
    simp [expect, hs, hkind]
  · -- In the place of any other token the one that is wanted could stand, and nothing is missing
    -- then.
    refine .refuse (.token kind) ⟨kind.fixed, ⟨rfl, hwritten⟩,
      length_spelled_fixed hfixed⟩ ?_ fun s hs => ?_
    · rintro u ⟨rfl, hu⟩
      rw [(isWritten_iff_of_isFixed hfixed).mp hu]
      exact ⟨[], default, rfl, by simp, by simp⟩
    · simp [expect, hs, hkind]

/-- An identifier is read by `identifier`. -/
theorem reads_identifier : Reads 2 Language.named identifier := by
  refine ⟨Language.isShort_named, fun r _ => ?_⟩
  by_cases hkind : r.current.kind = .identifier
  · refine .single (a := r.current.text) (by simp [hkind]) (by simp [hkind]) ?_ fun s hs => ?_
    · simp [Language.named, Grammar.name, content, hkind]
    · simp [identifier, expect, Bind.bind, EStateM.bind, pure, EStateM.pure, hs, hkind]
  · refine .refuse (.token .identifier) ⟨_, ⟨rfl, isWritten_x⟩, by decide⟩ ?_ fun s hs => ?_
    · rintro ⟨_, text⟩ ⟨rfl, -⟩
      exact ⟨[], text, rfl, by simp, by simp⟩
    · simp [identifier, expect, Bind.bind, EStateM.bind, hs, hkind, Parser.refuse]

/-- The name of a type is read by `typeName`, which reports its own expectation. -/
theorem reads_typeName : Reads 2 Language.named typeName := by
  refine ⟨Language.isShort_named, fun r _ => ?_⟩
  by_cases hkind : r.current.kind = .identifier
  · refine .single (a := r.current.text) (by simp [hkind]) (by simp [hkind]) ?_ fun s hs => ?_
    · simp [Language.named, Grammar.name, content, hkind]
    · simp [typeName, hs, hkind]
  · refine .refuse .type ⟨_, ⟨rfl, isWritten_x⟩, by decide⟩ ?_ fun s hs => ?_
    · rintro ⟨_, text⟩ ⟨rfl, -⟩
      exact ⟨[], text, rfl, by simp, by simp⟩
    · simp [typeName, hs]

/-- Every token that is wanted as a value is one: `Grammar.Value` goes on from nothing. -/
theorem goesOn_value (n : Nat) : Language.GoesOn n Grammar.Value [] .expression := by
  rintro ⟨_, text⟩ ⟨rfl | rfl | rfl, hwritten⟩
  · obtain ⟨value, hvalue⟩ := Option.isSome_iff_exists.mp hwritten
    exact ⟨[], _, .integer hvalue, by simp, by simp⟩
  · exact ⟨[], _, .string text, by simp, by simp⟩
  · exact ⟨[], _, .variable text, by simp, by simp⟩

/-- A value is read by `expression`. -/
theorem reads_expression : Reads 2 Grammar.Value expression := by
  refine ⟨⟨_, _, .variable "x", by decide, by simpa using isWritten_x⟩, fun r hr => ?_⟩
  cases hkind : r.current.kind with
  | integer =>
    -- An integer that was read is in range, so here its numeral has a value again.
    have hwritten := (hr.current (by simp [hkind])).resolve_left (by simp [hkind])
    rw [content, hkind] at hwritten
    obtain ⟨value, hvalue⟩ := Option.isSome_iff_exists.mp hwritten
    refine .single (a := .integer value) (by simp [hkind]) (by simp [hkind]) ?_ fun s hs => ?_
    · rw [content, hkind]
      exact .integer hvalue
    · simp only at hvalue
      simp [expression, hs, hkind, hvalue]
  | string =>
    refine .single (a := .string r.current.text) (by simp [hkind]) (by simp [hkind]) ?_
      fun s hs => ?_
    · rw [content, hkind]
      exact .string _
    · simp [expression, hs, hkind]
  | identifier =>
    refine .single (a := .variable r.current.text) (by simp [hkind]) (by simp [hkind]) ?_
      fun s hs => ?_
    · rw [content, hkind]
      exact .variable _
    · simp [expression, hs, hkind]
  | _ =>
    refine .refuse .expression ⟨_, ⟨.inr (.inr rfl), isWritten_x⟩, by decide⟩ (goesOn_value 2)
      fun s hs => ?_
    simp [expression, hs, hkind]

/-- A parameter is read by `parameter`. -/
theorem reads_parameter : Reads 6 Grammar.Parameter parameter := by
  have hreads : Reads _ _ parameter :=
    reads_identifier.bind fun name => (reads_fixed rfl).bind fun _ =>
      reads_typeName.bind fun type => reads_pure (Param.mk name type)
  refine hreads.mono (by decide) ?_
  rintro _ _ ⟨_, _, name, rfl, rfl, _, _, _, rfl, rfl, _, _, type, rfl, rfl, rfl, rfl⟩
  exact .mk name type

/-! ### Lists -/

section Items

variable {item : Parser α} (keeps : Keeps item)

/-- What stands behind an item: nothing more, or a comma and further items. -/
def itemsBehind (first : α) : Parser (List α) := fun r =>
  if r.current.kind = .comma then
    (do
      let _ ← expect .comma
      let others ← items item keeps
      return first :: others : Parser (List α)) r
  else .ok [first] r

/-- A list of `items` is nothing, or an item and what `itemsBehind` reads. -/
theorem items_eq (r : Reader) :
    items item keeps r =
      if r.current.kind = .rightParen then .ok [] r else (item >>= itemsBehind keeps) r := by
  rw [items]
  -- Both sides go through the same cases, `items` with the proof that its recursion needs.
  split_ifs with hclosing
  · rfl
  · split
    · next hitem => rw [bind_error hitem]
    · next first behind hitem =>
      rw [bind_ok hitem, itemsBehind]
      split_ifs with hcomma
      · rw [bind_ok (show expect .comma behind = .ok behind.current behind.advance by
          rw [expect, if_pos hcomma])]
        cases hothers : items item keeps behind.advance with
        | error fault stop => rw [bind_error hothers]
        | ok others last => rw [bind_ok hothers]; rfl
      · rfl

/-- What can stand behind an item in a list, which is what `itemsBehind` reads. -/
def tailLanguage (Item : Language α) (first : α) : Language (List α) := fun ts list =>
  (ts = [] ∧ list = [first]) ∨
    ∃ us others, ts = Kind.comma.fixed :: us ∧ list = first :: others ∧ Grammar.Items Item us others

/-- Further items are read behind a comma, if `items` are read there. -/
theorem HasReading.itemsBehind {Item : Language α} {first : α} (hn : 2 ≤ n) (hr : r.IsGenuine)
    (h : ∀ behind : Reader, behind.size < r.size → behind.IsGenuine →
      HasReading n (Grammar.Items Item) (items item keeps) behind) :
    HasReading n (tailLanguage Item first) (itemsBehind keeps first) r := by
  by_cases hcomma : r.current.kind = .comma
  · have hfirst : HasReading 2 (Language.fixed .comma) (expect .comma) r :=
      (@reads_fixed .comma rfl).reading r hr
    -- Behind the comma less is left, so items are read there.
    have hrest : ∀ behind : Reader, behind.size < r.size → behind.IsGenuine →
        HasReading n
          (Language.seq (Grammar.Items Item) fun others => Language.empty (first :: others))
          (items item keeps >>= fun others => pure (first :: others)) behind :=
      fun behind hless hbehind => (h behind hless hbehind).andThen hbehind fun _ => reads_pure _
    have hmore := hfirst.bind (N := n)
      (fun _ => ⟨[], [first], ⟨[], [], [], rfl, .none, rfl, rfl⟩, Nat.le_refl 0, by simp⟩)
      (fun _ _ behind hpasses hok => hrest behind
        (by have hless := @consumes_expect .comma (by decide) r; rwa [hok] at hless)
        (hpasses.isGenuine hr))
      hn (fun _ _ _ => by omega)
    refine (hmore.mono (Nat.le_refl n) ?_).congr fun s hs => ?_
    · rintro _ _ ⟨_, _, _, rfl, rfl, us, _, others, rfl, hus, rfl, rfl⟩
      exact .inr ⟨us, others, by simp, rfl, hus⟩
    · rw [Parser.itemsBehind, hs, if_pos hcomma]
  · -- Without a comma nothing is consumed, and the list has one item.
    have hnone := (reads_pure [first]).reading r hr
    refine (hnone.mono (Nat.zero_le n) ?_).congr fun s hs => ?_
    · rintro _ _ ⟨rfl, rfl⟩
      exact .inl ⟨rfl, rfl⟩
    · rw [Parser.itemsBehind, hs, if_neg hcomma]
      rfl

/-- A list of `items` is read, by induction on the `Reader.size`. -/
theorem reads_items {Item : Language α} (hn : 2 ≤ n) (hitem : Reads n Item item) :
    Reads n (Grammar.Items Item) (items item keeps) := by
  refine ⟨⟨[], [], .none, by simp, by simp⟩, fun r hr => ?_⟩
  -- The induction is on what is left to be consumed: behind an item a comma comes before others.
  induction hsize : r.size using Nat.strong_induction_on generalizing r with
  | _ size ih =>
  subst hsize
  by_cases hclosing : r.current.kind = .rightParen
  · have hnone := (reads_pure ([] : List α)).reading r hr
    refine (hnone.mono (Nat.zero_le n) ?_).congr fun s hs => ?_
    · rintro _ _ ⟨rfl, rfl⟩
      exact .none
    · rw [items_eq, hs, if_pos hclosing]
      rfl
  · have hbehind : ∀ first ts behind, r.Passes ts behind → item r = .ok first behind →
        HasReading n (tailLanguage Item first) (itemsBehind keeps first) behind := by
      intro first ts behind hpasses hok
      refine .itemsBehind keeps hn (hpasses.isGenuine hr) fun last hless hlast => ?_
      have hkept := keeps r
      rw [hok] at hkept
      exact ih last.size (Nat.lt_of_lt_of_le hless hkept) last hlast rfl
    have hsome : HasReading n (Language.seq Item (tailLanguage Item))
        (item >>= itemsBehind keeps) r :=
      (hitem.reading r hr).bind
        (fun first => ⟨[], [first], .inl ⟨rfl, rfl⟩, Nat.le_refl 0, by simp⟩) hbehind
        (Nat.le_refl n) (fun _ _ _ => by omega)
    refine (hsome.mono (Nat.le_refl n) ?_).congr fun s hs => ?_
    · rintro _ _ ⟨us, _, first, rfl, hus, ⟨rfl, rfl⟩ | ⟨vs, others, rfl, rfl, hvs⟩⟩
      · simpa using Grammar.Items.last hus
      · exact .more hus hvs
    · rw [items_eq, hs, if_neg hclosing]

end Items

/-- What is spelled by a list of `Grammar.Items` in parentheses. -/
def listLanguage (Item : Language α) : Language (List α) := fun ts list =>
  ∃ us, ts = Kind.leftParen.fixed :: us ++ [Kind.rightParen.fixed] ∧ Grammar.Items Item us list

/-- A list in parentheses is read by `parenthesized`. -/
theorem reads_parenthesized {item : Parser α} (keeps : Keeps item) {Item : Language α} (hn : 2 ≤ n)
    (hitem : Reads n Item item) :
    Reads (n + 4) (listLanguage Item) (parenthesized item keeps) := by
  have hreads : Reads _ _ (parenthesized item keeps) :=
    (@reads_fixed .leftParen rfl).bind fun _ => (reads_items keeps hn hitem).bind fun list =>
      (@reads_fixed .rightParen rfl).bind fun _ => reads_pure list
  have hweight :
      weight [Kind.leftParen.fixed] + (n + (weight [Kind.rightParen.fixed] + 0)) = n + 4 :=
    Nat.add_left_comm 2 n 2
  refine hreads.mono (Nat.le_of_eq hweight) ?_
  rintro _ _ ⟨_, _, _, rfl, rfl, us, _, list, rfl, hus, _, _, _, rfl, rfl, rfl, rfl⟩
  exact ⟨us, by simp, hus⟩

/-! ### Statements -/

/-- A `constant` is read as a statement of the grammar. -/
theorem reads_constant : Reads 16 Grammar.Statement constant := by
  have hreads : Reads _ _ constant :=
    (@reads_fixed (.keyword .let) rfl).bind fun _ => reads_identifier.bind fun name =>
      (@reads_fixed .colon rfl).bind fun _ => reads_typeName.bind fun type =>
        (@reads_fixed .assign rfl).bind fun _ => reads_expression.bind fun value =>
          (@reads_fixed .semicolon rfl).bind fun _ => reads_pure (Stmt.constant name type value)
  refine hreads.mono (by decide) ?_
  rintro _ _ ⟨_, _, _, rfl, rfl, _, _, name, rfl, rfl, _, _, _, rfl, rfl, _, _, type, rfl, rfl,
    _, _, _, rfl, rfl, us, _, value, rfl, hvalue, _, _, _, rfl, rfl, rfl, rfl⟩
  simpa using! Grammar.Statement.constant name type hvalue

/-- A `call` is read as a statement of the grammar. -/
theorem reads_call : Reads 16 Grammar.Statement call := by
  have hreads : Reads _ _ call :=
    reads_identifier.bind fun callee =>
      (reads_parenthesized consumes_expression.keeps (by decide) reads_expression).bind fun args =>
        (@reads_fixed .semicolon rfl).bind fun _ => reads_pure (Stmt.call callee args)
  refine hreads.mono (by decide) ?_
  rintro _ _ ⟨_, _, callee, rfl, rfl, _, _, args, rfl, ⟨us, rfl, hargs⟩, _, _, _, rfl, rfl, rfl,
    rfl⟩
  simpa using! Grammar.Statement.call callee hargs

/-- What spells a function up to the brace that opens its body. -/
def headerLanguage : Language Header := fun ts head =>
  ∃ us, ts = [(Kind.keyword .fn).fixed, Grammar.name head.name, Kind.leftParen.fixed] ++ us
      ++ [Kind.rightParen.fixed, Kind.colon.fixed, Grammar.name head.result, Kind.leftBrace.fixed]
    ∧ Grammar.Items Grammar.Parameter us head.params

/-- A `header` is read for its language. -/
theorem reads_header : Reads 21 headerLanguage header := by
  have hreads : Reads _ _ header :=
    (@reads_fixed (.keyword .fn) rfl).bind fun _ => reads_identifier.bind fun name =>
      (reads_parenthesized consumes_parameter.keeps (by decide) reads_parameter).bind fun params =>
        (@reads_fixed .colon rfl).bind fun _ => reads_typeName.bind fun result =>
          (@reads_fixed .leftBrace rfl).bind fun _ => reads_pure (Header.mk name params result)
  refine hreads.mono (by decide) ?_
  rintro _ _ ⟨_, _, _, rfl, rfl, _, _, name, rfl, rfl, _, _, params, rfl, ⟨us, rfl, hparams⟩,
    _, _, _, rfl, rfl, _, _, result, rfl, rfl, _, _, _, rfl, rfl, rfl, rfl⟩
  exact ⟨us, by simp, hparams⟩

/-- A function: what comes before its body, the body, and the brace that closes it. -/
def function : Parser Stmt := do
  let head ← header
  let body ← statements true
  let _ ← expect .rightBrace
  return .function head.name head.result head.params body

/-- The current token tells which sort of `statement` it is. This opens `readStatement`, whose proof
stands in its result, once and for all. -/
theorem statement_eq (r : Reader) :
    statement r =
      if r.current.kind = .keyword .let then constant r
      else if r.current.kind = .identifier then call r
      else if r.current.kind = .keyword .fn then function r
      else refuse .statement r := by
  -- The recursion carries along that tokens were consumed, and here this is forgotten.
  rw [statement, readStatement]
  split
  · next hkind => simp [hkind]
  · next hkind => simp [hkind]
  · next hkind =>
    simp only [hkind, reduceCtorEq, Kind.keyword.injEq, if_true, if_false]
    split
    · next hhead => rw [function, bind_error hhead]
    · next head behind hhead =>
      rw [function, bind_ok hhead]
      split
      · next hbody => rw [bind_error (by rw [statements, hbody])]
      · next body close hkept hbody =>
        rw [bind_ok (a := body) (by rw [statements, hbody])]
        split
        · next hclose => rw [bind_error hclose]
        · next hclose => rw [bind_ok hclose]; rfl
  · next hlet hcall hfn => rw [if_neg hlet, if_neg hcall, if_neg hfn]

/-- A list of `statements` is nothing, or a `statement` and further ones. This opens
`readStatements` once and for all. -/
theorem statements_eq (inside : Bool) (r : Reader) :
    statements inside r =
      if endsStatements inside r.current.kind = true then .ok [] r
      else
        (statement >>= fun first =>
          statements inside >>= fun others => pure (first :: others)) r := by
  rw [statements, readStatements]
  split
  · rfl
  · split
    · next hfirst => rw [bind_error (by rw [statement, hfirst])]
    · next first behind hconsumed hfirst =>
      rw [bind_ok (a := first) (by rw [statement, hfirst])]
      split
      · next hothers => rw [bind_error (by rw [statements, hothers])]
      · next others last hkept hothers =>
        rw [bind_ok (a := others) (by rw [statements, hothers])]
        rfl

theorem consumes_statement : Consumes statement := fun r => (readStatement r).2

/-- No statement is needed. -/
theorem isShort_statements : Language.IsShort 0 Grammar.Statements :=
  ⟨[], [], .nil, Nat.le_refl 0, by simp⟩

/-- Every token that is wanted as a statement begins a short one. -/
theorem goesOn_statement : Language.GoesOn 23 Grammar.Statement [] .statement := by
  have hmarks : ∀ kind ∈ Kind.marks, IsWritten kind.fixed :=
    fun kind hkind => isWritten_fixed ((by decide : ∀ k ∈ Kind.marks, k.isFixed = true) kind hkind)
  simp only [Kind.marks, List.forall_mem_cons] at hmarks
  -- A constant, a function without parameters and body, and a call without arguments.
  rintro ⟨kind, text⟩ ⟨rfl | rfl | rfl, hwritten⟩
  · refine ⟨[Grammar.name "x", Kind.colon.fixed, Grammar.name "x", Kind.assign.fixed,
      Grammar.name "x", Kind.semicolon.fixed], .constant "x" "x" (.variable "x"), ?_, by decide, ?_⟩
    · rw [(isWritten_iff_of_isFixed rfl).mp hwritten]
      exact .constant "x" "x" (.variable "x")
    · simp [isWritten_x, hmarks]
  · refine ⟨[Grammar.name "x", Kind.leftParen.fixed, Kind.rightParen.fixed, Kind.colon.fixed,
      Grammar.name "x", Kind.leftBrace.fixed, Kind.rightBrace.fixed], .function "x" "x" [] [], ?_,
      by decide, ?_⟩
    · rw [(isWritten_iff_of_isFixed rfl).mp hwritten]
      exact .function "x" "x" .none .nil
    · simp [isWritten_x, hmarks]
  · refine ⟨[Kind.leftParen.fixed, Kind.rightParen.fixed, Kind.semicolon.fixed], .call text [],
      .call text .none, by decide, ?_⟩
    simp [hmarks]

/-- A `function` is read if `statements` are read behind what comes before its body. What its body
and its closing brace need in addition is made up for by the tokens before them. -/
theorem HasReading.function (hr : r.IsGenuine)
    (h : ∀ behind : Reader, behind.size < r.size → behind.IsGenuine →
      HasReading 23 Grammar.Statements (statements true) behind) :
    HasReading 23 Grammar.Statement function r := by
  have hclose : ∀ stmt : Stmt, Reads 2
      (Language.seq (Language.fixed .rightBrace) fun _ => Language.empty stmt)
      (expect .rightBrace >>= fun _ => pure stmt) :=
    fun stmt => (@reads_fixed .rightBrace rfl).bind fun _ => reads_pure stmt
  have hbody : ∀ (head : Header) (behind : Reader), behind.size < r.size → behind.IsGenuine →
      HasReading 25
        (Language.seq Grammar.Statements fun body =>
          Language.seq (Language.fixed .rightBrace) fun _ =>
            Language.empty (Stmt.function head.name head.result head.params body))
        (statements true >>= fun body => expect .rightBrace >>= fun _ =>
          pure (Stmt.function head.name head.result head.params body)) behind :=
    fun head behind hless hbehind => (h behind hless hbehind).andThen hbehind fun _ => hclose _
  -- A header has seven tokens, which makes up for the brace and the end of a line behind it.
  have hfunction := (reads_header.reading r hr).bind (N := 23)
    (fun head => isShort_statements.seq fun _ => (hclose _).short)
    (fun head _ behind hpasses hok => hbody head behind
      (by have hless := consumes_header r; rwa [hok] at hless) (hpasses.isGenuine hr))
    (Nat.le_refl 23)
    (by
      rintro _ _ ⟨us, rfl, -⟩
      simp)
  refine hfunction.mono (Nat.le_refl 23) ?_
  rintro _ _ ⟨_, _, ⟨name, params, result⟩, rfl, ⟨us, rfl, hparams⟩, vs, _, body, rfl, hvs,
    _, _, _, rfl, rfl, rfl, rfl⟩
  simpa using! Grammar.Statement.function name result hparams hvs

/-- A `statement` is read if `statements` are read further on. -/
theorem HasReading.statement (hr : r.IsGenuine)
    (h : ∀ behind : Reader, behind.size < r.size → behind.IsGenuine →
      HasReading 23 Grammar.Statements (statements true) behind) :
    HasReading 23 Grammar.Statement statement r := by
  -- The current token decides, so in each case the other pieces do not matter.
  by_cases hlet : r.current.kind = .keyword .let
  · refine ((reads_constant.mono (N := 23) (by decide) fun _ _ h => h).reading r hr).congr
      fun s hs => ?_
    rw [statement_eq, hs, if_pos hlet]
  by_cases hcall : r.current.kind = .identifier
  · refine ((reads_call.mono (N := 23) (by decide) fun _ _ h => h).reading r hr).congr
      fun s hs => ?_
    rw [statement_eq, hs, if_neg hlet, if_pos hcall]
  by_cases hfn : r.current.kind = .keyword .fn
  · refine (HasReading.function hr h).congr fun s hs => ?_
    rw [statement_eq, hs, if_neg hlet, if_neg hcall, if_pos hfn]
  · refine .refuse .statement ⟨_, ⟨.inr (.inr rfl), isWritten_x⟩, by decide⟩ goesOn_statement
      fun s hs => ?_
    rw [statement_eq, hs, if_neg hlet, if_neg hcall, if_neg hfn]

/-- Lists of `statements` are read, by induction on the `Reader.size`. -/
theorem reads_statements (inside : Bool) : Reads 23 Grammar.Statements (statements inside) := by
  refine ⟨⟨[], [], .nil, by simp, by simp⟩, fun r hr => ?_⟩
  -- The induction is on what is left to be consumed, which is less in the body of a function and
  -- behind the first statement. Both readings are needed, one inside braces and one for `inside`.
  induction hsize : r.size using Nat.strong_induction_on generalizing r inside with
  | _ size ih =>
  subst hsize
  by_cases hends : endsStatements inside r.current.kind = true
  · have hnone := (reads_pure ([] : List Stmt)).reading r hr
    refine (hnone.mono (Nat.zero_le 23) ?_).congr fun s hs => ?_
    · rintro _ _ ⟨rfl, rfl⟩
      exact .nil
    · rw [statements_eq, hs, if_pos hends]
      rfl
  · have hfirst : HasReading 23 Grammar.Statement statement r :=
      .statement hr fun behind hless hbehind => ih behind.size hless true behind hbehind rfl
    have hothers : ∀ (first : Stmt) (behind : Reader), behind.size < r.size → behind.IsGenuine →
        HasReading 23
          (Language.seq Grammar.Statements fun others => Language.empty (first :: others))
          (statements inside >>= fun others => pure (first :: others)) behind :=
      fun first behind hless hbehind =>
        (ih behind.size hless inside behind hbehind rfl).andThen hbehind fun _ => reads_pure _
    have hsome := hfirst.bind (N := 23)
      (fun first => isShort_statements.seq fun _ => Language.isShort_empty _)
      (fun first _ behind hpasses hok => hothers first behind
        (by have hless := consumes_statement r; rwa [hok] at hless) (hpasses.isGenuine hr))
      (Nat.le_refl 23) (fun _ _ _ => by omega)
    refine (hsome.mono (Nat.le_refl 23) ?_).congr fun s hs => ?_
    · rintro _ _ ⟨us, _, first, rfl, hus, vs, _, others, rfl, hvs, rfl, rfl⟩
      simpa using Grammar.Statements.cons hus hvs
    · rw [statements_eq, hs, if_neg hends]

/-- A `module` is read for the language of `Grammar.Program`. -/
theorem reads_module : Reads 34 Grammar.Program module := by
  have hreads : Reads _ _ module :=
    (@reads_fixed (.keyword .module) rfl).bind fun _ => reads_identifier.bind fun name =>
      (@reads_fixed .semicolon rfl).bind fun _ => (reads_statements false).bind fun list =>
        reads_pure (Module.mk name list)
  refine hreads.mono (by decide) ?_
  rintro _ _ ⟨_, _, _, rfl, rfl, _, _, name, rfl, rfl, _, _, _, rfl, rfl, us, _, list, rfl, hus,
    rfl, rfl⟩
  simpa using! Grammar.Program.mk name hus

/-- A list of `statements` that was read ends where `endsStatements` holds. -/
theorem endsStatements_of_ok {inside : Bool} {list : List Stmt}
    (h : statements inside r = .ok list last) : endsStatements inside last.current.kind = true := by
  induction hsize : r.size using Nat.strong_induction_on generalizing r list with
  | _ size ih =>
  subst hsize
  rw [statements_eq] at h
  split_ifs at h with hends
  · cases h
    exact hends
  · -- The statements behind the first one end where all of them do, and less is left there.
    obtain ⟨first, behind, hfirst, hrest⟩ := exists_of_bind_ok h
    obtain ⟨others, _, hothers, hpure⟩ := exists_of_bind_ok hrest
    cases hpure
    have hless := consumes_statement r
    rw [hfirst] at hless
    exact ih behind.size hless hothers rfl

/-- A `module` that was read ends at the end of the file. -/
theorem endOfFile_of_ok {program : Module} (h : module r = .ok program last) :
    last.current.kind = .endOfFile := by
  obtain ⟨_, _, -, h⟩ := exists_of_bind_ok h
  obtain ⟨_, _, -, h⟩ := exists_of_bind_ok h
  obtain ⟨_, _, -, h⟩ := exists_of_bind_ok h
  obtain ⟨_, _, hlist, hpure⟩ := exists_of_bind_ok h
  cases hpure
  simpa [endsStatements] using endsStatements_of_ok hlist

end Parser

/-! ### Sources -/

/-- Reading a source with `Module.read` consumes its first tokens, of which none is invalid. It
consumes all tokens and gives a program that `Grammar.Program` derives, or it refuses the one behind
them, where something else could stand. -/
theorem Module.read_cases (source : String) :
    ∃ ts last, Parser.IsReading 34 Grammar.Program Parser.module (Reader.ofSource source) ts last
      ∧ ((∃ program, read source = .ok program last ∧ tokensOf source = ts
          ∧ Grammar.Program (ts.map content) program) ∨
        ∃ wanted : Expectation, read source = .error (.unexpected wanted last.current) last
          ∧ wanted.CanBeMet ∧ Language.GoesOn 34 Grammar.Program (ts.map content) wanted) := by
  obtain ⟨ts, last, hread⟩ := Parser.reads_module.reading _ (Reader.isGenuine_ofSource source)
  have houtcome := hread.outcome_eq
  have hexplains := hread.explains
  refine ⟨ts, last, hread, ?_⟩
  cases hmodule : Parser.module (Reader.ofSource source) with
  | ok program stop =>
    rw [hmodule] at houtcome hexplains
    obtain rfl : stop = last := (EStateM.Result.ok.inj houtcome).2
    -- The program ends at the end of the file, so no token is left behind it.
    have hwhole := hread.passes.of_endOfFile (Parser.endOfFile_of_ok hmodule)
    rw [Reader.pending_ofSource] at hwhole
    exact .inl ⟨program, hmodule, hwhole, hexplains⟩
  | error fault stop =>
    rw [hmodule] at houtcome hexplains
    obtain rfl : stop = last := (EStateM.Result.error.inj houtcome).2
    obtain ⟨wanted, rfl, hmet, hgoes⟩ := hexplains
    exact .inr ⟨wanted, hmodule, hmet, hgoes⟩

end Modlet
