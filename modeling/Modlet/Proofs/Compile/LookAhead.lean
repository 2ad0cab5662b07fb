import Modlet.Proofs.Compile.Gaps
import Modlet.Proofs.Program.EarliestFault

/-!
# One token is read ahead

A source is read just as far as reading needs. Where it stops, the tokens before that place have
been consumed, and of the others only those of the window have been read: the token at that place
and the one behind it. So of the invalid tokens of a source the log tells at most two, and it tells
them only if compiling fails.

* `Reader.consumed`: the tokens that were consumed.
* `Passes.seen_eq`: what has been read behind given tokens.
* `IsBehind`: a reader behind the first tokens of a source.
* `compile_oneAhead`: how far a source is read, and what the log tells of it.
-/

namespace Modlet

open Token

/-! ### What has been read -/

namespace Cursor

/-- The cursor behind so many readings, one `next` for each. -/
def behind (cursor : Cursor) : Nat → Cursor
  | 0 => cursor
  | n + 1 => cursor.next.2.behind n

/-- One more reading moves the cursor on by `next`. -/
theorem behind_succ (cursor : Cursor) (n : Nat) :
    cursor.behind (n + 1) = (cursor.behind n).next.2 := by
  induction n generalizing cursor with
  | zero => rfl
  | succ n ih => rw [behind, ih, behind]

/-- A `reading` gives the token of `next` behind the readings before it. -/
theorem reading_eq_next (cursor : Cursor) (n : Nat) :
    cursor.reading n = (cursor.behind n).next.1 := by
  induction n generalizing cursor with
  | zero => rfl
  | succ n ih => rw [reading, ih, behind]

/-- The first readings give the first `tokens`. -/
theorem take_tokens {cursor : Cursor} {k : Nat} (h : k ≤ cursor.tokens.length) :
    cursor.tokens.take k = (List.range k).map cursor.reading := by
  refine List.ext_getElem (by simp [h]) fun i hi hi' => ?_
  have hless : i < cursor.tokens.length := by
    rw [List.length_take] at hi
    omega
  simp [reading_eq, List.getElem?_eq_getElem hless]

/-- With two more readings, the two behind the first `tokens` are given. -/
theorem readings_eq {cursor : Cursor} {k : Nat} (h : k ≤ cursor.tokens.length) :
    (List.range (k + 2)).map cursor.reading =
      cursor.tokens.take k ++ [cursor.reading k, cursor.reading (k + 1)] := by
  rw [List.range_succ, List.range_succ, List.map_append, List.map_append, ← take_tokens h,
    List.append_assoc]
  rfl

end Cursor

namespace Reader

/-- The tokens that were consumed: all that were `seen` but the two of the window. -/
def consumed (r : Reader) : List Token := (r.seen.drop 2).reverse

variable {r last : Reader} {ts : List Token}

/-- Tokens that pass move the window on by their number: it `Shows` the cursor `behind` them. -/
theorem Passes.shows {cursor : Cursor} (h : r.Passes ts last) (hshows : r.Shows cursor) :
    last.Shows (cursor.behind ts.length) := by
  induction h generalizing cursor with
  | refl r => exact hshows
  | step _ _ ih => exact ih hshows.advance

/-- Behind tokens that pass, these tokens and those of the window have been `seen` in addition to
what had been consumed before. -/
theorem Passes.seen_eq (h : r.Passes ts last) {older : List Token}
    (hr : r.seen = r.ahead :: r.current :: older) :
    last.seen = last.ahead :: last.current :: (ts.reverse ++ older) := by
  -- Each step reads one token ahead, and the one that was ahead becomes the current one.
  induction h generalizing older with
  | refl r => exact hr
  | @step r last ts hkind _ ih =>
    have hadvance : r.advance.seen =
        r.advance.ahead :: r.advance.current :: (r.current :: older) := by
      rw [advance, hr]
    rw [ih hadvance, List.reverse_cons, List.append_assoc, List.singleton_append]

/-- No end of the file passes. -/
theorem Passes.kind_ne (h : r.Passes ts last) : ∀ t ∈ ts, t.kind ≠ .endOfFile := by
  induction h with
  | refl r => simp
  | step hkind _ ih =>
    rw [List.forall_mem_cons]
    exact ⟨hkind, ih⟩

end Reader

/-- A reader that has consumed the first `k` tokens of a source, and has read two more. -/
structure IsBehind (source : String) (stop : Reader) (k : Nat) : Prop where
  /-- There are that many tokens. -/
  le_length : k ≤ (tokensOf source).length
  /-- These tokens were consumed. -/
  consumed_eq : stop.consumed = (tokensOf source).take k
  /-- None of them is invalid, nor the end of the file. -/
  kind_ne : ∀ t ∈ stop.consumed, t.kind ≠ .invalid ∧ t.kind ≠ .endOfFile
  /-- The current token is the one behind them. -/
  current_eq : stop.current = (Cursor.ofSource source).reading k
  /-- So many readings have been made, one after the other. -/
  seen_eq : stop.seen.reverse = (List.range (k + 2)).map (Cursor.ofSource source).reading
  /-- What is left of the source stands behind these readings. -/
  cursor_eq : stop.cursor = (Cursor.ofSource source).behind (k + 2)

/-- Reading stops behind the tokens that it consumes, which is what `IsBehind` says. -/
theorem isBehind_of_passes {source : String} {ts : List Token} {stop : Reader}
    (h : (Reader.ofSource source).Passes ts stop) (hvalid : ∀ t ∈ ts, t.kind ≠ .invalid) :
    IsBehind source stop ts.length := by
  have hshows := h.shows (Reader.shows_ofSource source)
  have htokens := h.pending_eq
  rw [Reader.pending_ofSource] at htokens
  have hle : ts.length ≤ (tokensOf source).length := by simp [htokens]
  have htake : (tokensOf source).take ts.length = ts := by rw [htokens, List.take_left]
  have hseen := @Reader.Passes.seen_eq _ _ _ h [] rfl
  have hcurrent := h.current_eq_reading (Reader.shows_ofSource source)
  -- The window shows two readings: the current one, and the one ahead of it.
  have hahead : stop.ahead = (Cursor.ofSource source).reading (ts.length + 1) := by
    rw [hshows.ahead_eq, ← Cursor.behind_succ, ← Cursor.reading_eq_next]
  have hconsumed : stop.consumed = ts := by
    rw [Reader.consumed, hseen]
    simp
  refine ⟨hle, hconsumed.trans htake.symm, fun t ht => ?_, hcurrent, ?_, ?_⟩
  · rw [hconsumed] at ht
    exact ⟨hvalid t ht, h.kind_ne t ht⟩
  · rw [Cursor.readings_eq hle, ← tokensOf, htake, ← hcurrent, ← hahead, hseen]
    simp
  · rw [hshows.cursor_eq, Cursor.behind_succ, Cursor.behind_succ]

/-- The `invalid` tokens that have been read are those of the window. -/
theorem IsBehind.invalid_eq {source : String} {stop : Reader} {k : Nat}
    (h : IsBehind source stop k) :
    stop.invalid = ([(Cursor.ofSource source).reading k,
      (Cursor.ofSource source).reading (k + 1)].filter (·.kind = .invalid)) := by
  have hnone : ((tokensOf source).take k).filter (·.kind = .invalid) = [] := by
    rw [← h.consumed_eq, List.filter_eq_nil_iff]
    intro t ht
    simpa using (h.kind_ne t ht).1
  rw [Reader.invalid, ← List.filter_reverse, h.seen_eq, Cursor.readings_eq h.le_length, ← tokensOf,
    List.filter_append, hnone, List.nil_append]

/-! ### What the log tells -/

/-- A unit is refused at the token with the number `k`, behind which one more has been read. -/
structure IsRefused (file source : String) (fault : Fault) (stop : Reader) (k : Nat) : Prop where
  /-- It has an error at that token. -/
  failsAt : FailsAt file source (.ofFault file fault) k
  /-- The token is the one that was found. -/
  token_eq : fault.token = (Cursor.ofSource source).reading k
  /-- All tokens before it were consumed, and one behind it was read. -/
  isBehind : IsBehind source stop k
  /-- The log tells which of these two are invalid, and nothing else. -/
  events_eq : (compile file source).events =
    ([(Cursor.ofSource source).reading k, (Cursor.ofSource source).reading (k + 1)].filter
      (·.kind = .invalid)).map .invalidToken
  /-- All of this is told at the finest level. -/
  level_eq : ∀ event ∈ (compile file source).events, event.level = .trace

/-- A unit is accepted as a program, with every token of it consumed. -/
structure IsAccepted (file source : String) (program : Module) (stop : Reader) : Prop where
  /-- It is compiled. -/
  result_eq : (compile file source).result = .ok (CText.ofModule program)
  /-- All tokens of the source were consumed. -/
  isBehind : IsBehind source stop (tokensOf source).length
  /-- None of them is invalid. -/
  kind_ne : ∀ t ∈ tokensOf source, t.kind ≠ .invalid
  /-- The log tells that the module was read, and that its two parts are written. -/
  events_eq : (compile file source).events =
    [.parsed program file, .prototypes program, .definitions program]
  /-- Nothing of this is told at the finest level. -/
  level_eq : ∀ event ∈ (compile file source).events, event.level = .debug
  /-- First the log tells how many statements the module has at its top. -/
  message_eq : ((compile file source).events.map Event.message).head? =
    some ("parsed module `" ++ program.name ++ "` from " ++ file ++ " ("
      ++ program.statements.length.repr ++ " top-level statements)")

/-- What `compile` tells in the log of a unit that is refused: nothing but the invalid tokens. -/
theorem events_of_error {file source : String} {fault : Fault} {stop : Reader}
    (h : Module.read source = .error fault stop) :
    (compile file source).events = stop.invalid.map .invalidToken := by
  rw [compile, h]

/-- What `compile` tells in the log of a unit that is accepted: behind the invalid tokens that the
program was parsed, and what is written of it. -/
theorem events_of_ok {file source : String} {program : Module} {stop : Reader}
    (h : Module.read source = .ok program stop) :
    (compile file source).events = stop.invalid.map .invalidToken
      ++ [Event.parsed program file, Event.prototypes program, Event.definitions program] := by
  rw [compile, h]

/-- Reading a source with `Module.read` goes one token further than the one at which it stops, and
the log of `compile` shows it. A unit `IsRefused` at one of its tokens or at the end of the file, or
it `IsAccepted`. -/
theorem compile_oneAhead (file source : String) :
    match Module.read source with
    | .error fault stop => ∃ k, IsRefused file source fault stop k
    | .ok program stop => IsAccepted file source program stop := by
  obtain ⟨ts, last, hreading, houtcome⟩ := Module.read_cases source
  have hbehind := isBehind_of_passes hreading.passes hreading.valid
  obtain ⟨program, hok, hall, -⟩ | ⟨wanted, hfault, -⟩ := houtcome
  · rw [hok]
    have hparse : Module.parse file source = .ok program := by rw [Module.parse, hok]
    rw [← hall] at hbehind
    -- Behind the last token there is only the end of the file, which is not invalid.
    have hinvalid : last.invalid = [] := by
      have hend : ∀ i, (tokensOf source).length ≤ i →
          ((Cursor.ofSource source).reading i).kind = .endOfFile :=
        fun i => Cursor.kind_reading_iff.mpr
      rw [hbehind.invalid_eq]
      simp [hend]
    have hevents : (compile file source).events =
        [.parsed program file, .prototypes program, .definitions program] := by
      rw [events_of_ok hok, hinvalid]
      rfl
    refine ⟨compile_result_of_parse hparse, hbehind, Module.kind_ne_of_parse hparse, hevents,
      ?_, ?_⟩
    · simp [hevents, Event.level]
    · rw [hevents]
      rfl
  · rw [hfault]
    have hevents := @events_of_error file _ _ _ hfault
    -- What was consumed and what is left make up the tokens of the source.
    have hsize : ts.length + last.size = (tokensOf source).length := by
      rw [← Reader.pending_ofSource, hreading.passes.pending_eq, List.length_append, Reader.size]
    refine ⟨ts.length, failsAt_of_read hfault hsize, hbehind.current_eq, hbehind, ?_,
      fun event hevent => ?_⟩
    · rw [hevents, hbehind.invalid_eq]
    · rw [hevents] at hevent
      obtain ⟨token, -, rfl⟩ := List.mem_map.mp hevent
      rfl

end Modlet
