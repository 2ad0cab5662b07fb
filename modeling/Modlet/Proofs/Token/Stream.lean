import Modlet.Proofs.Token.Spelling
import Modlet.Token.Reader

/-!
# The tokens that pass through a window

Consuming tokens one by one leads from one window on a source to another. Which tokens pass on the
way does not depend on the window's second token, so two windows that let the same tokens pass
stand at the same place.

* `Reader.Passes`: consuming given tokens leads from one reader to another.
* `Reader.Passes.current_eq_reading`: behind `n` tokens stands the token of reading number `n`.
* `Reader.IsGenuine`: every token that is still to be consumed is invalid or can be written.
-/

namespace Modlet

open Token

namespace Reader

/-- Consuming the tokens `ts` one by one leads from one reader to another, each of them `current`
before it is consumed and none of them the end of the file. -/
inductive Passes : Reader → List Token → Reader → Prop
  | refl (r : Reader) : Passes r [] r
  | step {r last : Reader} {ts : List Token} :
      r.current.kind ≠ .endOfFile → Passes r.advance ts last → Passes r (r.current :: ts) last

namespace Passes

variable {r s mid last stop : Reader} {ts us : List Token} {t : Token}

/-- Consuming the current token, which `advance` does. -/
theorem single (h : r.current.kind ≠ .endOfFile) : Passes r [r.current] r.advance :=
  .step h (.refl _)

/-- Where one token passes, it is `r.current`, and it leads to `r.advance`. -/
theorem of_single (h : Passes r [t] last) : r.current = t ∧ last = r.advance := by
  cases h with
  | step _ hrest =>
    cases hrest
    exact ⟨rfl, rfl⟩

/-- What passes is the beginning of what is `pending`. -/
theorem pending_eq (h : Passes r ts last) : r.pending = ts ++ last.pending := by
  induction h with
  | refl r => rfl
  | step hkind _ ih => rw [pending_eq_cons hkind, ih, List.cons_append]

/-- Tokens pass one after the other. -/
theorem trans (h : Passes r ts mid) (h' : Passes mid us last) : Passes r (ts ++ us) last := by
  induction h with
  | refl r => exact h'
  | step hkind _ ih => exact .step hkind (ih h')

/-- There is a reader `mid` between tokens that pass one after the other. -/
theorem exists_mid (h : Passes r (ts ++ us) last) :
    ∃ mid, Passes r ts mid ∧ Passes mid us last := by
  induction ts generalizing r with
  | nil => exact ⟨r, .refl r, h⟩
  | cons t ts ih =>
    cases h with
    | step hkind hrest =>
      obtain ⟨mid, hfirst, hsecond⟩ := ih hrest
      exact ⟨mid, .step hkind hfirst, hsecond⟩

/-- Where the same tokens pass, and the tokens behind them are the same, the tokens `current` before
them are the same. -/
theorem current_eq (h : Passes r ts last) (h' : Passes s ts stop)
    (hcurrent : stop.current = last.current) : s.current = r.current := by
  cases h with
  | refl r =>
    cases h' with
    | refl s => exact hcurrent
  | step _ _ =>
    -- The first token that passes is where both of them stand.
    generalize htoken : r.current = t at h'
    cases h' with
    | step => rfl

/-- All that was `pending` has passed before the end of the file. -/
theorem of_endOfFile (h : Passes r ts last) (hend : last.current.kind = .endOfFile) :
    r.pending = ts := by
  rw [h.pending_eq, pending_of_endOfFile hend, List.append_nil]

end Passes

/-- Where nothing is `pending` the current token is the end of the file. -/
theorem endOfFile_of_pending {r : Reader} (h : r.pending = []) : r.current.kind = .endOfFile := by
  by_contra hkind
  rw [pending_eq_cons hkind] at h
  cases h

/-- The current token is the first of those that are `pending`. -/
theorem current_of_pending {r : Reader} {t : Token} {rest : List Token}
    (h : r.pending = t :: rest) : r.current = t := by
  by_cases hkind : r.current.kind = .endOfFile
  · rw [pending_of_endOfFile hkind] at h
    cases h
  · rw [pending_eq_cons hkind] at h
    exact (List.cons.inj h).1

/-- Every beginning `ts` of the `pending` tokens passes, and leaves the rest of them. -/
theorem exists_passes (r : Reader) (ts : List Token) (rest : List Token)
    (h : r.pending = ts ++ rest) : ∃ last, Passes r ts last ∧ last.pending = rest := by
  induction ts generalizing r with
  | nil => exact ⟨r, .refl r, h⟩
  | cons t ts ih =>
    -- At the end of the file there would be nothing to consume.
    have hkind : r.current.kind ≠ .endOfFile := by
      intro hend
      rw [pending_of_endOfFile hend] at h
      cases h
    rw [pending_eq_cons hkind, List.cons_append, List.cons.injEq] at h
    obtain ⟨last, hpasses, hrest⟩ := ih r.advance h.2
    exact ⟨last, h.1 ▸ .step hkind hpasses, hrest⟩

/-! ### Readers and readings -/

/-- A reader whose window shows what `Cursor.reading` gives next from `cursor`. -/
structure Shows (r : Reader) (cursor : Cursor) : Prop where
  /-- The current token is the next one. -/
  current_eq : r.current = cursor.next.1
  /-- The other token is the one behind it. -/
  ahead_eq : r.ahead = cursor.next.2.next.1
  /-- What is left stands behind both. -/
  cursor_eq : r.cursor = cursor.next.2.next.2

/-- Consuming a token moves the window on by one `Cursor.next`. -/
theorem Shows.advance {r : Reader} {cursor : Cursor} (h : r.Shows cursor) :
    r.advance.Shows cursor.next.2 where
  current_eq := by simp [Reader.advance, h.ahead_eq]
  ahead_eq := by simp [Reader.advance, h.cursor_eq]
  cursor_eq := by simp [Reader.advance, h.cursor_eq]

/-- The window of `ofSource` shows the beginning of the source. -/
theorem shows_ofSource (source : String) : (ofSource source).Shows (Cursor.ofSource source) :=
  ⟨rfl, rfl, rfl⟩

/-- Behind `n` tokens stands the token of reading number `n`. With it what `Passes` says of the
parser becomes a statement about `Cursor.reading`. -/
theorem Passes.current_eq_reading {r last : Reader} {ts : List Token} {cursor : Cursor}
    (h : Passes r ts last) (hshows : r.Shows cursor) :
    last.current = cursor.reading ts.length := by
  induction h generalizing cursor with
  | refl r => exact hshows.current_eq
  | step _ _ ih => exact ih hshows.advance

/-! ### Tokens that a source can give -/

/-- Every `pending` token is invalid, or it can be written (`IsWritten`). -/
def IsGenuine (r : Reader) : Prop :=
  ∀ t ∈ r.pending, t.kind = .invalid ∨ IsWritten t.content

/-- What passes leaves a genuine reader genuine (`IsGenuine`). -/
theorem Passes.isGenuine {r last : Reader} {ts : List Token} (h : Passes r ts last)
    (hr : r.IsGenuine) : last.IsGenuine :=
  fun t ht => hr t (h.pending_eq ▸ List.mem_append_right ts ht)

/-- The current token of a reader that `IsGenuine` is invalid, or it can be written. -/
theorem IsGenuine.current {r : Reader} (hr : r.IsGenuine) (h : r.current.kind ≠ .endOfFile) :
    r.current.kind = .invalid ∨ IsWritten r.current.content :=
  hr r.current (by simp [pending_eq_cons h])

end Reader

/-- What a lexeme means in the sense of `Means` is invalid, or it can be written. -/
theorem Means.isWritten {lexeme : List Char} {t : Content} (h : Means lexeme t) :
    t.1 = .invalid ∨ IsWritten t := by
  cases h with
  | @mark kind hkind =>
    right
    revert hkind
    cases kind <;> simp [Kind.marks, IsWritten, Kind.fixed, Kind.spelling]
  | keyword word => exact .inr rfl
  | identifier hname => exact .inr hname.isWritten
  | integer hne hdigits hrange =>
    right
    simp [IsWritten, Numeral.read?_of_digits hne hdigits, hrange]
  | string hbody => exact .inr (by simpa [IsWritten] using hbody)
  | outOfRange | unterminated | unexpected => exact .inl rfl

/-- The window on a source is genuine, since all its tokens are those of lexemes. -/
theorem Reader.isGenuine_ofSource (source : String) : (Reader.ofSource source).IsGenuine := by
  intro t ht
  rw [pending_ofSource] at ht
  obtain ⟨lexeme, hmeans⟩ := Cursor.exists_means_of_mem ht
  exact hmeans.isWritten

end Modlet
