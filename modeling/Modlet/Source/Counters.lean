import Modlet.Source.Position

/-!
# Places counted in 32 bits

A place can be kept as two counters of 32 bits. Counting a character adds one to the column, or to
the line at its end, and there is no result where that addition overflows. As long as there is one,
it is the place that `Position` gives, and texts that are not huge are counted to their end.
-/

namespace Modlet

/-- A line and a column, each counted in 32 bits. -/
structure Counters where
  /-- The line. -/
  line : UInt32
  /-- The column. -/
  col : UInt32
deriving DecidableEq, Repr

namespace Counters

/-- The counters where a text begins. -/
def start : Counters := ⟨1, 1⟩

/-- One more than `n`, unless the addition overflows 32 bits. -/
def succ? (n : UInt32) : Option UInt32 :=
  if n.toNat + 1 < UInt32.size then some (n + 1) else none

/-- The counters behind the character `c`, unless an addition overflows. -/
def step? (k : Counters) (c : Char) : Option Counters :=
  if c = '\n' then (succ? k.line).map fun line => ⟨line, 1⟩
  else (succ? k.col).map fun col => ⟨k.line, col⟩

/-- The counters behind a text, one `step?` for each character, unless an addition overflows on the
way. -/
def after? (k : Counters) : List Char → Option Counters
  | [] => some k
  | c :: text => (k.step? c).bind fun behind => behind.after? text

/-- The `Position` that the counters stand for. -/
def place (k : Counters) : Position := ⟨k.line.toNat, k.col.toNat⟩

/-- The sum `succ? n` is `m` exactly if `m` is the next number, so it is none only at the last
one. -/
theorem succ?_eq_some_iff {n m : UInt32} : succ? n = some m ↔ m.toNat = n.toNat + 1 := by
  have hm := m.toNat_lt_size
  rw [succ?]
  split
  · next h =>
    rw [Option.some.injEq, ← UInt32.toNat_inj, UInt32.toNat_add]
    have hone : (n.toNat + (1 : UInt32).toNat) % 2 ^ 32 = n.toNat + 1 := Nat.mod_eq_of_lt h
    rw [hone, eq_comm]
  · next h =>
    refine iff_of_false (by simp) ?_
    omega

/-- Counting `c` gives `behind` exactly if the `place` of `behind` is `Position.step` behind that of
`k`. -/
theorem step?_eq_some_iff {k behind : Counters} {c : Char} :
    k.step? c = some behind ↔ behind.place = k.place.step c := by
  obtain ⟨line, col⟩ := behind
  rw [step?, Position.step]
  split
  · simp only [Option.map_eq_some_iff, succ?_eq_some_iff, mk.injEq, place, Position.mk.injEq]
    constructor
    · rintro ⟨_, hline, rfl, rfl⟩
      exact ⟨hline, rfl⟩
    · rintro ⟨hline, hcol⟩
      exact ⟨line, hline, rfl, (UInt32.toNat_inj.mp hcol).symm⟩
  · simp only [Option.map_eq_some_iff, succ?_eq_some_iff, mk.injEq, place, Position.mk.injEq]
    constructor
    · rintro ⟨_, hcol, rfl, rfl⟩
      exact ⟨rfl, hcol⟩
    · rintro ⟨hline, hcol⟩
      exact ⟨col, hcol, (UInt32.toNat_inj.mp hline).symm, rfl⟩

/-- Every place with a small line and a small column is the `place` of some counters. -/
theorem exists_place_eq {p : Position} (hline : p.line < UInt32.size) (hcol : p.col < UInt32.size) :
    ∃ k : Counters, k.place = p := by
  refine ⟨⟨UInt32.ofNat p.line, UInt32.ofNat p.col⟩, ?_⟩
  simp only [place, UInt32.toNat_ofNat_of_lt' hline, UInt32.toNat_ofNat_of_lt' hcol]

/-- A text that fits behind a place is counted to its end, and `after?` gives the same place as
`Position.after`. Every character adds one to the line and the column together, at most. -/
theorem exists_after?_eq {k : Counters} {text : List Char} (hline : 1 ≤ k.place.line)
    (hcol : 1 ≤ k.place.col) (h : k.place.line + k.place.col + text.length ≤ UInt32.size) :
    ∃ last, k.after? text = some last ∧ last.place = k.place.after text := by
  induction text generalizing k with
  | nil => exact ⟨k, rfl, rfl⟩
  | cons c text ih =>
    rw [List.length_cons] at h
    -- The line and the column stay at least one, so neither takes up all that there is.
    obtain ⟨hstepLine, hstepCol, hsum⟩ : 1 ≤ (k.place.step c).line ∧ 1 ≤ (k.place.step c).col
        ∧ (k.place.step c).line + (k.place.step c).col ≤ k.place.line + k.place.col + 1 := by
      rw [Position.step]
      split <;> simp <;> omega
    obtain ⟨behind, hbehind⟩ := exists_place_eq (p := k.place.step c) (by omega) (by omega)
    rw [← hbehind] at hstepLine hstepCol hsum
    obtain ⟨last, hlast, hplace⟩ := ih hstepLine hstepCol (by omega)
    refine ⟨last, ?_, ?_⟩
    · rw [after?, step?_eq_some_iff.mpr hbehind, Option.bind_some, hlast]
    · rw [hplace, hbehind, Position.after_cons]

end Counters

end Modlet
