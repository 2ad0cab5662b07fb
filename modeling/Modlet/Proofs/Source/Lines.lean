import Modlet.Proofs.Token.Places
import Modlet.Source.Lines

/-!
# Lines and places

Places count line feeds, and lines are what stands between them, with two exceptions: a carriage
return before a line feed belongs to no line, and behind a final line feed there is no line. Here
the line with the number of a place is found in the text around that place.

* `IsCutAround`: a text cut before and behind the line of a place, and at the place.
* `Lines.nth?_of_cut`: the line with the number of a place is the one that the cut leaves.
* `Lines.IsLineAround`: the line around a place.
-/

namespace Modlet

/-! ### Texts up to the end of a line -/

/-- A text that `EndsLine` is nothing, or a first line and a text that `EndsLine` again. -/
theorem EndsLine.cases {text : List Char} (h : EndsLine text) :
    text = [] ∨ ∃ line more, text = line ++ '\n' :: more ∧ '\n' ∉ line ∧ EndsLine more := by
  by_cases hmem : '\n' ∈ text
  · obtain ⟨line, more, rfl, hline⟩ := List.eq_append_cons_of_mem hmem
    refine .inr ⟨line, more, rfl, hline, fun c hc => h c ?_⟩
    simp [List.getLast?_append, List.getLast?_cons, Option.mem_def.mp hc]
  · left
    by_contra hne
    obtain rfl | ⟨front, c, rfl⟩ := List.eq_nil_or_concat text
    · exact hne rfl
    · exact hmem (by simp [h c (by simp)])

/-- Every text is one that `EndsLine` and the beginning of a line behind it. -/
theorem exists_endsLine_append (text : List Char) :
    ∃ above head, text = above ++ head ∧ EndsLine above ∧ '\n' ∉ head := by
  induction text using List.reverseRecOn with
  | nil => exact ⟨[], [], rfl, by simp [EndsLine], by simp⟩
  | append_singleton text c ih =>
    by_cases hc : c = '\n'
    · exact ⟨text ++ [c], [], by simp, by simp [EndsLine, hc], by simp⟩
    · obtain ⟨above, head, rfl, habove, hhead⟩ := ih
      exact ⟨above, head ++ [c], by simp, habove, by simp [hhead, Ne.symm hc]⟩

namespace Lines

/-! ### Lines one by one -/

/-- A line feed ends the first line of `ofText`, which `dropReturn` then takes a carriage return
off. -/
theorem ofText_line {line : List Char} (h : '\n' ∉ line) (rest : List Char) :
    ofText (line ++ '\n' :: rest) = dropReturn line :: ofText rest := by
  rw [ofText, Text.pieces_append h, ofText]
  cases hpieces : Text.pieces '\n' rest with
  | nil => exact absurd hpieces (Text.pieces_ne_nil '\n' rest)
  | cons piece more => rfl

/-- A text without line feeds is one line of `ofText`, unless it is empty. -/
theorem ofText_of_not_mem {text : List Char} (h : '\n' ∉ text) :
    ofText text = if text = [] then [] else [text] := by
  rw [ofText, Text.pieces_of_not_mem h, ofPieces]
  simp

/-- Behind a text that `EndsLine`, the lines are those of what stands there, and as many lines as
line feeds come before them. -/
theorem getElem?_ofText_append {above : List Char} (h : EndsLine above) (rest : List Char)
    (i : Nat) : (ofText (above ++ rest))[above.count '\n' + i]? = (ofText rest)[i]? := by
  -- The induction takes the lines above off one by one, each with its line feed.
  induction hlength : above.length using Nat.strong_induction_on generalizing above with
  | _ length ih =>
  subst hlength
  rcases h.cases with rfl | ⟨line, more, rfl, hline, hmore⟩
  · simp
  · have hrest := ih more.length (by simp; omega) hmore rfl
    have hcount : (line ++ '\n' :: more).count '\n' + i = more.count '\n' + i + 1 := by
      rw [List.count_append, List.count_eq_zero_of_not_mem hline, List.count_cons_self]
      omega
    rw [hcount, List.append_assoc, List.cons_append, ofText_line hline, List.getElem?_cons_succ,
      hrest]

/-- Every character of a line but a last carriage return stays where it is in `dropReturn`. -/
theorem getElem?_dropReturn {text : List Char} {c : Char} {i : Nat} (h : text[i]? = some c)
    (hc : c ≠ '\r') : (dropReturn text)[i]? = some c := by
  rw [dropReturn]
  split
  · next hlast =>
    obtain ⟨front, rfl⟩ := List.getLast?_eq_some_iff.mp hlast
    rw [List.dropLast_concat]
    by_cases hi : i < front.length
    · rwa [List.getElem?_append_left hi] at h
    · -- Only the carriage return stands there.
      rw [List.getElem?_append_right (Nat.le_of_not_lt hi)] at h
      exact absurd (List.mem_singleton.mp (List.mem_of_getElem? h)) hc
  · exact h

theorem mem_of_mem_dropReturn {text : List Char} {c : Char} (h : c ∈ dropReturn text) :
    c ∈ text := by
  rw [dropReturn] at h
  split at h
  · exact List.mem_of_mem_dropLast h
  · exact h

end Lines

/-! ### The line of a place -/

/-- A text is cut around a place: into the lines above it, what stands before and behind it on its
line, and what stands below. That is nothing, or it begins with the line feed that ends the line. -/
structure IsCutAround (above head tail below : List Char) : Prop where
  /-- Above stand whole lines. -/
  above_ends : EndsLine above
  /-- Before the place there is no line feed on its line. -/
  head_line : '\n' ∉ head
  /-- Behind the place there is no line feed on its line. -/
  tail_line : '\n' ∉ tail
  /-- A line feed ends the line, or the end of the text does. -/
  below_begins : ∀ c ∈ below.head?, c = '\n'

/-- Every text can be cut around every place, in the sense of `IsCutAround`. -/
theorem exists_isCutAround (front behind : List Char) :
    ∃ above head tail below, IsCutAround above head tail below
      ∧ front = above ++ head ∧ behind = tail ++ below := by
  obtain ⟨above, head, hfront, habove, hhead⟩ := exists_endsLine_append front
  refine ⟨above, head, behind.takeWhile (· ≠ '\n'), behind.dropWhile (· ≠ '\n'),
    ⟨habove, hhead, fun hmem => ?_, fun c hc => ?_⟩, hfront, List.takeWhile_append_dropWhile.symm⟩
  · simpa using List.mem_takeWhile_imp hmem
  · have := List.head?_dropWhile_not (· ≠ '\n') behind
    simp_all

namespace IsCutAround

variable {above head tail below : List Char}

/-- The place stands as many characters from the beginning of its line as stand before it there, so
the cut tells what `Position.after` gives. -/
theorem after_eq (h : IsCutAround above head tail below) :
    Position.start.after (above ++ head) = ⟨1 + above.count '\n', 1 + head.length⟩ := by
  rw [Position.after_append, Position.after_of_endsLine h.above_ends,
    Position.after_of_not_mem h.head_line]

/-- The line with the number of the place, which `Lines.nth?` finds in the cut. -/
theorem nth?_eq (h : IsCutAround above head tail below) :
    Lines.nth? (above ++ (head ++ tail ++ below)) (1 + above.count '\n') =
      if below = [] then (if head ++ tail = [] then none else some (head ++ tail))
      else some (Lines.dropReturn (head ++ tail)) := by
  have hline : '\n' ∉ head ++ tail := by simp [h.head_line, h.tail_line]
  rw [Nat.add_comm, Lines.nth?, ← Nat.add_zero (above.count '\n'),
    Lines.getElem?_ofText_append h.above_ends]
  cases below with
  | nil =>
    rw [List.append_nil, Lines.ofText_of_not_mem hline, if_pos rfl]
    split <;> rfl
  | cons c below =>
    obtain rfl : c = '\n' := h.below_begins c rfl
    rw [Lines.ofText_line hline, if_neg (List.cons_ne_nil _ _)]
    rfl

end IsCutAround

/-- The line of a text around the place behind `front`: what stands between the line feeds around
the place, without a carriage return directly before the line feed that ends the line. -/
def Lines.IsLineAround (text front line : List Char) : Prop :=
  ∃ above head tail below, IsCutAround above head tail below
    ∧ text = above ++ (head ++ tail ++ below) ∧ front = above ++ head
    ∧ line = if below = [] then head ++ tail else dropReturn (head ++ tail)

end Modlet
