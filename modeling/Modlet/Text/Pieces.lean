/-!
# The pieces of a text between its marks

A text is cut at every occurrence of a mark, which belongs to no piece. There is always one piece
more than there are marks.
-/

namespace Modlet.Text

/-- The pieces of a text between the marks `mark`, empty ones included. -/
def pieces (mark : Char) : List Char → List (List Char)
  | [] => [[]]
  | c :: rest =>
    if c = mark then [] :: pieces mark rest
    else
      match pieces mark rest with
      | [] => [[c]]
      | piece :: more => (c :: piece) :: more

/-- There is always a piece. -/
theorem pieces_ne_nil (mark : Char) (text : List Char) : pieces mark text ≠ [] := by
  cases text with
  | nil => simp [pieces]
  | cons c rest =>
    simp only [pieces]
    split
    · simp
    · split <;> simp

/-- A text without the `mark` is one piece. -/
theorem pieces_of_not_mem {mark : Char} {text : List Char} (h : mark ∉ text) :
    pieces mark text = [text] := by
  induction text with
  | nil => rfl
  | cons c rest ih =>
    simp only [List.mem_cons, not_or] at h
    simp [pieces, Ne.symm h.1, ih h.2]

/-- A text is cut by `pieces` at each of its marks. -/
theorem pieces_append_cons (mark : Char) (text rest : List Char) :
    pieces mark (text ++ mark :: rest) = pieces mark text ++ pieces mark rest := by
  induction text with
  | nil => simp [pieces]
  | cons c more ih =>
    by_cases hc : c = mark
    · simp [pieces, hc, ih]
    · rw [List.cons_append, pieces, if_neg hc, pieces, if_neg hc, ih]
      cases hpieces : pieces mark more with
      | nil => exact absurd hpieces (pieces_ne_nil mark more)
      | cons piece others => rfl

/-- The first `mark` of a text ends its first piece. -/
theorem pieces_append {mark : Char} {text : List Char} (h : mark ∉ text) (rest : List Char) :
    pieces mark (text ++ mark :: rest) = text :: pieces mark rest := by
  rw [pieces_append_cons, pieces_of_not_mem h, List.singleton_append]

/-- The mark belongs to no piece. -/
theorem not_mem_of_mem_pieces {mark : Char} {text piece : List Char}
    (h : piece ∈ pieces mark text) : mark ∉ piece := by
  induction text generalizing piece with
  | nil => simp_all [pieces]
  | cons c rest ih =>
    rw [pieces] at h
    split at h
    · rcases List.mem_cons.mp h with rfl | hmem
      · exact List.not_mem_nil
      · exact ih hmem
    · next hc =>
      cases hpieces : pieces mark rest with
      | nil => exact absurd hpieces (pieces_ne_nil mark rest)
      | cons first others =>
        rw [hpieces] at h ih
        rcases List.mem_cons.mp h with rfl | hmem
        · rw [List.mem_cons, not_or]
          exact ⟨Ne.symm hc, ih List.mem_cons_self⟩
        · exact ih (List.mem_cons_of_mem _ hmem)

/-- The `pieces` with a mark before each of them are the text with a mark before it. -/
theorem flatMap_pieces (mark : Char) (text : List Char) :
    (pieces mark text).flatMap (mark :: ·) = mark :: text := by
  induction text with
  | nil => rfl
  | cons c rest ih =>
    rw [pieces]
    split
    · next hc => rw [List.flatMap_cons, ih, hc, List.singleton_append]
    · cases hpieces : pieces mark rest with
      | nil => exact absurd hpieces (pieces_ne_nil mark rest)
      | cons first others =>
        rw [hpieces, List.flatMap_cons, List.cons_append, List.cons.injEq] at ih
        rw [List.flatMap_cons, List.cons_append, List.cons_append, ih.2]

/-- A text with pieces behind it, each behind a mark, is cut into that text and those pieces. -/
theorem pieces_append_flatMap {mark : Char} {text : List Char} {others : List (List Char)}
    (h : mark ∉ text) (hothers : ∀ piece ∈ others, mark ∉ piece) :
    pieces mark (text ++ others.flatMap (mark :: ·)) = text :: others := by
  induction others generalizing text with
  | nil => rw [List.flatMap_nil, List.append_nil, pieces_of_not_mem h]
  | cons piece others ih =>
    rw [List.forall_mem_cons] at hothers
    rw [List.flatMap_cons, List.cons_append, pieces_append h, ih hothers.1 hothers.2]

end Modlet.Text
