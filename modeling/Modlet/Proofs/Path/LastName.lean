import Mathlib.Data.List.Basic
import Modlet.Path.LastName

/-!
# The last name of a path, found and taken apart

Taking a path apart from the front finds the name that it ends in, and no other. A name is a stem
and an extension if there is a dot in it behind its first character; the last such dot counts.

* `Path.fileName?_eq_some_iff`: the name of the file is the one that the path ends in.
* `Path.splitName_cases`: a name has an extension, or it has no dot behind its first character, or
  it is the step up.
* `Path.extension?_eq_some_iff`: what it means for a path to have an extension.
-/

namespace Modlet.Path

/-! ### Pieces that are names -/

theorem Component.ofPiece?_eq_none_iff {piece : List Char} :
    ofPiece? piece = none ↔ piece = [] ∨ piece = ['.'] := by
  rw [ofPiece?]
  split
  · next h => simp [h]
  · next h => split <;> simp [h]

theorem Component.ofPiece?_eq_name_iff {piece name : List Char} :
    ofPiece? piece = some (.name name) ↔
      piece = name ∧ name ≠ [] ∧ name ≠ ['.'] ∧ name ≠ ['.', '.'] := by
  rw [ofPiece?]
  constructor
  · intro h
    split at h
    · cases h
    · next hsays =>
      split at h
      · cases h
      · next hup =>
        cases h
        rw [not_or] at hsays
        exact ⟨rfl, hsays.1, hsays.2, hup⟩
  · rintro ⟨rfl, hne, hhere, hup⟩
    rw [if_neg (not_or.mpr ⟨hne, hhere⟩), if_neg hup]

/-- The name that `fileName?` finds is the last piece that says anything, if that is a name. -/
theorem fileName?_eq_some_iff_pieces {path name : List Char} :
    fileName? path = some name ↔
      ∃ before after, Text.pieces '/' path = before ++ name :: after
        ∧ (name ≠ [] ∧ name ≠ ['.'] ∧ name ≠ ['.', '.'])
        ∧ ∀ piece ∈ after, piece = [] ∨ piece = ['.'] := by
  have hlast : fileName? path = some name ↔ (components path).getLast? = some (.name name) := by
    rw [fileName?]
    split <;> simp_all
  -- What is told apart at the front is never the name of a file.
  have hlead : (components path).getLast? = some (.name name) ↔
      ((Text.pieces '/' path).filterMap Component.ofPiece?).getLast? = some (.name name) := by
    rw [components, List.getLast?_append, Option.or_eq_some_iff]
    refine or_iff_left ?_
    rintro ⟨-, hfront⟩
    split at hfront
    · cases hfront
    · split at hfront <;> cases hfront
  rw [hlast, hlead, List.getLast?_filterMap, List.findSome?_eq_some_iff]
  constructor
  · rintro ⟨after, piece, before, hpieces, hname, hafter⟩
    obtain ⟨rfl, hsays⟩ := Component.ofPiece?_eq_name_iff.mp hname
    refine ⟨before.reverse, after.reverse, ?_, hsays, fun p hp => ?_⟩
    · simpa using congrArg List.reverse hpieces
    · exact Component.ofPiece?_eq_none_iff.mp (hafter p (List.mem_reverse.mp hp))
  · rintro ⟨before, after, hpieces, hsays, hafter⟩
    refine ⟨after.reverse, name, before.reverse, by simp [hpieces],
      Component.ofPiece?_eq_name_iff.mpr ⟨rfl, hsays⟩, fun p hp => ?_⟩
    exact Component.ofPiece?_eq_none_iff.mpr (hafter p (List.mem_reverse.mp hp))

/-! ### The end of a path -/

/-- What `IsTrailing` allows at the end of a path are pieces that say nothing, each behind a
slash. -/
theorem isTrailing_iff {trailing : List Char} :
    IsTrailing trailing ↔
      ∃ after : List (List Char), trailing = after.flatMap ('/' :: ·)
        ∧ ∀ piece ∈ after, piece = [] ∨ piece = ['.'] := by
  -- Each step of the derivation is one piece behind a slash.
  constructor
  · intro h
    induction h with
    | nil => exact ⟨[], rfl, by simp⟩
    | slash _ ih =>
      obtain ⟨after, rfl, hafter⟩ := ih
      exact ⟨[] :: after, rfl, List.forall_mem_cons.mpr ⟨.inl rfl, hafter⟩⟩
    | dot _ ih =>
      obtain ⟨after, rfl, hafter⟩ := ih
      exact ⟨['.'] :: after, rfl, List.forall_mem_cons.mpr ⟨.inr rfl, hafter⟩⟩
  · rintro ⟨after, rfl, hafter⟩
    induction after with
    | nil => exact .nil
    | cons piece after ih =>
      rw [List.forall_mem_cons] at hafter
      obtain ⟨rfl | rfl, hafter⟩ := hafter
      · exact .slash (ih hafter)
      · exact .dot (ih hafter)

/-- The name that `fileName?` finds is the one that the path ends in, `EndsIn`. -/
theorem fileName?_eq_some_iff {path name : List Char} :
    fileName? path = some name ↔ EndsIn path name := by
  rw [fileName?_eq_some_iff_pieces]
  constructor
  · rintro ⟨before, after, hpieces, ⟨hne, hhere, hup⟩, hafter⟩
    have hmem : name ∈ Text.pieces '/' path := by simp [hpieces]
    have hslash := Text.not_mem_of_mem_pieces hmem
    have hwhole := Text.flatMap_pieces '/' path
    rw [hpieces, List.flatMap_append, List.flatMap_cons] at hwhole
    refine ⟨⟨hne, hslash, hhere, hup⟩, ?_⟩
    -- The slash before the first piece is none of the path.
    cases before with
    | nil =>
      refine ⟨[], after.flatMap ('/' :: ·), ?_, .inl rfl, isTrailing_iff.mpr ⟨after, rfl, hafter⟩⟩
      simpa using hwhole.symm
    | cons first before =>
      refine ⟨first ++ before.flatMap ('/' :: ·) ++ ['/'], after.flatMap ('/' :: ·), ?_,
        .inr (by simp), isTrailing_iff.mpr ⟨after, rfl, hafter⟩⟩
      simpa using hwhole.symm
  · rintro ⟨⟨hne, hslash, hhere, hup⟩, front, trailing, rfl, hfront, htrailing⟩
    obtain ⟨after, rfl, hafter⟩ := isTrailing_iff.mp htrailing
    have hends : Text.pieces '/' (name ++ after.flatMap ('/' :: ·)) = name :: after := by
      refine Text.pieces_append_flatMap hslash fun piece hpiece => ?_
      rcases hafter piece hpiece with rfl | rfl <;> simp
    rcases hfront with rfl | hfront
    · exact ⟨[], after, by simpa using hends, ⟨hne, hhere, hup⟩, hafter⟩
    · obtain ⟨front, rfl⟩ := List.getLast?_eq_some_iff.mp hfront
      refine ⟨Text.pieces '/' front, after, ?_, ⟨hne, hhere, hup⟩, hafter⟩
      rw [← hends, ← Text.pieces_append_cons]
      simp

/-- A path `EndsIn` one name only. -/
theorem EndsIn.unique {path name other : List Char} (h : EndsIn path name)
    (hother : EndsIn path other) : name = other := by
  rw [← fileName?_eq_some_iff] at h hother
  exact Option.some.inj (h.symm.trans hother)

/-- A text that `IsName` is a path that `EndsIn` itself. -/
theorem IsName.endsIn {name : List Char} (h : IsName name) : EndsIn name name :=
  ⟨h, [], [], by simp, .inl rfl, .nil⟩

/-! ### Stems and extensions -/

/-- The last dot of a name separates its extension in `splitName`, if there is something before
it. -/
theorem splitName_dotted {stem extension : List Char} (hstem : stem ≠ [])
    (hextension : '.' ∉ extension) (hup : stem ++ '.' :: extension ≠ ['.', '.']) :
    splitName (stem ++ '.' :: extension) = (stem, some extension) := by
  -- Read from its end, the name begins with the extension up to the dot.
  have hbehind : ∀ c ∈ extension.reverse, decide (c ≠ '.') = true := by
    intro c hc
    have hmem := List.mem_reverse.mp hc
    exact decide_eq_true fun h => hextension (h ▸ hmem)
  have hreverse :
      (stem ++ '.' :: extension).reverse = extension.reverse ++ '.' :: stem.reverse := by
    simp
  rw [splitName, hreverse, List.takeWhile_append_of_pos hbehind,
    List.dropWhile_append_of_pos hbehind]
  simp [hstem, hup]

/-- A name with no dot behind its first character has no extension in `splitName`. -/
theorem splitName_bare {name : List Char} (h : '.' ∉ name.tail) :
    splitName name = (name, none) := by
  rw [splitName, if_pos]
  right
  cases name with
  | nil => rfl
  | cons c tail =>
    have htail : ∀ d ∈ tail.reverse, decide (d ≠ '.') = true := by
      intro d hd
      have hmem := List.mem_reverse.mp hd
      exact decide_eq_true fun hdot => h (hdot ▸ hmem)
    rw [List.reverse_cons, List.dropWhile_append_of_pos htail, List.reverse_eq_nil_iff]
    by_cases hc : c = '.' <;> simp [hc]

/-- A dot behind the first character of a name has a last one. -/
theorem exists_dotted {name : List Char} (h : '.' ∈ name.tail) :
    ∃ stem extension, stem ≠ [] ∧ '.' ∉ extension ∧ name = stem ++ '.' :: extension := by
  cases name with
  | nil => cases h
  | cons c tail =>
    obtain ⟨extension, stem, hreverse, hextension⟩ :=
      List.eq_append_cons_of_mem (List.mem_reverse.mpr h)
    -- The first character belongs to the stem, whatever it is.
    refine ⟨c :: stem.reverse, extension.reverse, List.cons_ne_nil _ _, by simpa using hextension,
      ?_⟩
    have htail : tail = stem.reverse ++ '.' :: extension.reverse := by
      simpa using congrArg List.reverse hreverse
    rw [htail, List.cons_append]

/-- The three cases of `splitName`: a name has an extension, or it has no dot behind its first
character, or it is the step up. -/
theorem splitName_cases (name : List Char) :
    (∃ stem extension, stem ≠ [] ∧ '.' ∉ extension ∧ name = stem ++ '.' :: extension
      ∧ name ≠ ['.', '.'] ∧ splitName name = (stem, some extension))
    ∨ ('.' ∉ name.tail ∧ splitName name = (name, none)) ∨ name = ['.', '.'] := by
  by_cases hup : name = ['.', '.']
  · exact .inr (.inr hup)
  by_cases hdot : '.' ∈ name.tail
  · obtain ⟨stem, extension, hstem, hextension, rfl⟩ := exists_dotted hdot
    exact .inl ⟨stem, extension, hstem, hextension, rfl, hup,
      splitName_dotted hstem hextension hup⟩
  · exact .inr (.inl ⟨hdot, splitName_bare hdot⟩)

/-- A path has the `extension?` if the name that it `EndsIn` is a stem, a dot and that extension. -/
theorem extension?_eq_some_iff {path extension : List Char} :
    extension? path = some extension ↔
      '.' ∉ extension ∧ ∃ stem, stem ≠ [] ∧ EndsIn path (stem ++ '.' :: extension) := by
  rw [extension?, Option.bind_eq_some_iff]
  simp only [fileName?_eq_some_iff]
  constructor
  · rintro ⟨name, hends, hname⟩
    -- A name has one stem and one extension, or no extension.
    obtain ⟨stem, other, hstem, hother, rfl, -, hsplit⟩ | ⟨-, hsplit⟩ | rfl := splitName_cases name
    · rw [hsplit] at hname
      cases hname
      exact ⟨hother, stem, hstem, hends⟩
    · rw [hsplit] at hname
      cases hname
    · exact absurd rfl hends.1.2.2.2
  · rintro ⟨hextension, stem, hstem, hends⟩
    refine ⟨_, hends, ?_⟩
    rw [splitName_dotted hstem hextension hends.1.2.2.2]

/-- The `stem?` of a path with an extension stands before that extension. -/
theorem stem?_of_endsIn {path stem extension : List Char} (hextension : '.' ∉ extension)
    (hstem : stem ≠ []) (h : EndsIn path (stem ++ '.' :: extension)) : stem? path = some stem := by
  rw [stem?, fileName?_eq_some_iff.mpr h, Option.map_some,
    splitName_dotted hstem hextension h.1.2.2.2]

end Modlet.Path
