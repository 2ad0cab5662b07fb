import Mathlib
import Modlet.Host.FileSystem

/-!
# Laws of files

Writing a file changes that file and no other, and what was written is read from it again. The names
of a path lead to the same location before and after, because neither a directory nor a link is ever
overwritten.

* `FileSystem.IsTree`: files in directories, where all names of a file lead to the same.
* `FileSystem.IsVacant`: a path leads to where there is nothing.
* `FileSystem.DiffersAt`: two trees differ in the content of one file.
* `FileSystem.write_cases`: all that a write that succeeds can do.
* `FileSystem.differsAt_of_write`: what a write changes.
* `FileSystem.read_of_write`: what was written is read again.
-/

namespace Modlet.FileSystem

variable {fs fs' : FileSystem} {location other : Location} {path : String} {content : ByteArray}

/-- There is a link at a location. -/
def IsLink (fs : FileSystem) (location : Location) : Prop :=
  ∃ path, fs.node? location = some (.link path)

/-- What is at a location is neither a directory nor a link by any of its names. -/
def IsPlain (fs : FileSystem) (location : Location) : Prop :=
  ∀ other ∈ fs.namesOf location, fs.node? other ≠ some .directory ∧ ¬ fs.IsLink other

/-- The files are a tree of directories, in one of which one works, and all names of a file lead to
the same. What `read_of_write` needs of links follows from that. -/
structure IsTree (fs : FileSystem) : Prop where
  /-- One works in a directory. -/
  here : fs.node? fs.here = some .directory
  /-- What has something below it is a directory. -/
  above : ∀ location name, fs.node? (location ++ [name]) ≠ none →
    fs.node? location = some .directory
  /-- The names of a file agree. -/
  names : ∀ location, ∀ other ∈ fs.namesOf location, fs.node? other = fs.node? location

/-- A path leads to a location where there is nothing, and which is no other name of anything. -/
def IsVacant (fs : FileSystem) (path : String) : Prop :=
  ∃ location, fs.locate path = .ok location ∧ fs.node? location = none
    ∧ fs.namesOf location = [location]

/-- The tree `after` has a file with the content `content` at a location, and is like the tree
`before` apart from that file. -/
structure DiffersAt (before : FileSystem) (location : Location) (content : ByteArray)
    (after : FileSystem) : Prop where
  /-- The file holds the content. -/
  holds : after.node? location = some (.file content)
  /-- It does so by all its names; the top of a tree is no name of a file. -/
  names_hold : ∀ other ∈ before.namesOf location, other ≠ [] →
    after.node? other = some (.file content)
  /-- All other locations have what they had. -/
  node?_eq : ∀ other ∉ before.namesOf location, after.node? other = before.node? other
  /-- What is there has the rights that it had. -/
  rightsAt_eq : ∀ other ∉ before.namesOf location, after.rightsAt other = before.rightsAt other
  /-- Files have the names that they had. -/
  twins_eq : after.twins = before.twins
  /-- One works in the same directory. -/
  here_eq : after.here = before.here
  /-- The same rights are held back. -/
  mask_eq : after.mask = before.mask

/-! ### What is put where -/

theorem mem_namesOf (fs : FileSystem) (location : Location) : location ∈ fs.namesOf location := by
  unfold namesOf
  cases h : fs.twins.find? (·.contains location) with
  | none => exact List.mem_singleton_self location
  | some names => simpa using List.find?_some h

theorem lookup_map_of_mem {α : Type} {all : List Location} (h : other ∈ all) (a : α) :
    (all.map (·, a)).lookup other = some a := by
  induction all with
  | nil => cases h
  | cons first rest ih =>
    rw [List.map_cons, List.lookup_cons]
    by_cases heq : other = first
    · simp [heq]
    · rw [beq_false_of_ne heq]
      exact ih ((List.mem_cons.mp h).resolve_left heq)

theorem lookup_map_of_not_mem {α : Type} {all : List Location} (h : other ∉ all) (a : α) :
    (all.map (·, a)).lookup other = none := by
  rw [List.lookup_eq_none_iff]
  intro entry hentry
  obtain ⟨name, hname, rfl⟩ := List.mem_map.mp hentry
  exact bne_iff_ne.mpr fun heq => h (heq.symm ▸ hname)

/-- Entries that are taken out by their locations make no difference to the others. -/
theorem lookup_filter {α : Type} (stays : Location → Bool) (other : Location)
    (entries : List (Location × α)) :
    (entries.filter fun entry => stays entry.1).lookup other =
      if stays other then entries.lookup other else none := by
  induction entries with
  | nil => simp
  | cons entry entries ih =>
    obtain ⟨first, a⟩ := entry
    rw [List.filter_cons, List.lookup_cons]
    by_cases heq : other = first
    · subst heq
      cases hstays : stays other <;> simp [ih, hstays]
    · rw [beq_false_of_ne heq]
      cases stays first <;> simp [ih, List.lookup_cons, beq_false_of_ne heq]

theorem lookup_filter_of_not_mem {α : Type} {all : List Location} (h : other ∉ all)
    (entries : List (Location × α)) :
    (entries.filter fun entry => !all.contains entry.1).lookup other = entries.lookup other := by
  rw [lookup_filter (!all.contains ·)]
  exact if_pos (by simpa using h)

/-- What `put` puts at a location is at all names of what was there. -/
theorem node?_put_of_mem (h : other ∈ fs.namesOf location) (hne : other ≠ []) (node : Node) :
    (fs.put location node).node? other = some node := by
  rw [node?, if_neg hne, put, List.lookup_append, lookup_map_of_mem h, Option.some_or]

/-- What `put` puts at a location makes no difference elsewhere. -/
theorem node?_put_of_not_mem (h : other ∉ fs.namesOf location) (node : Node) :
    (fs.put location node).node? other = fs.node? other := by
  rw [node?, node?, put, List.lookup_append, lookup_map_of_not_mem h, Option.none_or,
    lookup_filter_of_not_mem h]

/-- What `remove` takes away is a location with all that is below it, and nothing else. -/
theorem node?_remove (hne : location ≠ []) (other : Location) :
    (fs.remove location).node? other =
      if location.isPrefixOf other then none else fs.node? other := by
  cases other with
  | nil =>
    -- The top of the tree is below no location but itself.
    have habove : location.isPrefixOf [] = false := by
      rw [Bool.eq_false_iff, Ne, List.isPrefixOf_iff_prefix, List.prefix_nil]
      exact hne
    rw [habove]
    rfl
  | cons name names =>
    rw [node?, if_neg (List.cons_ne_nil name names), remove, lookup_filter (!location.isPrefixOf ·),
      node?, if_neg (List.cons_ne_nil name names)]
    cases location.isPrefixOf (name :: names) <;> rfl

/-- What `make` makes is put at its location, and may be given other rights. -/
theorem make_cases (fs : FileSystem) (location : Location) (node : Node) :
    fs.make location node = fs.put location node
      ∨ ∃ rights, fs.make location node = (fs.put location node).setRights location rights := by
  unfold make
  by_cases hmask : fs.mask = 0o022
  · exact .inl (if_pos hmask)
  · exact .inr ⟨_, if_neg hmask⟩

theorem rightsAt_put_of_not_mem (h : other ∉ fs.namesOf location) (node : Node) :
    (fs.put location node).rightsAt other = fs.rightsAt other := by
  rw [rightsAt, rightsAt, node?_put_of_not_mem h]
  rfl

theorem rightsAt_setRights_of_not_mem (h : other ∉ fs.namesOf location) (rights : Nat) :
    (fs.setRights location rights).rightsAt other = fs.rightsAt other := by
  have hrights : (fs.setRights location rights).rights.lookup other = fs.rights.lookup other := by
    rw [setRights, List.lookup_append, lookup_map_of_not_mem h, Option.none_or,
      lookup_filter_of_not_mem h]
  rw [rightsAt, rightsAt, hrights]
  rfl

/-- Putting a file in the place of what is at a location changes nothing else: the trees `DiffersAt`
that location alone. -/
theorem differsAt_put (hne : location ≠ []) (content : ByteArray) :
    fs.DiffersAt location content (fs.put location (.file content)) where
  holds := node?_put_of_mem (fs.mem_namesOf location) hne _
  names_hold _ h hne := node?_put_of_mem h hne _
  node?_eq _ h := node?_put_of_not_mem h _
  rightsAt_eq _ h := rightsAt_put_of_not_mem h _
  twins_eq := rfl
  here_eq := rfl
  mask_eq := rfl

/-- Other rights of a file are no difference to what it holds, so `DiffersAt` stays. -/
theorem DiffersAt.setRights (h : fs.DiffersAt location content fs') (rights : Nat) :
    fs.DiffersAt location content (fs'.setRights location rights) where
  holds := h.holds
  names_hold := h.names_hold
  node?_eq := h.node?_eq
  rightsAt_eq other hother := by
    have hnames : fs'.namesOf location = fs.namesOf location := by
      rw [namesOf, namesOf, h.twins_eq]
    rw [rightsAt_setRights_of_not_mem (hnames ▸ hother), h.rightsAt_eq other hother]
  twins_eq := h.twins_eq
  here_eq := h.here_eq
  mask_eq := h.mask_eq

/-- Making a file with `make` changes nothing else. -/
theorem differsAt_make (hne : location ≠ []) (content : ByteArray) :
    fs.DiffersAt location content (fs.make location (.file content)) := by
  rcases fs.make_cases location (.file content) with hmake | ⟨rights, hmake⟩
  · rw [hmake]
    exact differsAt_put hne content
  · rw [hmake]
    exact (differsAt_put hne content).setRights rights

/-! ### What a write does -/

/-- A `write` that succeeds goes to a location where no directory is. A device there takes what is
written, and else the file is there in the end, whether something was there or not. -/
theorem write_cases (h : fs.write path content = .ok fs') :
    ∃ location, fs.locate path = .ok location ∧ wantsDirectory path = false
      ∧ fs.node? location ≠ some .directory
      ∧ ((fs' = fs ∧ ∃ device, fs.node? location = some (.device device))
        ∨ ((∀ device, fs.node? location ≠ some (.device device))
          ∧ (fs' = fs.put location (.file content) ∨ fs' = fs.make location (.file content)))) := by
  unfold write at h
  cases hlocate : fs.locate path with
  | error e => simp [hlocate, bind, Except.bind] at h
  | ok location =>
    simp only [hlocate, bind, Except.bind] at h
    cases hwants : wantsDirectory path with
    | true => simp [hwants] at h
    | false =>
      refine ⟨location, rfl, rfl, ?_⟩
      simp only [hwants, Bool.false_eq_true, if_false] at h
      cases hnode : fs.node? location with
      | none =>
        simp only [hnode] at h
        cases h
        simp
      | some node =>
        simp only [hnode] at h
        cases node with
        | directory => cases h
        | device device =>
          -- A full device takes an empty content only, and a terminal none at all.
          have hsame : fs' = fs := by
            cases device with
            | full =>
              dsimp only at h
              split at h <;> cases h
              rfl
            | terminal => cases h
            | null => cases h; rfl
            | zero => cases h; rfl
            | stream number => cases h; rfl
          simp [hsame]
        | file old => cases h; simp
        | program name => cases h; simp
        | link target => cases h; simp

/-- What `write` writes to a device changes no file. -/
theorem eq_of_write_device {device : Device} (hdevice : fs.deviceAt? path = some device)
    (h : fs.write path content = .ok fs') : fs' = fs := by
  obtain ⟨location, hlocate, hwants, -, ⟨hsame, -⟩ | ⟨hnone, -⟩⟩ := write_cases h
  · exact hsame
  · cases hnode : fs.node? location with
    | none => simp [deviceAt?, hlocate, hnode] at hdevice
    | some node =>
      cases node with
      | device other => exact absurd hnode (hnone other)
      | _ => simp [deviceAt?, hlocate, hnode] at hdevice

/-! ### Paths lead where they led -/

/-- A tree has the directories of another, and the links of the other and no more. -/
structure Keeps (fs fs' : FileSystem) : Prop where
  directory : ∀ location, fs.node? location = some .directory →
    fs'.node? location = some .directory
  link : ∀ location path, fs'.node? location = some (.link path) ↔
    fs.node? location = some (.link path)

/-- Names that lead somewhere by `walk` lead to the same location in a tree with the same links. -/
theorem Keeps.walk (h : fs.Keeps fs') (stays : Bool)
    {lead lead' : Location → List String → Except IoError Location}
    (hlead : ∀ start names target, lead start names = .ok target → lead' start names = .ok target)
    {names : List String} {start target : Location}
    (hwalk : fs.walk stays lead start names = .ok target) :
    fs'.walk stays lead' start names = .ok target := by
  induction names generalizing start with
  | nil => exact hwalk
  | cons name names ih =>
    rw [FileSystem.walk] at hwalk ⊢
    cases hstart : fs.node? start with
    | none => simp [hstart] at hwalk
    | some node =>
      cases node with
      | directory =>
        simp only [hstart, h.directory start hstart] at hwalk ⊢
        by_cases hdot : name = "."
        · rw [if_pos hdot] at hwalk ⊢
          exact ih hwalk
        rw [if_neg hdot] at hwalk ⊢
        by_cases hup : name = ".."
        · rw [if_pos hup] at hwalk ⊢
          exact ih hwalk
        rw [if_neg hup] at hwalk ⊢
        by_cases hlong : name.utf8ByteSize > longestName
        · rw [if_pos hlong] at hwalk
          cases hwalk
        rw [if_neg hlong] at hwalk ⊢
        split at hwalk
        · next path hlink =>
          -- At a link both go where it leads, and at all else one name further.
          simp only [(h.link _ path).mpr hlink]
          split at hwalk
          · next hlast =>
            rw [if_pos hlast]
            exact hwalk
          · next hlast =>
            rw [if_neg hlast]
            exact hlead _ _ _ hwalk
        · next hother =>
          split
          · next path hlink => exact absurd ((h.link _ path).mp hlink) (hother path)
          · exact ih hwalk
      | _ => simp [hstart] at hwalk

theorem Keeps.follow (h : fs.Keeps fs') (stays : Bool) {links : Nat} {names : List String}
    {start target : Location} (hfollow : fs.follow stays links start names = .ok target) :
    fs'.follow stays links start names = .ok target := by
  induction links generalizing start names target with
  | zero => exact h.walk stays (fun _ _ _ hlead => by cases hlead) hfollow
  | succ links ih => exact h.walk stays (fun _ _ _ hlead => ih hlead) hfollow

/-- A path leads somewhere by `locate` exactly if it is a path at all and its names lead there. -/
theorem locate_eq_ok_iff : fs.locate path = .ok location ↔
    path ≠ "" ∧ '\x00' ∉ path.toList ∧ path.utf8ByteSize ≤ longestPath
      ∧ fs.follow false mostLinks (if path.toList.head? = some '/' then [] else fs.here)
        (names path) = .ok location := by
  unfold locate find
  split
  · next hempty => simp [hempty]
  split
  · next hnul => simp [hnul]
  split
  · next hlong => simp [Nat.not_le.mpr hlong]
  · next hempty hnul hlong =>
    rw [Bool.false_and]
    exact ⟨fun h => ⟨hempty, hnul, Nat.le_of_not_lt hlong, h⟩, fun h => h.2.2.2⟩

/-- A path leads to the same location in a tree with the same links: `Keeps` passes to `locate`. -/
theorem Keeps.locate (h : fs.Keeps fs') (hhere : fs'.here = fs.here)
    (hlocate : fs.locate path = .ok location) : fs'.locate path = .ok location := by
  rw [locate_eq_ok_iff] at hlocate ⊢
  obtain ⟨hempty, hnul, hlong, hfollow⟩ := hlocate
  rw [hhere]
  exact ⟨hempty, hnul, hlong, h.follow _ hfollow⟩

theorem not_isLink_of_directory (h : fs.node? location = some .directory) :
    ¬ fs.IsLink location := by
  rintro ⟨path, hlink⟩
  rw [h] at hlink
  cases hlink

/-- One step up from a directory of an `IsTree` there is a directory. -/
theorem IsTree.not_isLink_dropLast (h : fs.IsTree) (hnode : fs.node? location = some .directory) :
    ¬ fs.IsLink location.dropLast := by
  apply not_isLink_of_directory
  rcases List.eq_nil_or_concat location with rfl | ⟨above, name, rfl⟩
  · rfl
  · rw [List.concat_eq_append] at hnode ⊢
    rw [List.dropLast_concat]
    exact h.above above name (by simp [hnode])

/-- Walking an `IsTree` that follows links does not come to a link. -/
theorem IsTree.walk_ne_link (h : fs.IsTree)
    {lead : Location → List String → Except IoError Location}
    (hlead : ∀ start names target, ¬ fs.IsLink start → lead start names = .ok target →
      ¬ fs.IsLink target)
    {names : List String} {start target : Location} (hstart : ¬ fs.IsLink start)
    (hwalk : fs.walk false lead start names = .ok target) : ¬ fs.IsLink target := by
  -- No place on the way is a link: a name that leads to one is followed by `lead`, which starts
  -- afresh from a directory.
  induction names generalizing start with
  | nil =>
    cases hwalk
    exact hstart
  | cons name names ih =>
    rw [walk] at hwalk
    split at hwalk
    · cases hwalk
    · next hdirectory =>
      split at hwalk
      · exact ih hstart hwalk
      split at hwalk
      · exact ih (h.not_isLink_dropLast hdirectory) hwalk
      split at hwalk
      · cases hwalk
      split at hwalk
      · next path hlink =>
        rw [if_neg (by simp)] at hwalk
        refine hlead _ _ _ ?_ hwalk
        split
        · exact not_isLink_of_directory rfl
        · exact hstart
      · next hother =>
        refine ih ?_ hwalk
        rintro ⟨path, hlink⟩
        exact hother path hlink
    · cases hwalk

theorem IsTree.follow_ne_link (h : fs.IsTree) {links : Nat} {names : List String}
    {start target : Location} (hstart : ¬ fs.IsLink start)
    (hfollow : fs.follow false links start names = .ok target) : ¬ fs.IsLink target := by
  induction links generalizing start names target with
  | zero => exact h.walk_ne_link (fun _ _ _ _ hlead => by cases hlead) hstart hfollow
  | succ links ih => exact h.walk_ne_link (fun _ _ _ hstart hlead => ih hstart hlead) hstart hfollow

/-- A path that `locate` follows to its end leads to no link. -/
theorem IsTree.locate_ne_link (h : fs.IsTree) (hlocate : fs.locate path = .ok location) :
    ¬ fs.IsLink location := by
  obtain ⟨-, -, -, hfollow⟩ := locate_eq_ok_iff.mp hlocate
  refine h.follow_ne_link ?_ hfollow
  split
  · exact not_isLink_of_directory rfl
  · exact not_isLink_of_directory h.here

/-! ### What was written is read -/

/-- A file in the place of what `IsPlain` leaves all directories and links. -/
theorem DiffersAt.keeps (h : fs.DiffersAt location content fs') (hplain : fs.IsPlain location) :
    fs.Keeps fs' where
  directory other hdirectory := by
    -- Elsewhere nothing has changed, and at the names of the file there was neither a directory nor
    -- a link.
    by_cases hother : other ∈ fs.namesOf location
    · exact absurd hdirectory (hplain other hother).1
    · rw [h.node?_eq other hother, hdirectory]
  link other path := by
    by_cases hother : other ∈ fs.namesOf location
    · -- The top of the tree is a directory, so it is no name of a plain file.
      have hne : other ≠ [] := by
        rintro rfl
        exact (hplain [] hother).1 rfl
      rw [h.names_hold other hother hne]
      exact iff_of_false (by simp) fun hlink => (hplain other hother).2 ⟨path, hlink⟩
    · rw [h.node?_eq other hother]

/-- Where no device is, a `write` that succeeds makes a difference at the location that its path
leads to, and nowhere else. -/
theorem differsAt_of_write (h : fs.write path content = .ok fs')
    (hdevice : fs.deviceAt? path = none) :
    ∃ location, fs.locate path = .ok location ∧ fs.DiffersAt location content fs' := by
  obtain ⟨location, hlocate, hwants, hdirectory, hdone⟩ := write_cases h
  have hne : location ≠ [] := by
    rintro rfl
    exact hdirectory rfl
  refine ⟨location, hlocate, ?_⟩
  rcases hdone with ⟨-, device, hnode⟩ | ⟨-, rfl | rfl⟩
  · simp [deviceAt?, hlocate, hnode, hwants] at hdevice
  · exact differsAt_put hne content
  · exact differsAt_make hne content

/-- What was written with `write` is read again, if it is not a device that took it. -/
theorem read_of_write (h : fs.write path content = .ok fs') (hdevice : fs.deviceAt? path = none)
    (hplain : ∀ location, fs.locate path = .ok location → fs.IsPlain location) :
    fs'.read path = .ok content := by
  obtain ⟨location, hlocate, hdiffers⟩ := differsAt_of_write h hdevice
  obtain ⟨_, -, hwants, -, -⟩ := write_cases h
  -- The path leads there still, since no directory and no link was overwritten.
  have hsame : fs'.locate path = .ok location :=
    (hdiffers.keeps (hplain location hlocate)).locate hdiffers.here_eq hlocate
  unfold read
  simp only [hsame, bind, Except.bind, hdiffers.holds, hwants, Bool.false_eq_true, if_false]

/-- In an `IsTree` all that can be written is plain. -/
theorem IsTree.isPlain_of_write (htree : fs.IsTree) (h : fs.write path content = .ok fs')
    (hlocate : fs.locate path = .ok location) : fs.IsPlain location := by
  obtain ⟨location', hlocate', -, hdirectory, -⟩ := write_cases h
  obtain rfl : location' = location := by simpa [hlocate] using hlocate'.symm
  intro other hother
  -- By its other names the file is what it is by the name that the path leads to.
  have hnode := htree.names location' other hother
  refine ⟨hnode ▸ hdirectory, ?_⟩
  rintro ⟨target, hlink⟩
  exact htree.locate_ne_link hlocate ⟨target, hnode ▸ hlink⟩

/-- A place that `IsVacant` is no device. -/
theorem IsVacant.deviceAt? (h : fs.IsVacant path) : fs.deviceAt? path = none := by
  obtain ⟨location, hlocate, hnode, -⟩ := h
  simp [FileSystem.deviceAt?, hlocate, hnode]

/-- What was written where `IsVacant` holds is read again. -/
theorem IsVacant.read_of_write (h : fs.IsVacant path) (hwrite : fs.write path content = .ok fs') :
    fs'.read path = .ok content := by
  refine FileSystem.read_of_write hwrite h.deviceAt? fun location hlocate => ?_
  obtain ⟨location', hlocate', hnode, hnames⟩ := h
  obtain rfl : location' = location := by simpa [hlocate] using hlocate'.symm
  intro other hother
  obtain rfl : other = location' := by simpa [hnames] using hother
  simp [hnode, IsLink]

end Modlet.FileSystem
