import Modlet.Proofs.Build.Effects
import Modlet.Proofs.Path.LastName

/-!
# The names of the files of a build

A file is taken for a source if its path ends in a stem, which is something, and the extension of
source files. The program is named after that stem, wherever the file is. The C file is named after
the program with an extension in the place of the one that the program has, so two programs can
have C files of one name.

* `FileName.HasStem`: a path leads to a source file with the given stem.
* `fileName_accepted`: which files are taken for sources, and how programs are named after them.
* `FileName.cFile_of_isName`: what the C file is named.
* `cFile_named_iff`: for which sources the C file is named after the whole program.
-/

namespace Modlet

namespace FileName

variable {input : String} {path stem : List Char}

/-! ### Sources -/

/-- A path leads to a source file with the given stem: it `EndsIn` the stem, which is something, and
the extension of source files. -/
def HasStem (path stem : List Char) : Prop :=
  stem ≠ [] ∧ Path.EndsIn path (stem ++ '.' :: sourceExtension)

theorem HasStem.slash_not_mem (h : HasStem path stem) : '/' ∉ stem := by
  intro hslash
  exact h.2.1.2.1 (List.mem_append_left _ hslash)

/-- The stem of a source file `IsName`, or it is made of one or two dots. -/
theorem HasStem.isName_or_dots (h : HasStem path stem) :
    Path.IsName stem ∨ stem = ['.'] ∨ stem = ['.', '.'] := by
  by_cases hdots : stem = ['.'] ∨ stem = ['.', '.']
  · exact .inr hdots
  · rw [not_or] at hdots
    exact .inl ⟨h.1, h.slash_not_mem, hdots⟩

/-- Files are taken for sources by their names: `isSource` asks for `HasStem` and for nothing
else. -/
theorem isSource_eq_true_iff : isSource input = true ↔ ∃ stem, HasStem input.toList stem := by
  rw [isSource, decide_eq_true_iff, Path.extension?_eq_some_iff]
  exact and_iff_right (by decide)

/-- A program is named after the stem of its source by `defaultOutput`. -/
theorem HasStem.defaultOutput_eq (h : HasStem input.toList stem) :
    defaultOutput input false = String.ofList stem := by
  have hstem := Path.stem?_of_endsIn (by decide) h.1 h.2
  simp [defaultOutput, hstem]

end FileName

variable {options : CommandLine.Options}

/-- A file is taken for a source by `isSource` exactly if the last component of its path is a stem,
which is something, and the extension of source files (`HasStem`). A build refuses every other file
with the path as it was given, and no file else. The program is named after the stem alone, so its
`defaultOutput` has no slash and two characters less than the file. -/
theorem fileName_accepted (hfile : options.source = false) (setup : Setup) (w : World) :
    (FileName.isSource options.input = true ↔
        ∃ stem, FileName.HasStem options.input.toList stem)
      ∧ (∀ name, (w.build setup options).1 = .error (.badExtension name) ↔
          name = options.input ∧ ¬∃ stem, FileName.HasStem options.input.toList stem)
      ∧ ∀ stem, FileName.HasStem options.input.toList stem →
          FileName.defaultOutput options.input options.source = String.ofList stem
            ∧ '/' ∉ (FileName.defaultOutput options.input options.source).toList
            ∧ ∀ name, Path.EndsIn options.input.toList name →
                (FileName.defaultOutput options.input options.source).length + 2 = name.length := by
  refine ⟨FileName.isSource_eq_true_iff, fun name => ?_, fun stem hstem => ?_⟩
  · rw [← FileName.isSource_eq_true_iff, Bool.not_eq_true]
    constructor
    · intro herror
      -- No other failure of a build is that of a name.
      obtain ⟨-, hname, heq⟩ := World.refused_of_badExtension herror
      exact ⟨heq, hname⟩
    · rintro ⟨rfl, hname⟩
      rw [World.build_of_refused hfile hname]
  · rw [hfile, hstem.defaultOutput_eq, String.toList_ofList, String.length_ofList]
    refine ⟨rfl, hstem.slash_not_mem, fun name hname => ?_⟩
    rw [hname.unique hstem.2, List.length_append]
    rfl

/-- A hidden file with another dot, behind which its path goes on with what says nothing. -/
theorem fileName_accepted_hidden :
    let options : CommandLine.Options := { input := "a//..x.b/./" }
    options.source = false
      ∧ FileName.HasStem options.input.toList "..x".toList
      ∧ FileName.defaultOutput options.input options.source = "..x" := by
  have hstem : FileName.HasStem "a//..x.b/./".toList "..x".toList := by
    refine ⟨by decide, Path.fileName?_eq_some_iff.mp ?_⟩
    decide
  -- No file is looked at for a name, so there need not be any.
  have haccepted := @fileName_accepted { input := "a//..x.b/./" } rfl {}
    { files := { nodes := [], here := [] } }
  exact ⟨rfl, hstem, (haccepted.2.2 _ hstem).1⟩

/-! ### C files -/

namespace FileName

variable {input : String} {path stem : List Char}

/-- A stem has no extension of its own: there is no dot behind its first character, and it is not a
dot alone. -/
def IsBare (stem : List Char) : Prop := '.' ∉ stem.tail ∧ stem ≠ ['.']

instance (stem : List Char) : Decidable (IsBare stem) :=
  inferInstanceAs (Decidable ('.' ∉ stem.tail ∧ stem ≠ ['.']))

/-- A text is the name of a C file. -/
def IsCFile (name : List Char) : Prop := Path.IsName name ∧ '.' :: cExtension <:+ name

instance (name : List Char) : Decidable (IsCFile name) :=
  inferInstanceAs (Decidable (Path.IsName name ∧ '.' :: cExtension <:+ name))

theorem IsBare.isName (hbare : IsBare stem) (h : HasStem path stem) : Path.IsName stem := by
  rcases h.isName_or_dots with hname | rfl | rfl
  · exact hname
  · exact absurd rfl hbare.2
  · exact absurd hbare.1 (by decide)

/-- A stem that is a name `IsBare` exactly if `splitName` takes nothing away from it. -/
theorem splitName_eq_iff_isBare (h : Path.IsName stem) :
    (Path.splitName stem).1 = stem ↔ IsBare stem := by
  obtain ⟨front, extension, hfront, -, hstem, -, hsplit⟩ | ⟨htail, hsplit⟩ | hup :=
    Path.splitName_cases stem
  · -- The dot before the extension stands behind the first character.
    have hdot : '.' ∈ stem.tail := by
      rw [hstem, List.tail_append_of_ne_nil hfront]
      simp
    have hne : front ≠ stem := by
      rw [hstem]
      simp
    rw [hsplit]
    exact iff_of_false hne fun hbare => hbare.1 hdot
  · rw [hsplit]
    exact iff_of_true rfl ⟨htail, h.2.2.1⟩
  · exact absurd hup h.2.2.2

/-- What stands before an extension in `splitName` is a part of the name. -/
theorem mem_of_mem_splitName {name : List Char} {c : Char} (h : c ∈ (Path.splitName name).1) :
    c ∈ name := by
  obtain ⟨front, extension, -, -, hname, -, hsplit⟩ | ⟨-, hsplit⟩ | rfl := Path.splitName_cases name
  · rw [hsplit] at h
    rw [hname]
    exact List.mem_append_left _ h
  · rwa [hsplit] at h
  · exact h

/-- The C file has the name of the program with `c` in the place of the extension that `splitName`
finds, if that name has one. -/
theorem cFile_of_isName (h : HasStem input.toList stem) (hname : Path.IsName stem) :
    cFile input false = String.ofList ((Path.splitName stem).1 ++ '.' :: cExtension) := by
  have hstem : Path.stem? stem = some (Path.splitName stem).1 := by
    rw [Path.stem?, Path.fileName?_eq_some_iff.mpr hname.endsIn, Option.map_some]
  simp [cFile, h.defaultOutput_eq, Path.nameWithExtension?, hstem]

/-- A program whose name is made of dots leaves the C file without a name. -/
theorem cFile_of_dots (h : HasStem input.toList stem) (hdots : stem = ['.'] ∨ stem = ['.', '.']) :
    cFile input false = String.ofList stem := by
  have hstem : Path.nameWithExtension? stem cExtension = none := by
    rcases hdots with rfl | rfl <;> decide
  simp [cFile, h.defaultOutput_eq, hstem]

/-- The C file of a program whose stem `IsBare` is named after the program. -/
theorem IsBare.cFile_eq (hbare : IsBare stem) (h : HasStem input.toList stem) :
    cFile input false = String.ofList (stem ++ '.' :: cExtension) := by
  have hname := hbare.isName h
  rw [cFile_of_isName h hname, (splitName_eq_iff_isBare hname).mpr hbare]

/-- What `splitName` leaves before an extension, with another behind it, is the name of a file. -/
theorem isCFile_splitName {name : List Char} (h : Path.IsName name) :
    IsCFile ((Path.splitName name).1 ++ '.' :: cExtension) := by
  have hslash : '/' ∉ (Path.splitName name).1 := fun hmem => h.2.1 (mem_of_mem_splitName hmem)
  have hlast : ((Path.splitName name).1 ++ '.' :: cExtension).getLast? = some 'c' := by
    simp [cExtension]
  -- A name made of dots does not end in a letter.
  have hdots : ∀ dots, dots.getLast? = some '.' →
      (Path.splitName name).1 ++ '.' :: cExtension ≠ dots := by
    rintro _ hdot rfl
    rw [hlast] at hdot
    cases hdot
  exact ⟨⟨by simp, by simp [hslash, cExtension], hdots _ rfl, hdots _ rfl⟩, List.suffix_append _ _⟩

end FileName

/-- The `cFile` is named after the program, with its extension behind the whole name, exactly if the
stem of the source `IsBare`: it has no extension of its own. It has the name of a C file unless that
stem is made of dots. Sources whose stems have no extensions of their own have C files of different
names if they have different names themselves. -/
theorem cFile_named_iff {input : String} {stem : List Char}
    (h : FileName.HasStem input.toList stem) :
    FileName.defaultOutput input false = String.ofList stem
      ∧ (FileName.cFile input false = FileName.defaultOutput input false ++ ".c" ↔
          FileName.IsBare stem)
      ∧ (FileName.IsCFile (FileName.cFile input false).toList ↔ stem ≠ ['.'] ∧ stem ≠ ['.', '.'])
      ∧ ∀ (other : String) (otherStem : List Char), FileName.HasStem other.toList otherStem →
          FileName.IsBare stem → FileName.IsBare otherStem →
          (FileName.cFile input false = FileName.cFile other false ↔ stem = otherStem) := by
  have houtput : FileName.defaultOutput input false ++ ".c" =
      String.ofList (stem ++ '.' :: FileName.cExtension) := by
    rw [h.defaultOutput_eq, String.ofList_append]
    rfl
  refine ⟨h.defaultOutput_eq, ?_, ?_, fun other otherStem hother hbare hotherBare => ?_⟩
  · rw [houtput]
    -- A stem made of dots is the name of no file, so nothing is put behind it.
    rcases h.isName_or_dots with hname | hdots
    · rw [FileName.cFile_of_isName h hname, String.ofList_inj, List.append_left_inj,
        FileName.splitName_eq_iff_isBare hname]
    · rw [FileName.cFile_of_dots h hdots, String.ofList_inj]
      refine iff_of_false (by simp) fun hbare => ?_
      rcases hdots with rfl | rfl <;> exact absurd hbare (by decide)
  · rcases h.isName_or_dots with hname | hdots
    · rw [FileName.cFile_of_isName h hname, String.toList_ofList]
      exact iff_of_true (FileName.isCFile_splitName hname) hname.2.2
    · rw [FileName.cFile_of_dots h hdots, String.toList_ofList]
      rcases hdots with rfl | rfl <;> exact iff_of_false (by decide) (by decide)
  · rw [hbare.cFile_eq h, hotherBare.cFile_eq hother, String.ofList_inj, List.append_left_inj]

/-- A source in a directory, with the only other dot at the front of its name. -/
theorem cFile_named_iff_hidden :
    FileName.HasStem "src/.main.b".toList ".main".toList
      ∧ FileName.IsBare ".main".toList
      ∧ FileName.cFile "src/.main.b" false = ".main.c" := by
  have hstem : FileName.HasStem "src/.main.b".toList ".main".toList := by
    refine ⟨by decide, Path.fileName?_eq_some_iff.mp ?_⟩
    decide
  have hbare : FileName.IsBare ".main".toList := by decide
  refine ⟨hstem, hbare, ?_⟩
  rw [(cFile_named_iff hstem).2.1.mpr hbare]
  decide

/-- Two sources whose C files have one name, which is that of neither program, and a source whose C
file has none. -/
theorem cFile_not_named :
    FileName.isSource "a.x.b" = true ∧ FileName.isSource "a.y.b" = true
      ∧ FileName.cFile "a.x.b" false ≠ FileName.defaultOutput "a.x.b" false ++ ".c"
      ∧ FileName.cFile "a.x.b" false = FileName.cFile "a.y.b" false
      ∧ FileName.isSource "..b" = true
      ∧ ¬FileName.IsCFile (FileName.cFile "..b" false).toList := by
  decide

end Modlet
