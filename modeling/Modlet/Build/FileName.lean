import Modlet.Path

/-!
# The names of the files of a build

The source of a program is a file with the extension `b`. The program made from it is named after
the stem of that file, and the C file that is compiled after the program. A program whose source
was not given as a file is named as C compilers name theirs.
-/

namespace Modlet.FileName

/-- The extension of source files. -/
def sourceExtension : List Char := ['b']

/-- The extension of C files. -/
def cExtension : List Char := ['c']

/-- The name of a program that is not named after a file. -/
def unnamedOutput : String := "a.out"

/-- Whether a path leads to a source file, by its `extension?` alone. -/
def isSource (path : String) : Bool := Path.extension? path.toList = some sourceExtension

/-- The name of the program made from `input`, which is a path unless the source is given itself:
the `stem?` of that path. -/
def defaultOutput (input : String) (sourceGiven : Bool) : String :=
  if sourceGiven then unnamedOutput
  else
    match Path.stem? input.toList with
    | some stem => String.ofList stem
    | none => unnamedOutput

/-- The name of the C file between `input` and the program, which takes the place of an extension in
`defaultOutput`. A program whose name is no name of a file leaves nothing to put an extension on. -/
def cFile (input : String) (sourceGiven : Bool) : String :=
  let output := defaultOutput input sourceGiven
  match Path.nameWithExtension? output.toList cExtension with
  | some name => String.ofList name
  | none => output

end Modlet.FileName
