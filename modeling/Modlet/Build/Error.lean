import Modlet.Build.CCompiler
import Modlet.Text.Quoted

/-!
# Why a build fails
-/

namespace Modlet

/-- Why a build failed. -/
inductive BuildError
  /-- Reading or writing went wrong. -/
  | io (error : IoError)
  /-- The input is not the name of a source file. -/
  | badExtension (input : String)
  /-- The C compiler failed. -/
  | cc (error : CCompilerError)
  /-- The source has errors, which have been shown. -/
  | hadErrors

/-- The wording of a failure, which is that of an `IoError` or a `CCompilerError` where it is
one. -/
def BuildError.message : BuildError → String
  | .io error => error.message
  | .badExtension input => "bad filename " ++ Text.quotedText input ++ ", expected a `.b` file"
  | .cc error => error.message
  | .hadErrors => "errors while compiling"

end Modlet
