import Modlet.CText.Tokens
import Modlet.CommandLine.Written
import Modlet.Main
import Modlet.Path.LastName
import Modlet.Program.Grammar
import Modlet.Program.Tokens
import Modlet.Program.WellFormed
import Modlet.Proofs.CText.Layout
import Modlet.Proofs.CText.Parts
import Modlet.Proofs.CText.Tokens
import Modlet.Proofs.CText.Unambiguous
import Modlet.Proofs.Compile.Composition
import Modlet.Proofs.Compile.Gaps
import Modlet.Proofs.Compile.Literals
import Modlet.Proofs.Diagnostic.Caret
import Modlet.Proofs.Program.Acceptance
import Modlet.Proofs.Program.AnyLayout
import Modlet.Proofs.Program.Contents
import Modlet.Proofs.Program.EarliestFault
import Modlet.Proofs.Program.NormalForm
import Modlet.Proofs.Program.Origin
import Modlet.Proofs.Program.Reading
import Modlet.Proofs.Source.Lines
import Modlet.Proofs.Token.Boundary
import Modlet.Proofs.Token.Locality
import Modlet.Proofs.Token.LongestMatch
import Modlet.Proofs.Token.Places
import Modlet.Proofs.Token.Scanning
import Modlet.Proofs.Token.Spelling
import Modlet.Proofs.Token.Stream
import Modlet.Source.Lookahead
import Modlet.Token.Decomposition
import Modlet.Token.Layout
import Modlet.Token.Normal
import Modlet.Proofs.Build.Steps
import Modlet.Proofs.Build.Effects
import Modlet.Proofs.Build.GivenSource
import Modlet.Proofs.Build.Leftovers
import Modlet.Proofs.Build.CompilerCall
import Modlet.Proofs.Compile.Sessions
import Modlet.Proofs.Token.ExactPlaces
import Modlet.Proofs.Token.LineBreaks
import Modlet.Proofs.Program.Expected
import Modlet.Proofs.Token.Separators
import Modlet.Proofs.CText.Phases
import Modlet.Proofs.Compile.Integers
import Modlet.Proofs.Compile.LookAhead
import Modlet.Proofs.Program.Termination
import Modlet.Proofs.Path.LastName
import Modlet.Proofs.Build.FileNames
import Modlet.Proofs.Diagnostic.Rows
import Modlet.Proofs.CommandLine.Orders
import Modlet.Proofs.CText.Appending
import Modlet.Proofs.Host.Program
