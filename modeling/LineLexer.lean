import LineLexer.Text.Basic
import LineLexer.Text.Blank
import LineLexer.Unicode.Letter
import LineLexer.Unicode.Hidden
import LineLexer.Unicode.Case
import LineLexer.CharSet
import LineLexer.Token.Coalesce
import LineLexer.Keyword
import LineLexer.Diagnostic
import LineLexer.Pattern.Run
import LineLexer.Pattern.Class
import LineLexer.Pattern
import LineLexer.Table.Reachable
import LineLexer.Document
import LineLexer.Gibiane.States
import LineLexer.Numeral.Layout
import LineLexer.Gibiane.Discovery
import LineLexer.Gibiane.Results
import LineLexer.Files.FileTree
import LineLexer.Main
import LineLexer.Proofs.Line.Soundness
import LineLexer.Proofs.Line.Order
import LineLexer.Proofs.Gibiane.Uniform
import LineLexer.Proofs.Gibiane.Gaps
import LineLexer.Proofs.Document.Restart
import LineLexer.Proofs.Document.Unclosed
import LineLexer.Proofs.Gibiane.Printed
import LineLexer.Proofs.Gibiane.Headers
import LineLexer.Proofs.Gibiane.Exposed
import LineLexer.Proofs.Gibiane.Literals
import LineLexer.Proofs.Gibiane.ReadBack
import LineLexer.Proofs.Gibiane.FirstNumber
import LineLexer.Proofs.Text.Edited
import LineLexer.Proofs.Gibiane.Noise
import LineLexer.Proofs.Gibiane.Grid
import LineLexer.Proofs.Gibiane.Reserved
import LineLexer.Proofs.Gibiane.Assembled
import LineLexer.Proofs.Gibiane.Categories
import LineLexer.Proofs.Numeral.Case
import LineLexer.Proofs.Gibiane.Redeclared
import LineLexer.Proofs.Gibiane.Confined
import LineLexer.Proofs.Gibiane.InStep
import LineLexer.Proofs.Gibiane.Joined
import LineLexer.Proofs.Gibiane.Replaced
import LineLexer.Proofs.Gibiane.Commented
import LineLexer.Proofs.Line.Shifted
import LineLexer.Proofs.Gibiane.Indented
import LineLexer.Proofs.Gibiane.Named
import LineLexer.Proofs.Document.LineEnds
import LineLexer.Proofs.Document.Geometry
import LineLexer.Proofs.Gibiane.WholeWords
import LineLexer.Proofs.Keyword.Conflicts
import LineLexer.Proofs.Table.Defects
import LineLexer.Proofs.Gibiane.Regions
import LineLexer.Proofs.Table.Unreachable
import LineLexer.Proofs.Keyword.Completions
import LineLexer.Proofs.Token.Coalesce
import LineLexer.Proofs.Token.Filtered
import LineLexer.Proofs.Gibiane.Shown
