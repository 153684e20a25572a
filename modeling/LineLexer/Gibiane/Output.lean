/-
Output variables: what a script hands back, and where it writes it.
-/
import LineLexer.Text.Basic

namespace LineLexer.Gibiane

/-- The file that holds what a run printed. -/
def consoleFile : Text := "out.txt".toList

/-- Where the value of an output variable is written. -/
inductive OutputSource where
  /-- Printed, and looked up by name in the console file. -/
  | console
  /-- Written to a file of its own. -/
  | file (name : Text)
deriving DecidableEq, Repr

namespace OutputSource

/-- The file the value is read back from. -/
def fileName : OutputSource → Text
  | console => consoleFile
  | file name => name

/-- Whether that file holds columns. -/
def isCsv : OutputSource → Bool
  | console => false
  | file name => ".csv".toList.isSuffixOf name

end OutputSource

/-- A variable a script hands back. -/
structure Output where
  /-- The name of the variable. -/
  name : Text
  /-- Where its value is written. -/
  source : OutputSource
deriving DecidableEq, Repr

/-- Adds a declaration to the outputs: the first output of the name takes the source, and a name
that is not there yet is put behind all others. -/
def record (outputs : List Output) (name : Text) (source : OutputSource) : List Output :=
  match outputs with
  | [] => [⟨name, source⟩]
  | output :: rest =>
    if output.name = name then { output with source } :: rest
    else output :: record rest name source

end LineLexer.Gibiane
