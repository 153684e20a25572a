/-
The command line of the lexer for Gibiane.

This is the only file that talks to the outside: it reads files and the standard input
for the program, and prints its report.
-/
import LineLexer.CommandLine.Program

namespace LineLexer

/-- The characters of bytes, if they are valid UTF-8. -/
def decodeText (bytes : ByteArray) : Option Text := (String.fromUTF8? bytes).map String.toList

/-- What a path leads to in the file system; a directory cannot be read, so it counts as absent. -/
def lookupFile (path : Text) : IO Entry := do
  try
    return .file (decodeText (← IO.FS.readBinFile (String.ofList path)))
  catch _ => return .absent

/-- The file system and the standard input. -/
def realHost : Host IO where
  stdin := do return decodeText (← (← IO.getStdin).readBinToEnd)
  lookup := lookupFile

/-- Prints the part of a report that goes to the standard error. -/
def printRemarks (report : Report) (elapsed : Nat) : IO Unit := do
  for event in report.log do
    IO.eprintln ("WARN " ++ String.ofList event.render)
  if let some stats := report.stats then
    IO.eprintln (String.ofList stats ++ ", lexed in " ++ toString elapsed ++ "ms")
  if let some diagnostic := report.diagnostic then
    IO.eprintln diagnostic.headline

end LineLexer

open LineLexer in
/-- Runs the program. -/
def main (arguments : List String) : IO UInt32 := do
  let started ← IO.monoMsNow
  let report ← Program.runArguments realHost (arguments.map String.toList)
  let finished ← IO.monoMsNow
  IO.print (String.ofList report.outputText)
  printRemarks report (finished - started)
  return UInt32.ofNat report.status
