/-
The program: from arguments to a report.

What the program reads it asks of a host, which may be the real file system or a value;
everything else follows from the answers.  A report holds the exit status, the lines for
the standard output, and what goes to the standard error: counts, log events and the
diagnostic of an incomplete document.

  * Status 0: the document is complete.
  * Status 1: it ends inside a string or header, or the arguments are wrong.
  * Status 2: the input cannot be read.

Listings and logs show texts between quotes, where what has no glyph of its own is
escaped, and words in columns, padded to a width that counts characters.
-/
import LineLexer.CommandLine.Options
import LineLexer.Files.FileTree
import LineLexer.Gibiane.Discovery
import LineLexer.Gibiane.Results
import LineLexer.Gibiane.States
import LineLexer.Token.Coalesce
import LineLexer.Unicode.Hidden

namespace LineLexer

/-! ### How texts are shown -/

/-- The side on which a padded text stands. -/
inductive Alignment where
  /-- The text first, then the spaces. -/
  | left
  /-- The spaces first, then the text. -/
  | right
  /-- Spaces on both sides, an odd one after the text. -/
  | center
deriving DecidableEq, Repr

namespace Text

/-- The text with enough spaces around it to be `width` characters wide; a text that is wide enough
is left alone. -/
def pad (align : Alignment) (width : Nat) (t : Text) : Text :=
  let missing := width - t.length
  let before := match align with
    | .left => 0
    | .right => missing
    | .center => missing / 2
  List.replicate before ' ' ++ t ++ List.replicate (missing - before) ' '

/-- Padding reaches the width and cuts nothing. -/
theorem length_pad (align : Alignment) (width : Nat) (t : Text) :
    (pad align width t).length = max width t.length := by
  cases align <;> simp [pad] <;> omega

/-- How one character stands between quotes: the quote and the backslash behind a backslash, tabs,
line ends and the null character as short escapes, and what has no glyph by its number. -/
def quoteChar (c : Char) : Text :=
  if c = '"' ∨ c = '\\' then ['\\', c]
  else if c = '\t' then ['\\', 't']
  else if c = '\r' then ['\\', 'r']
  else if c = '\n' then ['\\', 'n']
  else if c.toNat = 0 then ['\\', '0']
  else if Unicode.isHidden c then ['\\', 'u', '{'] ++ Nat.toDigits 16 c.toNat ++ ['}']
  else [c]

/-- The text between quotes. -/
def quoted (t : Text) : Text := '"' :: t.flatMap quoteChar ++ ['"']

end Text

/-! ### Datasets -/

namespace Gibiane

/-- Whether a path has the extension of a dataset. -/
def hasDatasetExtension (path : Text) : Bool :=
  Path.extension? path == some fileExtension.toList

/-- Whether a path leads to a file with the extension of a dataset. -/
def acceptsDataset (path : Text) (entry : Entry) : Bool :=
  entry.isFile && hasDatasetExtension path

end Gibiane

/-! ### Hosts and reports -/

/-- What the program may ask for. -/
structure Host (m : Type → Type) where
  /-- The standard input, unless it is not valid UTF-8. -/
  stdin : m (Option Text)
  /-- What a path leads to. -/
  lookup : Text → m Entry

/-- A warning in the log. -/
structure LogEvent where
  /-- The part of the program that warns. -/
  target : String
  /-- What it warns of. -/
  message : String
  /-- The names and values that belong to it. -/
  fields : List (String × Text)
deriving DecidableEq, Repr

/-- The line of an event in the log. -/
def LogEvent.render (e : LogEvent) : Text :=
  (e.target ++ ": " ++ e.message).toList ++
    e.fields.flatMap fun (name, value) => ' ' :: name.toList ++ '=' :: Text.quoted value

/-- What a run of the program comes to. -/
structure Report where
  /-- The exit status. -/
  status : Nat
  /-- The lines of the standard output. -/
  output : List Text
  /-- The counts, if they were asked for. -/
  stats : Option Text
  /-- The diagnostic, if there is one. -/
  diagnostic : Option Diagnostic
  /-- The warnings in the log, in order. -/
  log : List LogEvent
deriving DecidableEq, Repr

namespace Report

/-- A report that holds a status and nothing else. -/
def ofStatus (status : Nat) : Report := ⟨status, [], none, none, []⟩

/-- The standard output. -/
def outputText (r : Report) : Text := r.output.flatMap (· ++ ['\n'])

end Report

/-- The exit status for arguments that ask for nothing. -/
def ArgumentError.status : ArgumentError → Nat
  | helpWanted | versionWanted => 0
  | _ => 1

namespace Program

/-! ### Lines of output -/

/-- A word with its category in columns. -/
def completionLine (word : Text) (category : Category) : Text :=
  Text.pad .left 12 word ++ category.label.toList

/-- Fields between tabs. -/
def fields (items : List Text) : Text := ['\t'].intercalate items

/-- A token with its place, both counted from one. -/
def tokenLine (index : Nat) (token : Token) : Text :=
  fields [(toString (index + 1) ++ ":" ++ toString (token.start + 1)).toList,
    token.category.label.toList, Text.quoted token.text]

/-- The lines for the tokens of a line of the document. -/
def tokenLines {n : Nat} (options : Options) (index : Nat) (line : LexedLine n) : List Text :=
  let tokens := if options.coalesce then Token.coalesce line.text line.tokens else line.tokens
  (tokens.filter fun token => options.shows token.category).map (tokenLine index)

/-! ### Log events -/

/-- The warning for a file that does not look like a dataset. -/
def unusualFile (file : Text) : LogEvent :=
  ⟨"gibi_lex", "not a ." ++ Gibiane.fileExtension ++ " file, lexing as Gibiane anyway",
    [("file", file)]⟩

/-- The part of the program that looks for outputs. -/
def discoveryTarget : String := "gibi_lex::language::dgibi::outputs"

/-- The warning for a declaration that leads nowhere. -/
def noticeEvent : Gibiane.Notice → LogEvent
  | .noColumns table file =>
    ⟨discoveryTarget, "no column definitions found for table written by SORT",
      [("table", table), ("file", file)]⟩
  | .unresolvedName output missing =>
    ⟨discoveryTarget, "cannot resolve @EXCEL1 file name",
      [("output", output), ("variable", missing)]⟩

/-! ### Running -/

variable {m : Type → Type} [Monad m]

/-- The entries of the files that the values of outputs are read from, in a run directory. -/
def runEntries (host : Host m) (directory : Text) (outputs : List Gibiane.Output) :
    m (Text → Entry) := do
  let names := Gibiane.consoleFile :: outputs.map (·.source.fileName)
  let entries ← names.mapM fun name => do
    return (name, ← host.lookup (Path.join directory name))
  return fun name => (entries.lookup name).getD .absent

/-- The lines for a lexed document. -/
def documentLines {n : Nat} (host : Host m) (options : Options) (document : Document n) :
    m (List Text) :=
  match options.results with
  | some directory => do
    let outputs := Gibiane.discover document
    let run ← runEntries host directory outputs
    return (Gibiane.readResults run outputs).map fun (name, value) => fields [name, value.render]
  | none =>
    if options.outputs then
      return (Gibiane.discover document).map fun output =>
        fields [output.name, output.source.fileName]
    else
      return document.lines.zipIdx.flatMap fun (line, index) => tokenLines options index line

/-- The warnings about the declarations of a document, if they are looked at. -/
def documentEvents {n : Nat} (options : Options) (document : Document n) : List LogEvent :=
  if options.outputs || options.results.isSome then (Gibiane.notices document).map noticeEvent
  else []

/-- Lexes a text and reports on it. -/
def runText (host : Host m) (options : Options) (lexer : Lexer) (text : Text)
    (log : List LogEvent) : m Report := do
  let document := lexer.tokenizeDocument text
  let output ← documentLines host options document
  let counts := toString document.lines.length ++ " lines, " ++ toString output.length ++
    " lines of output"
  let incomplete := document.incompleteConstruct?
  return {
    status := if incomplete.isSome then 1 else 0
    output
    stats := if options.stats then some counts.toList else none
    diagnostic := incomplete.map (·.diagnostic 0)
    log := log ++ documentEvents options document }

/-- The text to lex, with the warnings about where it comes from; none if it cannot be read. -/
def readSource (host : Host m) (options : Options) : m (Option (Text × List LogEvent)) := do
  if options.readsStdin then
    return (← host.stdin).map (·, [])
  else
    let entry ← host.lookup options.inFile
    let log := if Gibiane.acceptsDataset options.inFile entry then []
      else [unusualFile options.inFile]
    return entry.text?.map (·, log)

/-- Does what the options ask for. -/
def run (host : Host m) (options : Options) : m Report := do
  match Gibiane.lexer with
  | .error e => return { Report.ofStatus 2 with diagnostic := some e.diagnostic }
  | .ok lexer =>
    match options.complete with
    | some beginning =>
      let found := lexer.keywords.completions beginning
      return { Report.ofStatus 0 with
        output := found.map fun (word, category) => completionLine word category }
    | none =>
      match ← readSource host options with
      | none => return Report.ofStatus 2
      | some (text, log) => runText host options lexer text log

/-- Does what the arguments ask for. -/
def runArguments (host : Host m) (arguments : List Text) : m Report :=
  match Options.parse arguments with
  | .error e => return Report.ofStatus e.status
  | .ok options => run host options

end Program

end LineLexer
