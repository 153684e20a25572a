/-
The states of Gibiane.

  * `start` holds everything outside strings and procedure headers: comments, brackets,
    numbers, headers, loops, parameters, assignments, dotted names, operators and words.
    Case does not matter, and characters that no rule covers are skipped.  Words, digits
    and blanks are ASCII, so accented letters outside strings and comments are skipped.
  * `string` is entered at a quote.  A doubled quote is an escape, a single one returns
    to `start`, and anything else is text of the string, over as many lines as it takes.
  * `procmethdef` is the list of arguments after the name of a procedure or method, up
    to the semicolon.
-/
import LineLexer.Lexer
import LineLexer.Gibiane.Words

namespace LineLexer.Gibiane

/-- The name of the language among editors. -/
def languageId : String := "gibi"

/-- The extension of the language's files. -/
def fileExtension : String := "dgibi"

/-! ### What the groups of a match are -/

/-- The keyword, the blanks and the name of a header. -/
def procedureHeader : List Label :=
  [.fixed .storageType, .fixed .text, .fixed .functionName]

/-- The keyword, the name and the counter of a loop, and the blanks between them. -/
def loopHeader : List Label :=
  [.fixed .controlKeyword, .fixed .text, .fixed .parameter, .fixed .text, .fixed .var]

/-- The keyword, the blanks, the name and the semicolon that end a loop. -/
def loopEnd : List Label :=
  [.fixed .controlKeyword, .fixed .text, .fixed .parameter, .fixed .punctuation]

/-- The keyword, the blanks and the first result at the end of a procedure. -/
def procedureEnd : List Label := [.fixed .controlKeyword, .fixed .text, .fixed .var]

/-- The name, the blanks and the sign of an assignment. -/
def assignment : List Label := [.fixed .var, .fixed .text, .fixed .operator]

/-- A name with the dot after it. -/
def dottedName : List Label := [.fixed .var]

/-! ### Rules, in the order in which they are tried -/

/-- Rules outside strings and headers. -/
def startRules : List RuleSpec := [
  .token r"^\s?\*(?u:.)+$" .comment,
  (RuleSpec.token "'" .string).goto "string",
  .token r"[\[(\x7b]" .leftParen,
  .token r"[\])\x7d]" .rightParen,
  .token r"[+-]?\d+(\.\d+)?(e[-]?\d+)?\b" .numeric,
  (RuleSpec.groups r"(DEBP|DEBM)(\s+)([a-zA-Z_][a-zA-Z0-9_]*)" procedureHeader).goto "procmethdef",
  .groups r"(REPE)(\s+)([a-zA-Z_][a-zA-Z0-9_]*)?(\s+)([a-zA-Z_][a-zA-Z0-9_]*)?" loopHeader,
  .token r"&[a-zA-Z][a-zA-Z0-9_]?" .parameter,
  .groups r"(FIN)(\s+)([a-zA-Z_][a-zA-Z0-9_]*)?(;)" loopEnd,
  .groups r"(FINP|FINM)(\s+)([a-zA-Z_][a-zA-Z0-9_]*)?" procedureEnd,
  .groups r"^([a-zA-Z_][a-zA-Z0-9_]*)(\s+)?(=)" assignment,
  .groups r"^(\s?[a-zA-Z_][a-zA-Z0-9_]*\s?\.)" dottedName,
  .token r"ET |OU |EGA |NEG |NON |>EG|<EG|\*\*|[*/+\-<>=.]" .operator,
  .keyword r"\b\w+\b",
  .token ";" .punctuation]

/-- Rules inside a string. -/
def stringRules : List RuleSpec := [
  .token "''" .escape,
  (RuleSpec.token "'" .string).goto "start"]

/-- Rules inside the argument list of a header. -/
def headerRules : List RuleSpec := [
  .token "[A-Za-z][A-Za-z0-9_]+" .parameter,
  .token r"\*[A-Za-z]+" .storageType,
  (RuleSpec.token ";" .punctuation).goto "start"]

/-- The states, in the order of their numbers. -/
def states : List StateSpec := [
  ⟨"start", true, none, startRules⟩,
  ⟨"string", false, some .string, stringRules⟩,
  ⟨"procmethdef", false, some .text, headerRules⟩]

/-- The lexer of the language. -/
def lexer : Except ConfigError Lexer := Lexer.ofSpecs states keywordLists

end LineLexer.Gibiane
