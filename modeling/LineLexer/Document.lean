/-
Lexing a document.

A document is lexed line by line, each line entered in the state the line before it
left.  Lines end at line feeds, and a carriage return at the end of a line is not part
of it.  A document that ends outside the start state, for example inside a string,
is incomplete: it is reported from the place where that state was last entered.
-/
import LineLexer.Diagnostic
import LineLexer.Lexer
import LineLexer.Text.Blank

namespace LineLexer

/-- One line of a lexed document, in a table with `n` states. -/
structure LexedLine (n : Nat) where
  /-- The line without its line end. -/
  text : Text
  /-- Byte offset of the line in the document. -/
  offset : Nat
  /-- The state the line was entered in. -/
  entered : Fin n
  /-- Its tokens. -/
  tokens : List Token
deriving DecidableEq, Repr

/-- Where the state that is still active was entered. -/
structure OpenPlace where
  /-- The index of the line. -/
  line : Nat
  /-- Byte offset in the document. -/
  offset : Nat
deriving DecidableEq, Repr

/-- A document that ends in a state other than the start state. -/
structure IncompleteConstruct where
  /-- The name of that state. -/
  state : String
  /-- The index of the line on which it was entered. -/
  line : Nat
  /-- Byte offset of the match that entered it. -/
  start : Nat
  /-- The byte length of the document. -/
  stop : Nat
deriving DecidableEq, Repr

namespace IncompleteConstruct

/-- The text shown for an incomplete document. -/
def message (e : IncompleteConstruct) : String :=
  "document ends inside an unterminated `" ++ e.state ++ "` construct"

/-- The incomplete document as a host reports it, with its handle of the file. -/
def diagnostic (e : IncompleteConstruct) (file : Nat) : Diagnostic :=
  ⟨.warning, e.message, [], [⟨file, e.start, e.stop, "`" ++ e.state ++ "` opened here"⟩]⟩

end IncompleteConstruct

/-- A lexed document, in a table with `n` states. -/
structure Document (n : Nat) where
  /-- Its lines. -/
  lines : List (LexedLine n)
  /-- The state after the last line. -/
  exit : Fin n
  /-- The name of that state. -/
  exitName : String
  /-- Where that state was entered, unless it is the start state. -/
  opened : Option OpenPlace
  /-- The byte length of the document. -/
  length : Nat

namespace Document

variable {n : Nat}

/-- All tokens of the document, in order. -/
def tokens (document : Document n) : List Token := document.lines.flatMap (·.tokens)

/-- The construct the document ends inside of, if it does. -/
def incompleteConstruct? (document : Document n) : Option IncompleteConstruct :=
  document.opened.map fun place =>
    ⟨document.exitName, place.line, place.offset, document.length⟩

end Document

namespace Lexer

/-- Where the state after a line was entered, given that of the line before: at the last match of
the line that named a state, or else where it was, and nowhere in the start state. -/
def openedAfter (lexer : Lexer) (opened : Option OpenPlace) (index offset : Nat)
    (exit : lexer.rules.StateId) (lastSwitch : Option Nat) : Option OpenPlace :=
  if lexer.isStart exit then none
  else match lastSwitch with
    | some column => some ⟨index, offset + column⟩
    | none => some (opened.getD ⟨index, offset⟩)

/-- The lines from the one with number `index` on, the state after them, and where it was
entered. -/
def lexLines (lexer : Lexer) :
    List Text → Nat → Nat → lexer.rules.StateId → Option OpenPlace →
      List (LexedLine lexer.rules.size) × lexer.rules.StateId × Option OpenPlace
  | [], _, _, state, opened => ([], state, opened)
  | raw :: rest, index, offset, state, opened =>
    let line := Text.stripReturn raw
    let turns := lexer.lineTurns state line
    let exit := exitOf state turns
    let opened := lexer.openedAfter opened index offset exit (lastSwitch? turns)
    let (lines, final) := lexer.lexLines rest (index + 1) (offset + Text.byteLength raw + 1) exit opened
    (⟨line, offset, state, turns.flatMap lexer.tokensOf⟩ :: lines, final)

/-- Lexes a whole document from the start state. -/
def tokenizeDocument (lexer : Lexer) (text : Text) : Document lexer.rules.size :=
  let (lines, exit, opened) := lexer.lexLines text.rawLines 0 0 lexer.start none
  ⟨lines, exit, lexer.rules.stateName exit, opened, text.byteLength⟩

end Lexer

end LineLexer
