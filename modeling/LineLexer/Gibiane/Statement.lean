/-
Statements of a script.

The tokens of a document are grouped into statements, each ending with a semicolon, and
reduced to what discovery looks at: words, the bodies of strings, and symbols.  Comments
are dropped, so a statement may run over several lines.  The string being read is
carried over line ends and takes them in.
-/
import LineLexer.Document

namespace LineLexer.Gibiane

/-- A part of a statement. -/
inductive Item where
  /-- A word, number or keyword. -/
  | word (text : Text)
  /-- The body of a string, with doubled quotes undone. -/
  | literal (text : Text)
  /-- An operator, bracket or separator. -/
  | symbol (text : Text)
deriving DecidableEq, Repr

namespace Item

/-- Whether the item is the given word, in any case. -/
def isWord (item : Item) (word : Text) : Bool :=
  match item with
  | .word text => Text.eqIgnoreCase text word
  | _ => false

/-- Whether the item is the given symbol. -/
def isSymbol (item : Item) (symbol : Text) : Bool :=
  match item with
  | .symbol text => text == symbol
  | _ => false

/-- The body of a string. -/
def literal? : Item → Option Text
  | .literal text => some text
  | _ => none

/-- The text of the item, whatever it is. -/
def text : Item → Text
  | .word text | .literal text | .symbol text => text

end Item

/-- The items up to a semicolon. -/
abbrev Statement := List Item

/-- What grouping has found so far. -/
structure Grouping where
  /-- The statements that have ended. -/
  done : List Statement
  /-- The items of the statement being read. -/
  current : Statement
  /-- The body of the string being read, if there is one. -/
  open? : Option Text
deriving DecidableEq, Repr

namespace Grouping

/-- Nothing found. -/
def empty : Grouping := ⟨[], [], none⟩

/-- Adds items to the current statement. -/
def push (g : Grouping) (items : List Item) : Grouping :=
  { g with current := g.current ++ items }

/-- Ends the current statement, unless it has no items. -/
def endStatement (g : Grouping) : Grouping :=
  if g.current.isEmpty then g else { g with done := g.done ++ [g.current], current := [] }

/-- No items are left. -/
theorem current_endStatement (g : Grouping) : g.endStatement.current = [] := by
  unfold endStatement
  split
  · exact List.isEmpty_iff.mp ‹_›
  · rfl

/-- The text of a token, with the at sign of a procedure call before it, which no rule matches. -/
def wordAt (line : Text) (token : Token) : Text :=
  if line.charBefore? token.start = some '@' then '@' :: token.text else token.text

/-- The items of a token outside a string that is not a separator, comment or quote. -/
def itemsOf (line : Text) (token : Token) : List Item :=
  match token.category with
  | .text => if token.text.trim.isEmpty then [] else [.word token.text.trim]
  | .operator | .punctuation | .leftParen | .rightParen => [.symbol token.text.trim]
  | .var =>
    if token.text.getLast? = some '.' then
      [.word (Text.trim token.text.dropLast), .symbol ['.']]
    else [.word (wordAt line token)]
  | _ => [.word (wordAt line token)]

/-- Takes in a token inside a string with the body so far. -/
def addInside (g : Grouping) (body : Text) (token : Token) : Grouping :=
  if token.category = .string ∧ token.text = ['\''] then
    { g.push [.literal body] with open? := none }
  else if token.category = .escape then { g with open? := some (body ++ ['\'']) }
  else { g with open? := some (body ++ token.text) }

/-- Takes in a token outside strings. -/
def addOutside (g : Grouping) (line : Text) (token : Token) : Grouping :=
  match token.category with
  | .comment => g
  | .string => { g with open? := some [] }
  | .punctuation => if token.text = [';'] then g.endStatement else g.push (itemsOf line token)
  | _ => g.push (itemsOf line token)

/-- Takes in a token of a line. -/
def addToken (line : Text) (g : Grouping) (token : Token) : Grouping :=
  match g.open? with
  | some body => g.addInside body token
  | none => g.addOutside line token

/-- Takes in the end of a line. -/
def endLine (g : Grouping) : Grouping := { g with open? := g.open?.map (· ++ ['\n']) }

/-- Takes in a line. -/
def addLine {n : Nat} (g : Grouping) (line : LexedLine n) : Grouping :=
  (line.tokens.foldl (addToken line.text) g).endLine

/-- The statements, with the one being read as the last. -/
def statements (g : Grouping) : List Statement := g.endStatement.done

end Grouping

/-- The statements of a lexed script. -/
def statements {n : Nat} (document : Document n) : List Statement :=
  (document.lines.foldl Grouping.addLine .empty).statements

end LineLexer.Gibiane
