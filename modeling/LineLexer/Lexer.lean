/-
Lexing one line.

The lexer takes turns.  A turn looks at the rules of the current state in order; the
first that matches at the cursor emits its tokens, may change the state, and moves the
cursor past the match.  If none matches, one character is passed, as a token of the
state's default category or as nothing.  Every turn passes at least one character, so a
line ends after at most as many turns as it has characters.

A line is lexed into its turns first, and its tokens and the state after it are read
off them: what happened where stays visible.
-/
import LineLexer.Keyword
import LineLexer.Table.RuleTable
import LineLexer.Token

namespace LineLexer

/-- A language: its rule table and its keywords. -/
structure Lexer where
  /-- The states and rules. -/
  rules : RuleTable
  /-- The words that keyword rules look up. -/
  keywords : KeywordTable

/-- What a turn found at its cursor. -/
inductive Finding (n : Nat) where
  /-- A rule matched. -/
  | matched (rule : Rule n) (found : Match)
  /-- No rule matched, and this character was passed. -/
  | unmatched (c : Char)

/-- One turn of lexing in a table with `n` states. -/
structure Turn (n : Nat) where
  /-- The state in which the turn was taken. -/
  state : Fin n
  /-- Where it was taken. -/
  start : Cursor
  /-- What was found there. -/
  finding : Finding n
  /-- Where the next turn is taken. -/
  stop : Cursor

namespace Turn

variable {n : Nat}

/-- The state after the turn. -/
def exit (turn : Turn n) : Fin n :=
  match turn.finding with
  | .matched rule _ => rule.next.getD turn.state
  | .unmatched _ => turn.state

/-- The offset of the turn if its rule named the state that follows. -/
def switch? (turn : Turn n) : Option Nat :=
  match turn.finding with
  | .matched rule _ => rule.next.map fun _ => turn.start.offset
  | .unmatched _ => none

end Turn

/-- The first rule of the state that matches at a cursor, with its match. -/
def State.firstMatch? {n : Nat} (state : State n) (cur : Cursor) : Option (Rule n × Match) :=
  state.rules.findSome? fun rule => (rule.pattern.matchAt? cur).map (rule, ·)

namespace Lexer

/-- The state in which a document starts. -/
def start (lexer : Lexer) : lexer.rules.StateId := lexer.rules.start

/-- Whether a state is the one in which a document starts. -/
def isStart (lexer : Lexer) (state : lexer.rules.StateId) : Bool := state = lexer.start

/-! ### Turns -/

/-- The turn taken in a state at a cursor before the character `c`. -/
def turnAt (lexer : Lexer) (state : lexer.rules.StateId) (cur : Cursor) (c : Char) (rest : Text) :
    Turn lexer.rules.size :=
  match (lexer.rules.state state).firstMatch? cur with
  | some (rule, found) =>
    ⟨state, cur, .matched rule found,
      if found.stop.remaining ≤ rest.length then found.stop else cur.pass c rest⟩
  | none => ⟨state, cur, .unmatched c, cur.pass c rest⟩

/-- A turn passes at least one character. -/
theorem remaining_stop_turnAt (lexer : Lexer) (state : lexer.rules.StateId) (cur : Cursor)
    (c : Char) (rest : Text) : (lexer.turnAt state cur c rest).stop.remaining ≤ rest.length := by
  unfold turnAt
  split
  · split
    · assumption
    · exact Nat.le_refl _
  · exact Nat.le_refl _

/-- The turns taken from a cursor to the end of the line. -/
def turns (lexer : Lexer) (state : lexer.rules.StateId) (cur : Cursor) :
    List (Turn lexer.rules.size) :=
  match _h : cur.rest with
  | [] => []
  | c :: rest =>
    let turn := lexer.turnAt state cur c rest
    turn :: lexer.turns turn.exit turn.stop
termination_by cur.remaining
decreasing_by
  have := lexer.remaining_stop_turnAt state cur c rest
  simp only [Cursor.remaining, _h, List.length_cons] at *
  omega

/-! ### Tokens -/

/-- The category of a text under a label. -/
def resolve (lexer : Lexer) (label : Label) (text : Text) : Category :=
  match label with
  | .fixed category => category
  | .keyword => (lexer.keywords.classify text).getD .identifier

/-- The token a label makes of a span. -/
def tokenOf (lexer : Lexer) (label : Label) (span : Span) : Token :=
  ⟨lexer.resolve label span.text, span.start.offset, span.text⟩

/-- The tokens a rule emits for a match at a cursor. -/
def emit (lexer : Lexer) (emit : Emit) (start : Cursor) (found : Match) : List Token :=
  match emit with
  | .whole label => [lexer.tokenOf label ⟨start, found.stop⟩]
  | .groups labels =>
    labels.zipIdx.filterMap fun (label, i) =>
      (found.group? (i + 1)).bind fun span =>
        if span.isEmpty then none else some (lexer.tokenOf label span)

/-- The tokens a turn emits. -/
def tokensOf (lexer : Lexer) (turn : Turn lexer.rules.size) : List Token :=
  match turn.finding with
  | .matched rule found => lexer.emit rule.emit turn.start found
  | .unmatched c =>
    (lexer.rules.state turn.state).default.toList.map (⟨·, turn.start.offset, [c]⟩)

/-! ### Lines -/

/-- The turns of a line entered in a state. -/
def lineTurns (lexer : Lexer) (state : lexer.rules.StateId) (line : Text) :
    List (Turn lexer.rules.size) :=
  lexer.turns state (.start line)

/-- The state after the turns taken in `state`. -/
def exitOf {n : Nat} (state : Fin n) (turns : List (Turn n)) : Fin n :=
  (turns.getLast?.map Turn.exit).getD state

/-- The offset of the last turn whose rule named the state that follows. -/
def lastSwitch? {n : Nat} (turns : List (Turn n)) : Option Nat :=
  turns.reverse.findSome? Turn.switch?

/-- Lexes a line, without its line end, entered in a state: its tokens and the state in which the
next line starts. -/
def tokenizeLine (lexer : Lexer) (state : lexer.rules.StateId) (line : Text) :
    List Token × lexer.rules.StateId :=
  let turns := lexer.lineTurns state line
  (turns.flatMap lexer.tokensOf, exitOf state turns)

end Lexer

/-- The language of declared states and keyword lists, or the first defect of the declarations. -/
def Lexer.ofSpecs (specs : List StateSpec) (keywords : List (Category × List Text)) :
    Except ConfigError Lexer := do
  let rules ← RuleTable.ofSpecs specs StateSpec.defaultStart
  let keywords ← (KeywordTable.ofWords keywords).mapError .duplicateKeyword
  return ⟨rules, keywords⟩

end LineLexer
