/-
Lexing a document from any of its lines.

A document is lexed line by line, and all that one line hands to the next is the state it
ends in.  So the tokens of a document are those of its lines, each lexed by itself in the
state recorded for it.  An editor relies on this: after a change it lexes from the first
line that changed, and once a line is entered in the state it was entered in before,
nothing below it can differ.

`Threads` says what lines and states have to do with each other, one step for each line,
and whatever is said of documents here is an induction over it.  `lexFrom` is the loop
over the lines without the place it keeps for the report of an unterminated construct.
-/
import LineLexer.Document
import LineLexer.Proofs.Text.Lines
import Mathlib.Data.List.Chain

namespace LineLexer.Lexer

variable {lexer : Lexer}

/-- Lexes lines one after the other, the first of them entered in `state` at byte `offset`. -/
def lexFrom (lexer : Lexer) (state : lexer.rules.StateId) (offset : Nat) :
    List Text → List (LexedLine lexer.rules.size)
  | [] => []
  | raw :: raws =>
    let line := Text.stripReturn raw
    ⟨line, offset, state, (lexer.tokenizeLine state line).1⟩ ::
      lexer.lexFrom (lexer.tokenizeLine state line).2 (offset + Text.byteLength raw + 1) raws

/-- The state after lines of which the first is entered in `state`. -/
def exitFrom (lexer : Lexer) (state : lexer.rules.StateId) : List Text → lexer.rules.StateId
  | [] => state
  | raw :: raws => lexer.exitFrom (lexer.tokenizeLine state (Text.stripReturn raw)).2 raws

/-- The lines are entered one after the other from `state` on, each holds its own tokens, and the
last one leaves `exit`. -/
inductive Threads (lexer : Lexer) :
    lexer.rules.StateId → List (LexedLine lexer.rules.size) → lexer.rules.StateId → Prop
  | nil (state : lexer.rules.StateId) : Threads lexer state [] state
  | cons {state exit : lexer.rules.StateId} {line : LexedLine lexer.rules.size}
      {lines : List (LexedLine lexer.rules.size)} (hentered : line.entered = state)
      (htokens : line.tokens = (lexer.tokenizeLine state line.text).1)
      (h : Threads lexer (lexer.tokenizeLine state line.text).2 lines exit) :
      Threads lexer state (line :: lines) exit

/-! ### Documents are threads of lines -/

theorem lexLines_eq (raws : List Text) (index offset : Nat) (state : lexer.rules.StateId)
    (opened : Option OpenPlace) :
    (lexer.lexLines raws index offset state opened).1 = lexer.lexFrom state offset raws ∧
      (lexer.lexLines raws index offset state opened).2.1 = lexer.exitFrom state raws := by
  induction raws generalizing index offset state opened with
  | nil => exact ⟨rfl, rfl⟩
  | cons raw raws ih =>
      obtain ⟨hlines, hexit⟩ := ih (index + 1) (offset + Text.byteLength raw + 1)
        (lexer.tokenizeLine state (Text.stripReturn raw)).2
        (lexer.openedAfter opened index offset (lexer.tokenizeLine state (Text.stripReturn raw)).2
          (lastSwitch? (lexer.lineTurns state (Text.stripReturn raw))))
      refine ⟨?_, ?_⟩
      · rw [lexFrom, ← hlines]
        rfl
      · rw [exitFrom, ← hexit]
        rfl

theorem tokenizeDocument_eq (text : Text) :
    (lexer.tokenizeDocument text).lines = lexer.lexFrom lexer.start 0 text.rawLines ∧
      (lexer.tokenizeDocument text).exit = lexer.exitFrom lexer.start text.rawLines :=
  lexLines_eq text.rawLines 0 0 lexer.start none

theorem lexFrom_threads (raws : List Text) (state : lexer.rules.StateId) (offset : Nat) :
    lexer.Threads state (lexer.lexFrom state offset raws) (lexer.exitFrom state raws) := by
  induction raws generalizing state offset with
  | nil => exact Threads.nil state
  | cons raw raws ih => exact Threads.cons rfl rfl (ih _ _)

theorem tokenizeDocument_threads (text : Text) :
    lexer.Threads lexer.start (lexer.tokenizeDocument text).lines
      (lexer.tokenizeDocument text).exit := by
  obtain ⟨hlines, hexit⟩ := lexer.tokenizeDocument_eq text
  rw [hlines, hexit]
  exact lexFrom_threads _ _ _

theorem map_text_lexFrom (raws : List Text) (state : lexer.rules.StateId) (offset : Nat) :
    (lexer.lexFrom state offset raws).map (·.text) = raws.map Text.stripReturn := by
  induction raws generalizing state offset with
  | nil => rfl
  | cons raw raws ih =>
      rw [lexFrom, List.map_cons, List.map_cons, ih]

/-- Lines that follow others are lexed from the state and the offset the others leave. -/
theorem lexFrom_append (raws more : List Text) (state : lexer.rules.StateId) (offset : Nat) :
    lexer.lexFrom state offset (raws ++ more) =
        lexer.lexFrom state offset raws ++
          lexer.lexFrom (lexer.exitFrom state raws) (offset + Text.bytesOf raws) more ∧
      lexer.exitFrom state (raws ++ more) = lexer.exitFrom (lexer.exitFrom state raws) more := by
  induction raws generalizing state offset with
  | nil => exact ⟨rfl, rfl⟩
  | cons raw raws ih =>
      obtain ⟨hlines, hexit⟩ := ih (lexer.tokenizeLine state (Text.stripReturn raw)).2
        (offset + Text.byteLength raw + 1)
      have hoffset : offset + Text.byteLength raw + 1 + Text.bytesOf raws =
          offset + Text.bytesOf (raw :: raws) := by
        rw [Text.bytesOf_cons]
        omega
      rw [hoffset] at hlines
      refine ⟨?_, ?_⟩
      · rw [List.cons_append, lexFrom, hlines]
        rfl
      · rw [List.cons_append, exitFrom, hexit]
        rfl

/-! ### What a thread determines -/

namespace Threads

variable {state exit state' exit' : lexer.rules.StateId}
  {lines lines' : List (LexedLine lexer.rules.size)}

/-- Each line has the tokens it has by itself. -/
theorem tokens (h : lexer.Threads state lines exit) :
    ∀ line ∈ lines, line.tokens = (lexer.tokenizeLine line.entered line.text).1 := by
  induction h with
  | nil _ =>
      intro line hmem
      simp at hmem
  | cons hentered htokens _ ih =>
      subst hentered
      intro line hmem
      rcases List.mem_cons.mp hmem with rfl | hmem
      · exact htokens
      · exact ih line hmem

/-- The first line is entered in the state the thread starts from. -/
theorem entered_of_head? (h : lexer.Threads state lines exit) (hne : lines ≠ []) :
    lines.head?.map (·.entered) = some state := by
  cases h with
  | nil _ => exact absurd rfl hne
  | cons hentered _ _ => rw [List.head?_cons, Option.map_some, hentered]

/-- Each line is entered in the state the one before it leaves. -/
theorem isChain (h : lexer.Threads state lines exit) :
    lines.IsChain fun a b => b.entered = (lexer.tokenizeLine a.entered a.text).2 := by
  induction h with
  | nil _ => exact List.IsChain.nil
  | cons hentered _ h' ih =>
      subst hentered
      cases h' with
      | nil _ => exact List.IsChain.singleton _
      | cons hentered' _ _ => exact List.IsChain.cons_cons hentered' ih

/-- The thread ends in the state the last line leaves. -/
theorem exit_of_getLast? (h : lexer.Threads state lines exit) (hne : lines ≠ []) :
    lines.getLast?.map (fun line => (lexer.tokenizeLine line.entered line.text).2) = some exit := by
  induction h with
  | nil _ => exact absurd rfl hne
  | cons hentered _ h' ih =>
      subst hentered
      cases h' with
      | nil _ => rfl
      | cons hentered' htokens' h'' =>
          rw [List.getLast?_cons_cons]
          exact ih (by simp)

/-- Leaving out lines at the front leaves a thread from the state the first one left is entered
in. -/
theorem drop (h : lexer.Threads state lines exit) {i : Nat} {line : LexedLine lexer.rules.size}
    (hline : lines[i]? = some line) : lexer.Threads line.entered (lines.drop i) exit := by
  induction h generalizing i with
  | nil _ => simp at hline
  | cons hentered htokens h' ih =>
      cases i with
      | zero =>
          obtain rfl := Option.some.inj hline
          subst hentered
          exact Threads.cons rfl htokens h'
      | succ i => exact ih hline

/-- **The state entered and the texts of the lines determine everything else.** -/
theorem determined (h : lexer.Threads state lines exit) (h' : lexer.Threads state lines' exit')
    (htexts : lines.map (·.text) = lines'.map (·.text)) :
    lines.map (fun line => (line.entered, line.tokens)) =
        lines'.map (fun line => (line.entered, line.tokens)) ∧ exit = exit' := by
  induction h generalizing lines' with
  | nil _ =>
      obtain rfl : lines' = [] := by simpa using htexts.symm
      cases h'
      exact ⟨rfl, rfl⟩
  | @cons _ _ line _ hentered htokens _ ih =>
      cases h' with
      | nil _ => simp at htexts
      | @cons _ _ line' _ hentered' htokens' h' =>
          obtain ⟨htext, htexts⟩ := List.cons.inj htexts
          have htext : line.text = line'.text := htext
          rw [← htext] at htokens' h'
          obtain ⟨hlines, hexit⟩ := ih h' htexts
          refine ⟨?_, hexit⟩
          rw [List.map_cons, List.map_cons, hlines, hentered, hentered', htokens, htokens']

end Threads

/-! ### Restarting -/

/-- A document is its lines, lexed one by one. -/
structure LineByLine (lexer : Lexer) (text : Text) : Prop where
  lines : (lexer.tokenizeDocument text).lines = lexer.lexFrom lexer.start 0 text.rawLines
  exit : (lexer.tokenizeDocument text).exit = lexer.exitFrom lexer.start text.rawLines
  texts : (lexer.tokenizeDocument text).lines.map (·.text) = text.rawLines.map Text.stripReturn
  tokens : ∀ line ∈ (lexer.tokenizeDocument text).lines,
    line.tokens = (lexer.tokenizeLine line.entered line.text).1
  first : (lexer.tokenizeDocument text).lines.head?.map (·.entered) = some lexer.start
  next : (lexer.tokenizeDocument text).lines.IsChain fun a b =>
    b.entered = (lexer.tokenizeLine a.entered a.text).2
  last : (lexer.tokenizeDocument text).lines.getLast?.map
    (fun line => (lexer.tokenizeLine line.entered line.text).2) =
      some (lexer.tokenizeDocument text).exit

theorem lineByLine (text : Text) : lexer.LineByLine text := by
  obtain ⟨hlines, hexit⟩ := lexer.tokenizeDocument_eq text
  have hthreads := lexer.tokenizeDocument_threads text
  have htexts : (lexer.tokenizeDocument text).lines.map (·.text) =
      text.rawLines.map Text.stripReturn := by
    rw [hlines]
    exact map_text_lexFrom _ _ _
  have hne : (lexer.tokenizeDocument text).lines ≠ [] := by
    intro hnil
    rw [hnil] at htexts
    exact text.rawLines_ne_nil (List.map_eq_nil_iff.mp htexts.symm)
  exact ⟨hlines, hexit, htexts, hthreads.tokens, hthreads.entered_of_head? hne, hthreads.isChain,
    hthreads.exit_of_getLast? hne⟩

/-- **Lexing a document can start again at any of its lines.**  It is lexing line by line; from
lines entered in the same state on, documents with the same lines left agree; and what follows a
line feed is lexed from the state before it. -/
theorem tokenizeDocument_restarts (lexer : Lexer) :
    (∀ text, lexer.LineByLine text) ∧
    (∀ (text text' : Text) (i j : Nat) (line line' : LexedLine lexer.rules.size),
      (lexer.tokenizeDocument text).lines[i]? = some line →
      (lexer.tokenizeDocument text').lines[j]? = some line' →
      line.entered = line'.entered →
      ((lexer.tokenizeDocument text).lines.drop i).map (·.text) =
        ((lexer.tokenizeDocument text').lines.drop j).map (·.text) →
      ((lexer.tokenizeDocument text).lines.drop i).map (fun line => (line.entered, line.tokens)) =
          ((lexer.tokenizeDocument text').lines.drop j).map
            (fun line => (line.entered, line.tokens)) ∧
        (lexer.tokenizeDocument text).exit = (lexer.tokenizeDocument text').exit) ∧
    (∀ text more : Text,
      (lexer.tokenizeDocument (text ++ '\n' :: more)).lines =
          (lexer.tokenizeDocument text).lines ++
            lexer.lexFrom (lexer.tokenizeDocument text).exit (text.byteLength + 1) more.rawLines ∧
        (lexer.tokenizeDocument (text ++ '\n' :: more)).exit =
          lexer.exitFrom (lexer.tokenizeDocument text).exit more.rawLines) := by
  refine ⟨lineByLine, ?_, ?_⟩
  · intro text text' i j line line' hline hline' hentered htexts
    have h := (lexer.tokenizeDocument_threads text).drop hline
    have h' := (lexer.tokenizeDocument_threads text').drop hline'
    rw [← hentered] at h'
    exact h.determined h' htexts
  · intro text more
    obtain ⟨hlines, hexit⟩ := lexer.tokenizeDocument_eq text
    obtain ⟨hlines', hexit'⟩ := lexer.tokenizeDocument_eq (text ++ '\n' :: more)
    obtain ⟨happend, happend'⟩ :=
      lexer.lexFrom_append text.rawLines more.rawLines lexer.start 0
    rw [hlines', hexit', hlines, hexit, Text.rawLines_append, happend, happend',
      Text.bytesOf_rawLines, Nat.zero_add]
    exact ⟨rfl, rfl⟩

end LineLexer.Lexer
