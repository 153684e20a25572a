/-
One line of a script, seen from the rest of it.

All that a line hands on is the state it leaves and what has been grouped so far.  As
grouping is in step with the lexer, no string is being read where a line is entered in the
start state, whatever came before it (`open?_eq_none_of_threads`).

So in such a place lines may be exchanged for one another: the statements of the script are
those of its other lines, with whatever the new line adds to the ones before it
(`statements_replaceLine`).
-/
import LineLexer.Proofs.Gibiane.Strings
import LineLexer.Proofs.Gibiane.Scripts
import LineLexer.Proofs.Text.Replaced

namespace LineLexer

/-- A piece of a text is a line of its document, entered in the state the pieces before it leave. -/
theorem Lexer.exists_line (lexer : Lexer) {text raw : Text} {earlier later : List Text}
    (hraws : text.rawLines = earlier ++ raw :: later) :
    ∃ line, (lexer.tokenizeDocument text).lines[earlier.length]? = some line ∧
      line.entered = lexer.exitFrom lexer.start earlier ∧ line.text = Text.stripReturn raw := by
  have hbefore : (lexer.lexFrom lexer.start 0 earlier).length = earlier.length := by
    simpa using congrArg List.length (map_text_lexFrom earlier lexer.start 0)
  rw [(lexer.tokenizeDocument_eq text).1, hraws, (lexFrom_append _ _ _ _).1,
    List.getElem?_append_right (by omega), hbefore, Nat.sub_self]
  exact ⟨_, rfl, rfl, rfl⟩

/-- All its lines are such pieces. -/
theorem Lexer.exists_of_line {lexer : Lexer} {text : Text} {i : Nat}
    {line : LexedLine lexer.rules.size}
    (hline : (lexer.tokenizeDocument text).lines[i]? = some line) :
    ∃ earlier raw later, text.rawLines = earlier ++ raw :: later ∧ earlier.length = i ∧
      line.text = Text.stripReturn raw ∧ line.entered = lexer.exitFrom lexer.start earlier := by
  have hlength : (lexer.tokenizeDocument text).lines.length = text.rawLines.length := by
    rw [(lexer.tokenizeDocument_eq text).1]
    simpa using congrArg List.length (map_text_lexFrom text.rawLines lexer.start 0)
  obtain ⟨hi, -⟩ := List.getElem?_eq_some_iff.mp hline
  rw [hlength] at hi
  have hraws : text.rawLines =
      text.rawLines.take i ++ text.rawLines[i] :: text.rawLines.drop (i + 1) := by
    simp
  have htake : (text.rawLines.take i).length = i := by
    rw [List.length_take]
    omega
  obtain ⟨line', hline', hentered, htext⟩ := lexer.exists_line hraws
  rw [htake, hline] at hline'
  obtain rfl := Option.some.inj hline'
  exact ⟨_, _, _, hraws, htake, htext, hentered⟩

/-- The first line of a document is entered in the start state. -/
theorem Lexer.exists_first_line (lexer : Lexer) {text raw : Text} {raws : List Text}
    (hraws : text.rawLines = raw :: raws) :
    ∃ line, (lexer.tokenizeDocument text).lines[0]? = some line ∧ line.entered = lexer.start ∧
      line.text = Text.stripReturn raw :=
  lexer.exists_line (show text.rawLines = [] ++ raw :: raws from hraws)

/-- What is put in the place of a line stands there, and is entered in the same state. -/
theorem Lexer.exists_replacedLine {lexer : Lexer} {text : Text} {i : Nat}
    {line : LexedLine lexer.rules.size}
    (hline : (lexer.tokenizeDocument text).lines[i]? = some line) :
    ∃ raw, line.text = Text.stripReturn raw ∧ ∀ edit : Text → Text, '\n' ∉ edit line.text →
      ∃ line', (lexer.tokenizeDocument (text.replaceLine i edit)).lines[i]? = some line' ∧
        line'.entered = line.entered ∧
        line'.text = Text.stripReturn (edit line.text ++ Text.lineEnd raw) := by
  obtain ⟨earlier, raw, later, hraws, rfl, htext, hentered⟩ := exists_of_line hline
  refine ⟨raw, htext, fun edit hedit => ?_⟩
  rw [htext] at hedit ⊢
  obtain ⟨line', hline', hentered', htext'⟩ :=
    lexer.exists_line (Text.rawLines_replaceLine hraws hedit)
  exact ⟨line', hline', hentered'.trans hentered.symm, htext'⟩

namespace Gibiane

open Grouping

variable {lexer : Lexer} {string header : lexer.rules.StateId}

/-- **A line that is entered in the start state can be exchanged.**  What comes before it leaves
statements and no string, and what comes after it is grouped from there on. -/
theorem statements_replaceLine (huniform : Uniform lexer.rules string)
    (hkeywords : KeywordTable.ofWords keywordLists = .ok lexer.keywords)
    (hformed : Formed lexer.rules string header) {text : Text} {i : Nat}
    {line : LexedLine lexer.rules.size}
    (hline : (lexer.tokenizeDocument text).lines[i]? = some line)
    (hentered : line.entered = lexer.start) :
    ∃ raw done current later, line.text = Text.stripReturn raw ∧ '\n' ∉ line.text ∧
      ∀ edit : Text → Text, '\n' ∉ edit line.text →
        statements (lexer.tokenizeDocument (text.replaceLine i edit)) =
          (scanLines lexer lexer.start []
            (Text.stripReturn (edit line.text ++ Text.lineEnd raw) :: later)
            ⟨done, current, none⟩).1.statements := by
  obtain ⟨earlier, raw, later, hraws, rfl, htext, hstate⟩ := Lexer.exists_of_line hline
  have hstart : lexer.exitFrom lexer.start earlier = lexer.start := by rw [← hstate, hentered]
  have hthreads := lexer.lexFrom_threads earlier lexer.start 0
  rw [hstart] at hthreads
  have hopen := open?_eq_none_of_threads (plays_of_takes huniform hkeywords hformed)
    hformed.start_ne_string hthreads
  generalize hg : (lexer.lexFrom lexer.start 0 earlier).foldl addLine .empty = g at hopen
  obtain ⟨done, current, open?⟩ := g
  obtain rfl : open? = none := hopen
  have hfeed : '\n' ∉ line.text := by
    obtain ⟨ending, hending⟩ := Text.exists_ending raw
    intro hmem
    have hraw : raw ∈ text.rawLines := by
      rw [hraws]
      simp
    refine Text.not_mem_of_mem_rawLines hraw ?_
    rw [hending, ← htext]
    exact List.mem_append_left _ hmem
  refine ⟨raw, done, current, later.map Text.stripReturn, htext, hfeed, ?_⟩
  intro edit hedit
  rw [htext] at hedit ⊢
  have hlines := (lexer.tokenizeDocument_eq (text.replaceLine earlier.length edit)).1
  rw [statements, hlines, Text.rawLines_replaceLine hraws hedit, (lexer.lexFrom_append _ _ _ _).1,
    List.foldl_append, hg, hstart, ← List.map_cons, scanLines_eq]

end Gibiane

end LineLexer
