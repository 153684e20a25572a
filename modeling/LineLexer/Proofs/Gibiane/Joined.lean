/-
The statements of a script and of another one after it.

Where a script ends in the start state, all that it hands on to what follows is the statements
it has, which nothing later looks at, and the items that no semicolon follows yet: grouping is
in step with the lexer, so no string is being read (`open?_eq_none_of_threads`).  What follows
is grouped as if it stood alone, with those items before its own.

So two scripts can be put one after the other, and the statements of the second are added to
those of the first, exactly when the first leaves no items behind.
-/
import LineLexer.Proofs.Gibiane.Strings
import LineLexer.Proofs.Gibiane.Literals

namespace LineLexer.Gibiane

open Grouping

/-- The items of a script after its last semicolon that ends a statement. -/
def pending {n : Nat} (document : Document n) : Statement :=
  (document.lines.foldl addLine .empty).current

/-- The same grouping, with other statements before those it has found. -/
def Grouping.after (g : Grouping) (earlier : List Statement) : Grouping :=
  { g with done := earlier ++ g.done }

variable {lexer : Lexer} {string header : lexer.rules.StateId}

/-! ### Statements found earlier -/

section After

variable (g : Grouping) (earlier : List Statement)

theorem endStatement_after : (g.after earlier).endStatement = g.endStatement.after earlier := by
  unfold endStatement
  by_cases hempty : g.current.isEmpty
  · rw [if_pos hempty, if_pos (show (g.after earlier).current.isEmpty from hempty)]
  · rw [if_neg hempty, if_neg (show ¬ (g.after earlier).current.isEmpty from hempty)]
    simp only [after, List.append_assoc]

theorem statements_after : (g.after earlier).statements = earlier ++ g.statements := by
  unfold Grouping.statements
  rw [endStatement_after]
  rfl

/-- A token is taken in without a look at the statements found. -/
theorem addToken_after (line : Text) (token : Token) :
    addToken line (g.after earlier) token = (addToken line g token).after earlier := by
  unfold addToken
  rw [show (g.after earlier).open? = g.open? from rfl]
  split
  · unfold addInside
    split
    · rfl
    · split
      · rfl
      · rfl
  · unfold addOutside
    split
    · rfl
    · rfl
    · split
      · exact endStatement_after g earlier
      · rfl
    · rfl

theorem foldl_addToken_after (line : Text) (tokens : List Token) :
    tokens.foldl (addToken line) (g.after earlier) =
      (tokens.foldl (addToken line) g).after earlier := by
  induction tokens generalizing g with
  | nil => rfl
  | cons token tokens ih => rw [List.foldl_cons, addToken_after, ih, List.foldl_cons]

/-- So is a script. -/
theorem scanLines_after (lexer : Lexer) (lines : List Text) (state : lexer.rules.StateId) :
    (scanLines lexer state [] lines (g.after earlier)).1 =
      (scanLines lexer state [] lines g).1.after earlier := by
  induction lines generalizing state g with
  | nil => rfl
  | cons line lines ih =>
      have hline : (scan lexer state [] line (g.after earlier)).1.endLine =
          ((scan lexer state [] line g).1.endLine).after earlier := by
        simp only [scan, foldl_addToken_after]
        rfl
      rw [scanLines, hline]
      exact ih _ _

end After

/-! ### Scripts one after the other -/

/-- The grouping of a script with another one after it goes on from that of the first. -/
theorem statements_append (lexer : Lexer) (text more : Text) :
    statements (lexer.tokenizeDocument (text ++ '\n' :: more)) =
      (scanLines lexer (lexer.tokenizeDocument text).exit []
        (more.rawLines.map Text.stripReturn)
        ((lexer.tokenizeDocument text).lines.foldl addLine .empty)).1.statements := by
  obtain ⟨hlines, hexit⟩ := lexer.tokenizeDocument_eq text
  have hjoined := (lexer.tokenizeDocument_eq (text ++ '\n' :: more)).1
  rw [Text.rawLines_append, (lexer.lexFrom_append _ _ _ _).1] at hjoined
  rw [statements, hjoined, List.foldl_append, hlines, hexit, scanLines_eq]

section Start

variable (huniform : Uniform lexer.rules string)
  (hkeywords : KeywordTable.ofWords keywordLists = .ok lexer.keywords)
  (hformed : Formed lexer.rules string header)

include huniform hkeywords hformed

/-- **Where a script ends in the start state, only its last items are handed on.** -/
theorem statements_append_of_start {text : Text}
    (hexit : (lexer.tokenizeDocument text).exit = lexer.start) :
    ∃ earlier, (lexer.tokenizeDocument text).lines.foldl addLine .empty =
        ⟨earlier, pending (lexer.tokenizeDocument text), none⟩ ∧
      ∀ more : Text, statements (lexer.tokenizeDocument (text ++ '\n' :: more)) =
        earlier ++ (scanLines lexer lexer.start [] (more.rawLines.map Text.stripReturn)
          ⟨[], pending (lexer.tokenizeDocument text), none⟩).1.statements := by
  have hthreads := lexer.tokenizeDocument_threads text
  rw [hexit] at hthreads
  have hopen := open?_eq_none_of_threads (plays_of_takes huniform hkeywords hformed)
    hformed.start_ne_string hthreads
  have hgrouped : (lexer.tokenizeDocument text).lines.foldl addLine .empty =
      ⟨((lexer.tokenizeDocument text).lines.foldl addLine .empty).done,
        pending (lexer.tokenizeDocument text), none⟩ := by
    rw [← hopen]
    rfl
  refine ⟨_, hgrouped, ?_⟩
  intro more
  rw [statements_append, hexit, hgrouped, ← statements_after, ← scanLines_after]
  simp only [after, List.append_nil]

end Start

/-- A sign alone is one more item. -/
theorem statements_sign (hformed : Formed lexer.rules string header) (current : Statement) :
    (scanLines lexer lexer.start [] ((Text.rawLines ['=']).map Text.stripReturn)
      ⟨[], current, none⟩).1.statements = [current ++ [.symbol ['=']]] := by
  have hlines : (Text.rawLines ['=']).map Text.stripReturn = [['=']] := by decide
  rw [hlines, scanLines, scan_sign hformed (by decide), scan_nil, scanLines]
  unfold Grouping.statements endStatement
  rw [if_neg]
  · rfl
  · simp [endLine]

/-- **Statements of two scripts are put one after the other** where the first one ends in the start
state, whatever the second one is, exactly if no items follow the last semicolon of the first. -/
theorem exists_lexer_joins :
    ∃ lexer, Gibiane.lexer = .ok lexer ∧ ∀ text,
      (lexer.tokenizeDocument text).exit = lexer.start →
        (pending (lexer.tokenizeDocument text) = [] ↔
          ∀ more : Text, statements (lexer.tokenizeDocument (text ++ '\n' :: more)) =
            statements (lexer.tokenizeDocument text) ++
              statements (lexer.tokenizeDocument more)) := by
  obtain ⟨lexer, hlexer, ⟨string, header, hformed, huniform⟩, hkeywords⟩ := exists_lexer_uniform
  refine ⟨lexer, hlexer, ?_⟩
  intro text hexit
  obtain ⟨earlier, hgrouped, happend⟩ :=
    statements_append_of_start huniform hkeywords hformed hexit
  have hfirst : statements (lexer.tokenizeDocument text) =
      Grouping.statements ⟨earlier, pending (lexer.tokenizeDocument text), none⟩ := by
    rw [statements, hgrouped]
  constructor
  · intro hpending more
    rw [happend, hfirst, hpending, statements_eq_scanLines lexer more]
    rfl
  · intro hjoins
    by_contra hpending
    -- One item more goes to the statement that was not ended, and makes one of its own alone.
    have hsign := hjoins ['=']
    rw [happend, hfirst, statements_eq_scanLines lexer ['='], Grouping.empty,
      statements_sign hformed, statements_sign hformed] at hsign
    have hlength := congrArg List.length hsign
    simp [Grouping.statements, endStatement, hpending] at hlength

/-- The semicolon in a string ends no statement, so nothing is handed on. -/
theorem statements_append_printing :
    ∃ lexer, Gibiane.lexer = .ok lexer ∧
      (lexer.tokenizeDocument (printing "a;".toList)).exit = lexer.start ∧
      pending (lexer.tokenizeDocument (printing "a;".toList)) = [] ∧
      statements (lexer.tokenizeDocument
          (printing "a;".toList ++ '\n' :: printing "b=".toList)) =
        statements (lexer.tokenizeDocument (printing "a;".toList)) ++
          statements (lexer.tokenizeDocument (printing "b=".toList)) := by
  obtain ⟨lexer, hlexer, hjoins⟩ := exists_lexer_joins
  obtain ⟨other, hother, ⟨string, header, hformed⟩, hkeywords⟩ := exists_lexer_formed
  obtain rfl := Except.ok.inj (hlexer.symm.trans hother)
  have hlines : (printing "a;".toList).rawLines.map Text.stripReturn =
      (printing "a;".toList).rawLines := by decide
  have hscan := scanText_printing hformed hkeywords "a;".toList
  rw [scanText, ← hlines, scanLines_eq lexer _ _ 0, Prod.mk.injEq,
    ← (lexer.tokenizeDocument_eq _).1, ← (lexer.tokenizeDocument_eq _).2] at hscan
  obtain ⟨hgrouped, hexit⟩ := hscan
  have hpending : pending (lexer.tokenizeDocument (printing "a;".toList)) = [] := by
    rw [pending, hgrouped]
  exact ⟨lexer, hlexer, hexit, hpending, (hjoins _ hexit).mp hpending _⟩

end LineLexer.Gibiane
