/-
Lines that are commented out.

A star at the start of a line makes a comment of the line, whatever it says, and grouping
drops comments even in the middle of a statement.  So to comment a line out is as good as to
empty it.  The one exception is a line that is empty already: the rule for comments wants a
character after the star, so a star alone is an operator, and it becomes an item of the
statement around it (`scan_star`).

That the item then shows in the statements of the script, whatever follows, is an argument
about two runs.  They take the same tokens, and a token adds the same items to both as long
as both are inside a string or both outside (`Adds`).
-/
import LineLexer.Proofs.Gibiane.Replaced

namespace LineLexer.Gibiane

open Grouping

variable {lexer : Lexer} {string header state : lexer.rules.StateId} {line w : Text}
  {g g' : Grouping} {done : List Statement} {current : Statement}

/-! ### A star at the start of a line -/

/-- A star and a text after it are a comment. -/
theorem leads_comment (hne : w ≠ []) (hline : '\n' ∉ w) :
    Form.comment.Leads (.between [] ('*' :: w)) [] (.between ('*' :: w) []) := by
  have hchars : ∀ c ∈ w, (CharSet.all.diff (.single '\n')).contains c = true := by
    intro c hc
    have hfeed : c ≠ '\n' := by
      rintro rfl
      exact hline hc
    have hsingle : (Form.oneOf ['\n']).contains c = false := by
      rw [← Bool.not_eq_true, oneOf_contains, List.mem_singleton]
      exact hfeed
    rw [CharSet.contains_diff, all_contains,
      show (CharSet.single '\n').contains c = false from hsingle]
    rfl
  have hrest : (Form.run (CharSet.all.diff (.single '\n'))).Leads (.between ['*'] (w ++ [])) []
      (.between (['*'] ++ w) []) :=
    Node.Leads.many_succ ['*'] hchars hne (by simp)
  rw [List.append_nil] at hrest
  exact .seq (.look rfl) (.seq (.optional_of_starts (by decide) (by rintro _ ⟨⟩; decide))
    (.seq (.chars [] (by decide)) (.seq hrest (.look rfl))))

section Star

variable (hformed : Formed lexer.rules string header)

include hformed

/-- **A line that is commented out adds nothing**, if there is anything on it. -/
theorem scan_comment (hne : w ≠ []) (hline : '\n' ∉ w) :
    scan lexer lexer.start [] ('*' :: w) ⟨done, current, none⟩ =
      (⟨done, current, none⟩, lexer.start) := by
  have hfirst : Meaning.first? (lexer.rules.state lexer.start).meanings
      (.between [] (('*' :: w) ++ [])) =
      some (⟨Form.comment, .whole (.fixed .comment), none⟩,
        ⟨.between ([] ++ '*' :: w) [], []⟩) := by
    rw [Lexer.start, hformed.startRules, List.append_nil]
    exact Meaning.first?_cons_of_matchAt? (Node.matchAt?_of_leads (leads_comment hne hline))
  have hscan := scan_of_whole (g := ⟨done, current, none⟩) hfirst (by simp)
  rw [List.append_nil] at hscan
  rw [hscan, scan_nil]
  rfl

/-- **A star alone is an operator**, and so a part of a statement. -/
theorem scan_star :
    scan lexer lexer.start [] ['*'] ⟨done, current, none⟩ =
      (⟨done, current ++ [.symbol ['*']], none⟩, lexer.start) := by
  have hopenings : Meaning.openings (Form.oneOf ['*']) (Form.start string header) =
      [⟨Form.comment, .whole (.fixed .comment), none⟩,
        ⟨Form.operator, .whole (.fixed .operator), none⟩] := rfl
  have hcomment : Form.comment.matchAt? (.between [] ['*']) = none := by
    refine Node.matchAt?_eq_none_of_not_reads ?_
    intro read closed stop h
    have hwidth : 2 ≤ read.length := h.minWidth_le 2 rfl
    have hlength := congrArg List.length h.passes.rest
    simp at hlength
    omega
  have hfirst : Meaning.first? (lexer.rules.state lexer.start).meanings
      (.between [] (['*'] ++ [])) =
      some (⟨Form.operator, .whole (.fixed .operator), none⟩, ⟨.between ([] ++ ['*']) [], []⟩) := by
    rw [Lexer.start, hformed.startRules,
      Meaning.first?_openings (Form.oneOf ['*']) (by rintro _ ⟨⟩; decide), hopenings,
      List.append_nil, Meaning.first?_cons_of_none hcomment]
    exact Meaning.first?_cons_of_matchAt? rfl
  have hscan := scan_of_whole (g := ⟨done, current, none⟩) hfirst (by simp)
  rw [List.append_nil] at hscan
  rw [hscan, scan_nil]
  rfl

end Star

/-! ### Items that stay -/

/-- The items of all statements found so far, one after the other. -/
def Grouping.items (g : Grouping) : List Item := g.done.flatten ++ g.current

theorem items_endStatement (g : Grouping) : g.endStatement.items = g.items := by
  unfold endStatement Grouping.items
  split
  · rfl
  · simp

theorem flatten_statements (g : Grouping) : g.statements.flatten = g.items := by
  have hitems := items_endStatement g
  rwa [Grouping.items, current_endStatement, List.append_nil] at hitems

theorem items_push (g : Grouping) (items : List Item) :
    (g.push items).items = g.items ++ items := by
  simp [push, Grouping.items]

/-- From the first two groupings to the others, the same items were added. -/
structure Adds (g g' next next' : Grouping) : Prop where
  items : ∃ added, next.items = g.items ++ added ∧ next'.items = g'.items ++ added
  open? : next.open? = next'.open?

namespace Adds

theorem refl (hopen : g.open? = g'.open?) : Adds g g' g g' := ⟨⟨[], by simp, by simp⟩, hopen⟩

theorem trans {h h' k k' : Grouping} (first : Adds g g' h h') (second : Adds h h' k k') :
    Adds g g' k k' := by
  obtain ⟨added, hitems, hitems'⟩ := first.items
  obtain ⟨more, hmore, hmore'⟩ := second.items
  exact ⟨⟨added ++ more, by rw [hmore, hitems, List.append_assoc],
    by rw [hmore', hitems', List.append_assoc]⟩, second.open?⟩

end Adds

/-- **A token adds the same items on both sides**, where both are inside a string or both
outside. -/
theorem adds_addToken (line : Text) (token : Token) (hopen : g.open? = g'.open?) :
    Adds g g' (addToken line g token) (addToken line g' token) := by
  have hpush : ∀ items, Adds g g' (g.push items) (g'.push items) := fun items =>
    ⟨⟨items, items_push g items, items_push g' items⟩, hopen⟩
  have hend : Adds g g' g.endStatement g'.endStatement := by
    refine ⟨⟨[], ?_, ?_⟩, ?_⟩
    · rw [items_endStatement, List.append_nil]
    · rw [items_endStatement, List.append_nil]
    · unfold endStatement
      split <;> split <;> exact hopen
  cases hbody : g.open? with
  | some body =>
      have hbody' := hopen.symm.trans hbody
      simp only [addToken, hbody, hbody']
      unfold addInside
      split
      · exact ⟨(hpush [.literal body]).items, rfl⟩
      · split
        · exact ⟨(Adds.refl hopen).items, rfl⟩
        · exact ⟨(Adds.refl hopen).items, rfl⟩
  | none =>
      have hbody' := hopen.symm.trans hbody
      simp only [addToken, hbody, hbody']
      unfold addOutside
      split
      · exact Adds.refl hopen
      · exact ⟨(Adds.refl hopen).items, rfl⟩
      · split
        · exact hend
        · exact hpush _
      · exact hpush _

theorem adds_foldl (line : Text) (tokens : List Token) (hopen : g.open? = g'.open?) :
    Adds g g' (tokens.foldl (addToken line) g) (tokens.foldl (addToken line) g') := by
  induction tokens generalizing g g' with
  | nil => exact Adds.refl hopen
  | cons token tokens ih =>
      have hfirst := adds_addToken line token hopen
      exact hfirst.trans (ih hfirst.open?)

theorem adds_scanLines (state : lexer.rules.StateId) (lines : List Text)
    (hopen : g.open? = g'.open?) :
    Adds g g' (scanLines lexer state [] lines g).1 (scanLines lexer state [] lines g').1 := by
  induction lines generalizing state g g' with
  | nil => exact Adds.refl hopen
  | cons line lines ih =>
      have hline : Adds g g' (scan lexer state [] line g).1 (scan lexer state [] line g').1 :=
        adds_foldl _ _ hopen
      have hend : Adds g g' (scan lexer state [] line g).1.endLine
          (scan lexer state [] line g').1.endLine :=
        ⟨hline.items, congrArg (Option.map (· ++ ['\n'])) hline.open?⟩
      exact hend.trans (ih _ hend.open?)

/-- **An item that stands between statements and what follows stays there.** -/
theorem statements_push_ne (state : lexer.rules.StateId) (lines : List Text) (item : Item) :
    (scanLines lexer state [] lines ⟨done, current ++ [item], none⟩).1.statements ≠
      (scanLines lexer state [] lines ⟨done, current, none⟩).1.statements := by
  intro h
  have hadds : Adds ⟨done, current ++ [item], none⟩ ⟨done, current, none⟩
      (scanLines lexer state [] lines ⟨done, current ++ [item], none⟩).1
      (scanLines lexer state [] lines ⟨done, current, none⟩).1 := adds_scanLines state lines rfl
  obtain ⟨added, hitems, hitems'⟩ := hadds.items
  rw [← flatten_statements, h, flatten_statements, hitems'] at hitems
  have hlength := congrArg List.length hitems
  simp [Grouping.items] at hlength

/-! ### Commenting out -/

/-- **To comment out a line is to empty it, unless it is empty.**  Where a line that is entered in
the start state says anything, a star before it and no text in its place give the same statements
and the same outputs; where it is empty, the star is one item more. -/
theorem exists_lexer_commented (text : Text) (i : Nat) :
    ∃ lexer, Gibiane.lexer = .ok lexer ∧
      ∀ line : LexedLine lexer.rules.size,
        (lexer.tokenizeDocument text).lines[i]? = some line → line.entered = lexer.start →
          (line.text ≠ [] →
            discover (lexer.tokenizeDocument (text.replaceLine i ('*' :: ·))) =
              discover (lexer.tokenizeDocument (text.replaceLine i fun _ => []))) ∧
          (statements (lexer.tokenizeDocument (text.replaceLine i ('*' :: ·))) =
              statements (lexer.tokenizeDocument (text.replaceLine i fun _ => [])) ↔
            line.text ≠ []) := by
  obtain ⟨lexer, hlexer, ⟨string, header, hformed, huniform⟩, hkeywords⟩ := exists_lexer_uniform
  refine ⟨lexer, hlexer, ?_⟩
  intro line hline hentered
  obtain ⟨raw, done, current, later, htext, hfeed, hreplace⟩ :=
    statements_replaceLine huniform hkeywords hformed hline hentered
  have hempty : statements (lexer.tokenizeDocument (text.replaceLine i fun _ => [])) =
      (scanLines lexer lexer.start [] later ⟨done, current, none⟩).1.statements := by
    have hraw : Text.stripReturn ([] ++ Text.lineEnd raw) = [] :=
      Text.stripReturn_append_append_lineEnd (b := []) List.nil_suffix (by simp)
    rw [hreplace _ (by simp), hraw, scanLines, scan_nil]
    rfl
  have hstar : statements (lexer.tokenizeDocument (text.replaceLine i ('*' :: ·))) =
      (scanLines lexer lexer.start [] (('*' :: line.text) :: later)
        ⟨done, current, none⟩).1.statements := by
    have hraw : Text.stripReturn ('*' :: line.text ++ Text.lineEnd raw) = '*' :: line.text := by
      rw [htext]
      exact Text.stripReturn_append_append_lineEnd (b := ['*']) List.suffix_rfl (by simp)
    rw [hreplace _ (by simp [hfeed]), hraw]
  have hsame : line.text ≠ [] →
      statements (lexer.tokenizeDocument (text.replaceLine i ('*' :: ·))) =
        statements (lexer.tokenizeDocument (text.replaceLine i fun _ => [])) := by
    intro hne
    rw [hstar, hempty, scanLines, scan_comment hformed hne hfeed]
    rfl
  refine ⟨fun hne => ?_, fun h => ?_, hsame⟩
  · rw [discover, discover, hsame hne]
  · intro hnil
    rw [hstar, hempty, hnil, scanLines, scan_star hformed] at h
    exact statements_push_ne lexer.start later (.symbol ['*']) h

/-- A line that prints a result is as good as empty once it is commented out. -/
theorem discover_commented :
    ∃ (text : Text) (lexer : Lexer) (line : LexedLine lexer.rules.size),
      text = "MESS 'x=' x;".toList ∧ Gibiane.lexer = .ok lexer ∧
      (lexer.tokenizeDocument text).lines[0]? = some line ∧ line.entered = lexer.start ∧
      line.text ≠ [] ∧
      discover (lexer.tokenizeDocument (text.replaceLine 0 ('*' :: ·))) =
        discover (lexer.tokenizeDocument (text.replaceLine 0 fun _ => [])) := by
  obtain ⟨lexer, hlexer, hcommented⟩ := exists_lexer_commented "MESS 'x=' x;".toList 0
  have hraws : Text.rawLines "MESS 'x=' x;".toList = ["MESS 'x=' x;".toList] := by decide
  obtain ⟨line, hline, hentered, htext⟩ := lexer.exists_first_line hraws
  have hne : line.text ≠ [] := by
    rw [htext]
    decide
  exact ⟨_, lexer, line, rfl, hlexer, hline, hentered, hne,
    (hcommented line hline hentered).1 hne⟩

/-- A star on an empty line is an item of the statement on the next line, which then prints
nothing. -/
theorem discover_star :
    ∃ (text : Text) (lexer : Lexer) (line : LexedLine lexer.rules.size),
      text = "\nMESS 'x=' x;".toList ∧ Gibiane.lexer = .ok lexer ∧
      (lexer.tokenizeDocument text).lines[0]? = some line ∧ line.entered = lexer.start ∧
      text.replaceLine 0 ('*' :: ·) = "*\nMESS 'x=' x;".toList ∧
      discover (lexer.tokenizeDocument (text.replaceLine 0 ('*' :: ·))) = [] ∧
      discover (lexer.tokenizeDocument (text.replaceLine 0 fun _ => [])) =
        [⟨"x".toList, .console⟩] := by
  obtain ⟨lexer, hlexer, ⟨string, header, hformed, huniform⟩, hkeywords⟩ := exists_lexer_uniform
  have hraws : Text.rawLines "\nMESS 'x=' x;".toList = [[], "MESS 'x=' x;".toList] := by decide
  obtain ⟨line, hline, hentered, -⟩ := lexer.exists_first_line hraws
  have hprint : ∀ current : Statement, scan lexer lexer.start [] "MESS 'x=' x;".toList
      ⟨[], current, none⟩ =
        (⟨[current ++ [.word "MESS".toList, .literal "x=".toList, .word "x".toList]], [], none⟩,
          lexer.start) := by
    intro current
    have hline : "MESS 'x=' x;".toList = "MESS".toList ++ ' ' :: '\'' :: ("x=".toList ++
        '\'' :: ' ' :: ("x".toList ++ [';'])) := by decide
    rw [hline]
    exact scan_command hformed hkeywords ⟨by decide, by decide⟩ (by rintro _ ⟨⟩; decide)
      (by decide) ⟨by decide, by decide⟩
  have hstatements : ∀ (text : Text) (first : Text) (current : Statement),
      text.rawLines.map Text.stripReturn = [first, "MESS 'x=' x;".toList] →
      scan lexer lexer.start [] first ⟨[], [], none⟩ = (⟨[], current, none⟩, lexer.start) →
      statements (lexer.tokenizeDocument text) =
        [current ++ [.word "MESS".toList, .literal "x=".toList, .word "x".toList]] := by
    intro text first current hlines hfirst
    have hend : endLine ⟨[], current, none⟩ = ⟨[], current, none⟩ := rfl
    rw [statements_eq_scanLines, hlines, Grouping.empty, scanLines, hfirst, hend, scanLines, hprint]
    rfl
  have hstar := hstatements (Text.replaceLine "\nMESS 'x=' x;".toList 0 ('*' :: ·)) ['*'] _
    (by decide) (scan_star hformed)
  have hempty := hstatements (Text.replaceLine "\nMESS 'x=' x;".toList 0 fun _ => []) [] _
    (by decide) (scan_nil lexer.start [] _)
  refine ⟨_, lexer, line, rfl, hlexer, hline, hentered, by decide, ?_, ?_⟩
  · rw [discover, hstar]
    decide
  · rw [discover, hempty]
    decide

end LineLexer.Gibiane
