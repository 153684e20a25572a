/-
The turns of a line, one after the other.

`Takes` lists everything a turn can be, once, so that no later argument opens the rules
of a state or the search for a match again.  Either a rule matched, and what it matched
was passed, or no rule matched, and a character was passed.  A rule that matched nothing
would be a third case, where a character is passed all the same; only the patterns of a
table can rule it out, and the loop itself does not depend on it.

`Runs` chains turns from a cursor to the end of the line.  It follows that the turns of
a line cut it into pieces: none is empty, each starts where the one before it stops, and
together they are the line.
-/
import LineLexer.Lexer
import LineLexer.Proofs.Pattern.Reading
import Mathlib.Data.List.Chain

namespace LineLexer

/-- The stretch of the line that a turn passes. -/
def Turn.span {n : Nat} (turn : Turn n) : Span := ⟨turn.start, turn.stop⟩

/-- The rule that wins in a state is one of its rules, and it matches. -/
theorem State.mem_of_firstMatch? {n : Nat} {state : State n} {cur : Cursor} {rule : Rule n}
    {found : Match} (h : state.firstMatch? cur = some (rule, found)) :
    rule ∈ state.rules ∧ rule.pattern.matchAt? cur = some found := by
  obtain ⟨rule', hmem, hmatch⟩ := List.exists_of_findSome?_eq_some h
  obtain ⟨found', hfound, heq⟩ := Option.map_eq_some_iff.mp hmatch
  obtain ⟨rfl, rfl⟩ := Prod.mk.inj heq
  exact ⟨hmem, hfound⟩

theorem State.firstMatch?_eq_none_iff {n : Nat} {state : State n} {cur : Cursor} :
    state.firstMatch? cur = none ↔ ∀ rule ∈ state.rules, rule.pattern.matchAt? cur = none := by
  simp [State.firstMatch?]

namespace Lexer

variable {lexer : Lexer}

/-! ### What a turn can be -/

/-- A turn of the lexer that passes the text `read`. -/
inductive Takes (lexer : Lexer) : Turn lexer.rules.size → Text → Prop
  /-- The first rule that matches has matched `passed`; if that was nothing, one character more was
  passed. -/
  | matched {state : lexer.rules.StateId} {start stop : Cursor} {rule : Rule lexer.rules.size}
      {found : Match} {passed more : Text}
      (hfirst : (lexer.rules.state state).firstMatch? start = some (rule, found))
      (hread : rule.pattern.node.Reads start passed found.captures found.stop)
      (hmore : found.stop.Passes more stop)
      (honce : passed ≠ [] ∧ more = [] ∨ passed = [] ∧ more.length = 1) :
      Takes lexer ⟨state, start, .matched rule found, stop⟩ (passed ++ more)
  /-- No rule matches, and one character was passed. -/
  | unmatched {state : lexer.rules.StateId} {cur : Cursor} {c : Char} {rest : Text}
      (hfirst : (lexer.rules.state state).firstMatch? cur = none) (hrest : cur.rest = c :: rest) :
      Takes lexer ⟨state, cur, .unmatched c, cur.pass c rest⟩ [c]

theorem state_turnAt (state : lexer.rules.StateId) (cur : Cursor) (c : Char) (rest : Text) :
    (lexer.turnAt state cur c rest).state = state := by
  unfold turnAt
  split <;> rfl

theorem start_turnAt (state : lexer.rules.StateId) (cur : Cursor) (c : Char) (rest : Text) :
    (lexer.turnAt state cur c rest).start = cur := by
  unfold turnAt
  split <;> rfl

theorem turnAt_takes {state : lexer.rules.StateId} {cur : Cursor} {c : Char} {rest : Text}
    (hrest : cur.rest = c :: rest) :
    ∃ read, lexer.Takes (lexer.turnAt state cur c rest) read := by
  have hcur : cur.remaining = rest.length + 1 := by simp [Cursor.remaining, hrest]
  unfold turnAt
  split
  · rename_i rule found hfirst
    obtain ⟨read, hread⟩ := Node.matchAt?_reads (State.mem_of_firstMatch? hfirst).2
    have hrem := hread.passes.remaining
    by_cases hne : read = []
    · subst hne
      rw [List.length_nil] at hrem
      rw [if_neg (by omega)]
      have hmore : found.stop.Passes [c] (cur.pass c rest) := by
        rw [hread.passes.eq_of_nil]
        exact Cursor.Passes.pass hrest
      exact ⟨_, Takes.matched hfirst hread hmore (Or.inr ⟨rfl, rfl⟩)⟩
    · have hpos : 0 < read.length := List.length_pos_iff.mpr hne
      rw [if_pos (by omega)]
      exact ⟨_, Takes.matched hfirst hread (Cursor.Passes.refl _) (Or.inl ⟨hne, rfl⟩)⟩
  · rename_i hfirst
    exact ⟨[c], Takes.unmatched hfirst hrest⟩

namespace Takes

variable {turn : Turn lexer.rules.size} {read : Text}

theorem passes (h : lexer.Takes turn read) : turn.start.Passes read turn.stop := by
  cases h with
  | matched _ hread hmore _ => exact hread.passes.trans hmore
  | unmatched _ hrest => exact Cursor.Passes.pass hrest

theorem ne_nil (h : lexer.Takes turn read) : read ≠ [] := by
  cases h with
  | matched _ _ _ honce =>
      rcases honce with ⟨hne, -⟩ | ⟨-, hone⟩
      · exact List.append_ne_nil_of_left_ne_nil hne _
      · exact List.append_ne_nil_of_right_ne_nil _ (List.length_pos_iff.mp (by omega))
  | unmatched _ _ => simp

theorem offset_lt (h : lexer.Takes turn read) : turn.start.offset < turn.stop.offset :=
  h.passes.offset_lt h.ne_nil

end Takes

/-! ### Turns to the end of the line -/

/-- The turns are taken one after the other, from a cursor in a state to the end of the line. -/
inductive Runs (lexer : Lexer) :
    lexer.rules.StateId → Cursor → List (Turn lexer.rules.size) → Prop
  | done {state : lexer.rules.StateId} {cur : Cursor} (hrest : cur.rest = []) :
      Runs lexer state cur []
  | turn {state : lexer.rules.StateId} {cur : Cursor} {turn : Turn lexer.rules.size}
      {turns : List (Turn lexer.rules.size)} {read : Text} (hstate : turn.state = state)
      (hstart : turn.start = cur) (h : lexer.Takes turn read)
      (h' : Runs lexer turn.exit turn.stop turns) : Runs lexer state cur (turn :: turns)

/-- **The lexer takes turns up to the end of the line.** -/
theorem turns_runs (state : lexer.rules.StateId) (cur : Cursor) :
    lexer.Runs state cur (lexer.turns state cur) := by
  fun_induction lexer.turns state cur with
  | case1 state cur hrest => exact Runs.done hrest
  | case2 state cur c rest hrest turn ih =>
      obtain ⟨read, htakes⟩ := lexer.turnAt_takes hrest
      exact Runs.turn (state_turnAt _ _ _ _) (start_turnAt _ _ _ _) htakes ih

namespace Runs

variable {state : lexer.rules.StateId} {cur : Cursor} {turns : List (Turn lexer.rules.size)}
  {line : Text}

/-- Every turn starts at a character of the line. -/
theorem standsIn (h : lexer.Runs state cur turns) (hcur : cur.StandsIn line) :
    ∀ turn ∈ turns, turn.start.StandsIn line ∧ ∃ read, lexer.Takes turn read := by
  induction h with
  | done _ =>
      intro turn hmem
      simp at hmem
  | turn _ hstart htakes _ ih =>
      subst hstart
      intro turn hmem
      rcases List.mem_cons.mp hmem with rfl | hmem
      · exact ⟨hcur, _, htakes⟩
      · exact ih (hcur.move htakes.passes) turn hmem

/-- The pieces the turns pass make up what was left of the line. -/
theorem flatten (h : lexer.Runs state cur turns) :
    (turns.map (·.span.text)).flatten = cur.rest := by
  induction h with
  | done hrest => simp [hrest]
  | @turn _ _ turn _ read _ hstart htakes _ ih =>
      have htext : turn.span.text = read := htakes.passes.text
      rw [List.map_cons, List.flatten_cons, ih, htext, ← hstart, htakes.passes.rest]

/-- Each turn is taken where the one before it stopped, in the state it left. -/
theorem isChain (h : lexer.Runs state cur turns) :
    turns.IsChain fun a b => b.start = a.stop ∧ b.state = a.exit := by
  induction h with
  | done _ => exact List.IsChain.nil
  | turn _ _ _ h' ih =>
      cases h' with
      | done _ => exact List.IsChain.singleton _
      | turn hstate hstart _ _ => exact List.IsChain.cons_cons ⟨hstart, hstate⟩ ih

theorem start_of_head? (h : lexer.Runs state cur turns) {turn : Turn lexer.rules.size}
    (hhead : turns.head? = some turn) : turn.start = cur ∧ turn.state = state := by
  cases h with
  | done _ => simp at hhead
  | turn hstate hstart _ _ =>
      obtain rfl := Option.some.inj hhead
      exact ⟨hstart, hstate⟩

/-- The last turn stops at the end of the line. -/
theorem stop_of_getLast? (h : lexer.Runs state cur turns) {turn : Turn lexer.rules.size}
    (hlast : turns.getLast? = some turn) : turn.stop.rest = [] := by
  induction h with
  | done _ => simp at hlast
  | turn _ _ _ h' ih =>
      cases h' with
      | done hrest =>
          obtain rfl := Option.some.inj hlast
          exact hrest
      | turn _ _ _ _ => exact ih (by simpa using hlast)

theorem offset_le (h : lexer.Runs state cur turns) :
    ∀ turn ∈ turns, cur.offset ≤ turn.start.offset := by
  induction h with
  | done _ =>
      intro turn hmem
      simp at hmem
  | turn _ hstart htakes _ ih =>
      subst hstart
      intro turn hmem
      rcases List.mem_cons.mp hmem with rfl | hmem
      · exact Nat.le_refl _
      · exact Nat.le_trans htakes.passes.offset_le (ih turn hmem)

/-- A turn stops before any later one starts. -/
theorem pairwise (h : lexer.Runs state cur turns) :
    turns.Pairwise fun a b => a.stop.offset ≤ b.start.offset := by
  induction h with
  | done _ => exact List.Pairwise.nil
  | turn _ _ _ h' ih => exact List.Pairwise.cons h'.offset_le ih

/-- No byte of the line is passed over. -/
theorem exists_covers (h : lexer.Runs state cur turns) (hcur : cur.StandsIn line) :
    ∀ i, cur.offset ≤ i → i < line.byteLength → ∃ turn ∈ turns, turn.span.Covers i := by
  induction h with
  | done hrest =>
      intro i hle hlt
      have := hcur.offset_add
      rw [hrest, Text.byteLength_nil] at this
      omega
  | @turn _ _ turn _ _ _ hstart htakes _ ih =>
      subst hstart
      intro i hle hlt
      by_cases hstop : i < turn.stop.offset
      · exact ⟨turn, List.mem_cons_self, hle, hstop⟩
      · obtain ⟨later, hmem, hcov⟩ := ih (hcur.move htakes.passes) i (by omega) hlt
        exact ⟨later, List.mem_cons_of_mem _ hmem, hcov⟩

/-- No byte of the line is passed twice. -/
theorem eq_of_covers (h : lexer.Runs state cur turns) {i : Nat} {a b : Turn lexer.rules.size}
    (ha : a ∈ turns) (hb : b ∈ turns) (hacov : a.span.Covers i) (hbcov : b.span.Covers i) :
    a = b := by
  have hlt : a.start.offset ≤ i ∧ i < a.stop.offset := hacov
  have hlt' : b.start.offset ≤ i ∧ i < b.stop.offset := hbcov
  induction h with
  | done _ => simp at ha
  | turn _ _ _ h' ih =>
      rcases List.mem_cons.mp ha with hfirst | ha <;>
        rcases List.mem_cons.mp hb with hfirst' | hb
      · rw [hfirst, hfirst']
      · have := h'.offset_le b hb
        rw [← hfirst] at this
        omega
      · have := h'.offset_le a ha
        rw [← hfirst'] at this
        omega
      · exact ih ha hb

end Runs

/-- The turns of a line, from its first character. -/
theorem lineTurns_runs (lexer : Lexer) (state : lexer.rules.StateId) (line : Text) :
    lexer.Runs state (.start line) (lexer.lineTurns state line) :=
  turns_runs state (.start line)

/-- A line that is not empty has a turn at its start, in the state in which it is entered. -/
theorem exists_first_turn (state : lexer.rules.StateId) {line : Text} (hline : line ≠ []) :
    ∃ turn ∈ lexer.lineTurns state line, turn.state = state ∧ turn.start = .start line := by
  have hruns := lexer.lineTurns_runs state line
  generalize lexer.lineTurns state line = turns at hruns ⊢
  cases hruns with
  | done hrest => exact absurd hrest hline
  | turn hstate hstart _ _ => exact ⟨_, List.mem_cons_self, hstate, hstart⟩

end Lexer

end LineLexer
