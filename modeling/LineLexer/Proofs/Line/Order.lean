/-
The order of the tokens of a line.

Tokens of different turns are in order because the turns are: each token lies in the
text its turn passes.  So disorder can only come from within one turn, and there only
from a match by groups, whose tokens are emitted by the numbers of the groups whatever
the order in which the groups matched.  The tokens of a line are in order exactly if
that never happens on it (`pairwise_tokens_iff`).

Patterns whose groups stand in a row never let it happen.  A group inside a group does,
and so do two groups that take turns in a repetition (`tokens_outOfOrder`).
-/
import LineLexer.Proofs.Line.Tokens

namespace LineLexer

/-- The token ends before the other one starts. -/
def Token.Before (a b : Token) : Prop := a.stop ≤ b.start

instance (a b : Token) : Decidable (a.Before b) := inferInstanceAs (Decidable (_ ≤ _))

/-- The groups with numbers up to `count` that hold some text come one after the other. -/
def Match.InOrder (found : Match) (count : Nat) : Prop :=
  ∀ i j s t, 1 ≤ i → i < j → j ≤ count → found.group? i = some s → found.group? j = some t →
    s.isEmpty = false → t.isEmpty = false → s.stop.offset ≤ t.start.offset

/-- Every pattern by groups of the table has its groups in a row. -/
def RuleTable.GroupsInRow (table : RuleTable) : Prop :=
  ∀ rule, table.HasRule rule → ∀ labels, rule.emit = .groups labels → rule.pattern.node.InRow

namespace Lexer

variable {lexer : Lexer}

/-- The tokens of a match by groups are in order exactly if the groups are. -/
theorem pairwise_emit_groups {node : Node} {start : Cursor} {found : Match} {passed : Text}
    (hread : node.Reads start passed found.captures found.stop) (labels : List Label) :
    (lexer.emit (.groups labels) start found).Pairwise Token.Before ↔
      found.InOrder labels.length := by
  have hstop : ∀ {i label s}, found.group? i = some s →
      (lexer.tokenOf label s).stop = s.stop.offset := fun hs =>
    (hread.encloses_lookup hs).2.stop_eq (tells_tokenOf _ _)
  rw [emit, List.pairwise_filterMap, List.pairwise_iff_getElem]
  simp only [List.length_zipIdx, List.getElem_zipIdx, Option.bind_eq_some_iff, Nat.zero_add]
  constructor
  · intro h i j s t hone hij hle hs ht hsne htne
    obtain ⟨i, rfl⟩ : ∃ k, i = k + 1 := ⟨i - 1, by omega⟩
    obtain ⟨j, rfl⟩ : ∃ k, j = k + 1 := ⟨j - 1, by omega⟩
    have hbefore := h i j (by omega) (by omega) (by omega)
      (lexer.tokenOf labels[i] s) ⟨s, hs, by simp [hsne]⟩
      (lexer.tokenOf labels[j] t) ⟨t, ht, by simp [htne]⟩
    rw [Token.Before, hstop hs] at hbefore
    exact hbefore
  · rintro h i j hi hj hij a ⟨s, hs, ha⟩ b ⟨t, ht, hb⟩
    split at ha
    · exact absurd ha (by simp)
    · rename_i hsne
      split at hb
      · exact absurd hb (by simp)
      · rename_i htne
        obtain rfl := Option.some.inj ha
        obtain rfl := Option.some.inj hb
        rw [Token.Before, hstop hs]
        exact h (i + 1) (j + 1) s t (by omega) (by omega) (by omega) hs ht (by simpa using hsne)
          (by simpa using htne)

/-- The tokens of a turn are in order exactly if the groups its match emits are. -/
theorem Takes.pairwise_iff {turn : Turn lexer.rules.size} {read : Text}
    (h : lexer.Takes turn read) :
    (lexer.tokensOf turn).Pairwise Token.Before ↔
      ∀ rule found labels, turn.finding = .matched rule found → rule.emit = .groups labels →
        found.InOrder labels.length := by
  cases h with
  | @matched state start stop rule found passed more _ hread _ _ =>
      simp only [tokensOf]
      cases hemit : rule.emit with
      | whole label =>
          constructor
          · rintro - rule' found' labels hfinding hgroups
            obtain ⟨rfl, rfl⟩ := Finding.matched.inj hfinding
            simp [hemit] at hgroups
          · intro _
            exact List.pairwise_singleton _ _
      | groups labels =>
          rw [pairwise_emit_groups hread]
          constructor
          · intro horder rule' found' labels' hfinding hgroups
            obtain ⟨rfl, rfl⟩ := Finding.matched.inj hfinding
            obtain rfl := Emit.groups.inj (hemit.symm.trans hgroups)
            exact horder
          · intro hall
            exact hall rule found labels rfl hemit
  | @unmatched state start c rest _ _ =>
      have hsingle : (lexer.tokensOf ⟨state, start, .unmatched c, start.pass c rest⟩).Pairwise
          Token.Before := by
        simp only [tokensOf]
        cases (lexer.rules.state state).default with
        | none => exact List.Pairwise.nil
        | some category => exact List.pairwise_singleton _ _
      constructor
      · rintro - rule found labels hfinding
        simp at hfinding
      · intro _
        exact hsingle

/-- Tokens of an earlier turn come before those of a later one. -/
theorem Runs.before {state : lexer.rules.StateId} {cur : Cursor}
    {turns : List (Turn lexer.rules.size)} {line : Text} (h : lexer.Runs state cur turns)
    (hcur : cur.StandsIn line) :
    turns.Pairwise fun a b => ∀ t ∈ lexer.tokensOf a, ∀ u ∈ lexer.tokensOf b, t.Before u := by
  have hstand := h.standsIn hcur
  refine h.pairwise.imp_of_mem ?_
  intro a b ha hb hab t ht u hu
  obtain ⟨-, _, htakes⟩ := hstand a ha
  obtain ⟨-, _, htakes'⟩ := hstand b hb
  obtain ⟨s, hs, hspan⟩ := htakes.exists_tells t ht
  obtain ⟨s', hs', hspan'⟩ := htakes'.exists_tells u hu
  have hle := hspan.offset_le.2
  have hle' := hspan'.offset_le.1
  rw [Token.Before, hspan.stop_eq hs, hs'.start]
  omega

/-- The tokens of a line are in order exactly if those of each match by groups are. -/
theorem pairwise_tokens_iff (state : lexer.rules.StateId) (line : Text) :
    (lexer.tokenizeLine state line).1.Pairwise Token.Before ↔
      ∀ turn ∈ lexer.lineTurns state line, ∀ rule found labels,
        turn.finding = .matched rule found → rule.emit = .groups labels →
          found.InOrder labels.length := by
  have hrun := lexer.lineTurns_runs state line
  have hstand := hrun.standsIn (.atStart line)
  have hsplit : (lexer.tokenizeLine state line).1.Pairwise Token.Before ↔
      ∀ turn ∈ lexer.lineTurns state line, (lexer.tokensOf turn).Pairwise Token.Before := by
    show ((lexer.lineTurns state line).flatMap lexer.tokensOf).Pairwise Token.Before ↔ _
    rw [List.pairwise_flatMap]
    exact ⟨And.left, fun hall => ⟨hall, hrun.before (.atStart line)⟩⟩
  rw [hsplit]
  constructor
  · intro hall turn hturn
    obtain ⟨-, _, htakes⟩ := hstand turn hturn
    exact htakes.pairwise_iff.mp (hall turn hturn)
  · intro hall turn hturn
    obtain ⟨-, _, htakes⟩ := hstand turn hturn
    exact htakes.pairwise_iff.mpr (hall turn hturn)

/-- Groups in a row keep the tokens of every line in order. -/
theorem pairwise_tokens_of_groupsInRow (hrow : lexer.rules.GroupsInRow)
    (state : lexer.rules.StateId) (line : Text) :
    (lexer.tokenizeLine state line).1.Pairwise Token.Before := by
  refine (pairwise_tokens_iff state line).mpr ?_
  intro turn hturn rule found labels hfinding hemit i j s t _ hij _ hs ht _ _
  obtain ⟨-, _, htakes⟩ := (lexer.lineTurns_runs state line).standsIn (.atStart line) turn hturn
  obtain ⟨hrule, _, hread⟩ := htakes.reads_matched hfinding
  exact hread.inRow (hrow rule hrule labels hemit) i j s t hij hs ht

/-- **When the tokens of a table's lines are in order.**  On one line they are exactly if every
match by groups on it has its groups in order, and they are on every line if all groups of the table
stand in a row. -/
theorem tokens_inOrder (lexer : Lexer) :
    (∀ state line, (lexer.tokenizeLine state line).1.Pairwise Token.Before ↔
      ∀ turn ∈ lexer.lineTurns state line, ∀ rule found labels,
        turn.finding = .matched rule found → rule.emit = .groups labels →
          found.InOrder labels.length) ∧
    (lexer.rules.GroupsInRow →
      ∀ state line, (lexer.tokenizeLine state line).1.Pairwise Token.Before) :=
  ⟨pairwise_tokens_iff, pairwise_tokens_of_groupsInRow⟩

/-- Two groups that take turns in a repetition: the one that matched last is emitted first. -/
theorem tokens_outOfOrder :
    ∃ table, RuleTable.ofSpecs
        [⟨"start", false, none, [.groups "(?:(a)|(b))+" [.fixed .var, .fixed .numeric]]⟩] "start" =
        .ok table ∧
      ¬ ((Lexer.mk table .empty).tokenizeLine table.start "ba".toList).1.Pairwise Token.Before := by
  obtain ⟨table, accepted, htokens⟩ :
      ∃ table, RuleTable.ofSpecs
        [⟨"start", false, none, [.groups "(?:(a)|(b))+" [.fixed .var, .fixed .numeric]]⟩] "start" =
        .ok table ∧
      ((Lexer.mk table .empty).tokenizeLine table.start "ba".toList).1 =
        [⟨.var, 1, ['a']⟩, ⟨.numeric, 0, ['b']⟩] :=
    exists_of_any_decide (by decide +kernel)
  refine ⟨table, accepted, ?_⟩
  rw [htokens]
  decide

end Lexer

end LineLexer
