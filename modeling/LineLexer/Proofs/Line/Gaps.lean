/-
Where the gaps between the tokens of a line are.

In general a byte can be in no token for two reasons (`Omits`).  If every pattern by
groups of a table has its groups in a row and all that consumes inside them, one of the
two is gone: what a rule matches is in tokens to the last byte.  A character is then in
no token exactly if the cursor came to it in a state without a default category and no
rule of that state matches there (`uncovered_iff_reaches`).  So the tokens and the
characters nobody wanted make up the line.
-/
import LineLexer.Proofs.Line.Order
import LineLexer.Proofs.Line.Soundness
import LineLexer.Proofs.Pattern.Alphabet

namespace LineLexer

/-- Whatever the rule matches is in tokens: it is one token, or its groups stand in a row and leave
nothing out. -/
def Rule.Tiles {n : Nat} (rule : Rule n) : Prop :=
  match rule.emit with
  | .whole _ => True
  | .groups _ =>
    rule.pattern.node.InRow ∧ rule.pattern.node.Tiled ∧ 0 ∉ rule.pattern.node.groups

instance {n : Nat} (rule : Rule n) : Decidable rule.Tiles := by
  unfold Rule.Tiles
  split
  · exact inferInstanceAs (Decidable True)
  · exact inferInstanceAs (Decidable (_ ∧ _ ∧ _))

/-- Every rule of the table has whatever it matches in tokens. -/
def RuleTable.Tiles (table : RuleTable) : Prop := ∀ rule, table.HasRule rule → rule.Tiles

instance (table : RuleTable) : Decidable table.Tiles :=
  inferInstanceAs (Decidable (∀ rule, table.HasRule rule → _))

theorem RuleTable.Tiles.groupsInRow {table : RuleTable} (h : table.Tiles) : table.GroupsInRow := by
  intro rule hrule labels hemit
  have htiles := h rule hrule
  rw [Rule.Tiles, hemit] at htiles
  exact htiles.1

namespace Lexer

variable {lexer : Lexer}

/-- On a line entered in `state`, the lexer takes a turn in state `id` at the cursor. -/
def Reaches (lexer : Lexer) (state : lexer.rules.StateId) (line : Text) (id : lexer.rules.StateId)
    (cur : Cursor) : Prop :=
  ∃ turn ∈ lexer.lineTurns state line, turn.state = id ∧ turn.start = cur

/-- In a table whose rules leave nothing out, a turn that matched omits nothing. -/
theorem Takes.not_omits_of_matched {turn : Turn lexer.rules.size} {read : Text}
    (h : lexer.Takes turn read) (hadv : turn.Advances) (htiles : lexer.rules.Tiles)
    {rule : Rule lexer.rules.size} {found : Match} (hfinding : turn.finding = .matched rule found)
    (i : Nat) : ¬ lexer.Omits turn i := by
  intro h'
  obtain ⟨hcov, homits⟩ := h'
  obtain ⟨hrule, _, hread⟩ := h.reads_matched hfinding
  simp only [hfinding] at homits
  obtain ⟨labels, hemit, hout⟩ := homits
  have htile := htiles rule hrule
  rw [Rule.Tiles, hemit] at htile
  obtain ⟨hrow, htiled, hzero⟩ := htile
  -- The match is all the turn passes, so byte `i` is one that some group has to hold.
  have hlt : turn.start.offset ≤ i ∧ i < turn.stop.offset := hcov
  rw [← h.stop_eq hadv hfinding] at hlt
  obtain ⟨index, s, hs, hscov⟩ := hread.tiled hrow htiled i hlt.1 hlt.2
  have hindex := (hread.encloses_lookup hs).1
  have hne : index ≠ 0 := fun h0 => hzero (h0 ▸ hindex)
  exact hout index s (by omega) (Node.le_groupCount hindex) hs hscov

/-- **In a table whose rules leave nothing out, a character is in no token exactly if the cursor
comes to it in a state without a default category where no rule matches.** -/
theorem uncovered_iff_reaches (widths : lexer.rules.WidthsSound)
    (hfit : ∀ rule, lexer.rules.HasRule rule → rule.LabelsFit) (htiles : lexer.rules.Tiles)
    (state : lexer.rules.StateId) (passed : Text) (c : Char) (rest : Text) {i : Nat}
    (hle : passed.byteLength ≤ i) (hlt : i < passed.byteLength + c.utf8Size) :
    (∀ t ∈ (lexer.tokenizeLine state (passed ++ c :: rest)).1, ¬ t.Covers i) ↔
      ∃ id, lexer.Reaches state (passed ++ c :: rest) id (.between passed (c :: rest)) ∧
        (lexer.rules.state id).default = none ∧
        ∀ rule ∈ (lexer.rules.state id).rules,
          rule.pattern.matchAt? (.between passed (c :: rest)) = none := by
  have hi : i < Text.byteLength (passed ++ c :: rest) := by
    rw [Text.byteLength_append, Text.byteLength_cons]
    omega
  have hstand := (lexer.lineTurns_runs state (passed ++ c :: rest)).standsIn (.atStart _)
  rw [uncovered_iff_omits widths hfit state _ hi]
  constructor
  · intro hskipped
    obtain ⟨turn, hturn, homits⟩ := hskipped
    obtain ⟨hstart, _, htakes⟩ := hstand turn hturn
    cases hfinding : turn.finding with
    | matched rule found =>
        have hadv := htakes.advances widths
        exact absurd homits (htakes.not_omits_of_matched hadv htiles hfinding i)
    | unmatched d =>
        obtain ⟨hfirst, later, hrest, hstop⟩ := htakes.finding_unmatched hfinding
        obtain ⟨hcov, hdefault⟩ := homits
        rw [Turn.span, hstop] at hcov
        simp only [hfinding] at hdefault
        -- The character skipped shares byte `i` with `c`, so the turn was taken before `c`.
        have hcur : turn.start = .between passed (c :: rest) :=
          hstart.eq_of_shared_byte (.between _ _) hrest rfl hcov ⟨hle, hlt⟩
        rw [State.firstMatch?_eq_none_iff, hcur] at hfirst
        exact ⟨turn.state, ⟨turn, hturn, rfl, hcur⟩, hdefault, hfirst⟩
  · intro hreaches
    obtain ⟨id, ⟨turn, hturn, hid, hcur⟩, hdefault, hnone⟩ := hreaches
    refine ⟨turn, hturn, ?_⟩
    obtain ⟨-, _, htakes⟩ := hstand turn hturn
    subst hid
    rw [← hcur] at hnone
    have hfirst := State.firstMatch?_eq_none_iff.mpr hnone
    cases hfinding : turn.finding with
    | matched rule found =>
        exact absurd (hfirst.symm.trans (htakes.finding_matched hfinding)) (by simp)
    | unmatched d =>
        obtain ⟨-, later, hrest, hstop⟩ := htakes.finding_unmatched hfinding
        rw [hcur] at hrest hstop
        obtain ⟨rfl, rfl⟩ := List.cons.inj hrest
        refine ⟨?_, ?_⟩
        · rw [Turn.span, hcur, hstop]
          exact ⟨hle, hlt⟩
        · simp only [hfinding]
          exact hdefault

/-- What a turn passes is in tokens if a rule matched or the state has a default category. -/
theorem exists_covers_of_not_skipped (widths : lexer.rules.WidthsSound)
    (hfit : ∀ rule, lexer.rules.HasRule rule → rule.LabelsFit) (htiles : lexer.rules.Tiles)
    {state : lexer.rules.StateId} {line : Text} {turn : Turn lexer.rules.size}
    (hturn : turn ∈ lexer.lineTurns state line)
    (hkept : (∃ rule found, turn.finding = .matched rule found) ∨
      (lexer.rules.state turn.state).default ≠ none) {i : Nat} (hi : turn.span.Covers i) :
    ∃ t ∈ (lexer.tokenizeLine state line).1, t.Covers i := by
  obtain ⟨-, _, htakes⟩ := (lexer.lineTurns_runs state line).standsIn (.atStart line) turn hturn
  have hadv := htakes.advances widths
  have hnot : ¬ lexer.Omits turn i := by
    rcases hkept with ⟨rule, found, hfinding⟩ | hdefault
    · exact htakes.not_omits_of_matched hadv htiles hfinding i
    · intro homits
      cases hfinding : turn.finding with
      | matched rule found => exact htakes.not_omits_of_matched hadv htiles hfinding i homits
      | unmatched c =>
          obtain ⟨-, hskipped⟩ := homits
          simp only [hfinding] at hskipped
          exact hdefault hskipped
  rw [← htakes.uncovered_iff hadv hfit hi] at hnot
  obtain ⟨t, ht, hcov⟩ : ∃ t ∈ lexer.tokensOf turn, t.Covers i := by simpa using hnot
  exact ⟨t, List.mem_flatMap.mpr ⟨turn, hturn, ht⟩, hcov⟩

/-! ### What the tokens are made of -/

/-- The tokens of a rule whose pattern reads only ASCII are ASCII. -/
theorem Takes.isAscii {turn : Turn lexer.rules.size} {read : Text} (h : lexer.Takes turn read)
    {rule : Rule lexer.rules.size} {found : Match} (hfinding : turn.finding = .matched rule found)
    (hascii : rule.pattern.node.IsAscii) :
    ∀ t ∈ lexer.tokensOf turn, ∀ c ∈ t.text, c.toNat < 128 := by
  intro t ht c hc
  obtain ⟨-, passed, hread⟩ := h.reads_matched hfinding
  rw [tokensOf, hfinding] at ht
  obtain ⟨s, hs, hspan, -⟩ := tells_of_mem_emit hread t ht
  rw [hs.text] at hc
  exact hread.toNat_lt_of_isAscii hascii c (hspan.text_subset hread.passes c hc)

end Lexer

end LineLexer
