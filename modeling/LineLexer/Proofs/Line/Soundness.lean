/-
What lexing a line promises.

The lexer is a loop over a cursor, and three things could go wrong with it: the cursor
could stand still, it could leave the line or stop inside a character, and a token could
claim text that is not there.  None of them happens, for any accepted table, any
keywords, any state the line is entered in and any line.

That the cursor moves rests on the check made when the table is built: no pattern has
least width zero.  The check is worth what the least widths are worth, so that they are
right is the one thing assumed of the patterns (`RuleTable.WidthsSound`); every pattern
that has a least width has the right one (`Pattern.widthSound_of_isSome`).
-/
import LineLexer.Proofs.Line.Tokens

namespace LineLexer

namespace Lexer

/-- What one turn promises: it starts before a character of the line and stops further on, at a
boundary between characters; it passes what the first rule that matches there has matched, or one
character if none does; and every token holds some of the text passed, exactly as it stands in the
line. -/
structure TurnSound (lexer : Lexer) (line : Text) (turn : Turn lexer.rules.size) : Prop where
  start_lt : turn.start.offset < line.byteLength
  start_lt_stop : turn.start.offset < turn.stop.offset
  start_in : turn.start.StandsIn line
  stop_in : turn.stop.StandsIn line
  slice : line.slice? turn.start.offset turn.stop.offset = some turn.span.text
  matched : ∀ rule found, turn.finding = .matched rule found →
    (lexer.rules.state turn.state).firstMatch? turn.start = some (rule, found) ∧
      turn.start.offset < found.stop.offset ∧ turn.stop = found.stop
  unmatched : ∀ c, turn.finding = .unmatched c →
    (lexer.rules.state turn.state).firstMatch? turn.start = none ∧
      ∃ rest, turn.start.rest = c :: rest ∧ turn.stop = turn.start.pass c rest
  tokens : ∀ t ∈ lexer.tokensOf turn,
    t.text ≠ [] ∧ t.IsSliceOf line ∧ turn.start.offset ≤ t.start ∧ t.stop ≤ turn.stop.offset

/-- What lexing a line promises: its turns are sound, follow each other from its first character to
its end and cut it into pieces, a byte is in no token exactly if a turn omits it, and the line ends
in a state of the table. -/
structure LineSound (lexer : Lexer) (state : lexer.rules.StateId) (line : Text) : Prop where
  turns : ∀ turn ∈ lexer.lineTurns state line, lexer.TurnSound line turn
  first : ∀ turn, (lexer.lineTurns state line).head? = some turn →
    turn.start = .start line ∧ turn.state = state
  next : (lexer.lineTurns state line).IsChain fun a b => b.start = a.stop ∧ b.state = a.exit
  last : ∀ turn, (lexer.lineTurns state line).getLast? = some turn →
    turn.stop.offset = line.byteLength
  pieces : ((lexer.lineTurns state line).map (·.span.text)).flatten = line
  uncovered : ∀ i < line.byteLength,
    (∀ t ∈ (lexer.tokenizeLine state line).1, ¬ t.Covers i) ↔
      ∃ turn ∈ lexer.lineTurns state line, lexer.Omits turn i
  exit_lt : ((lexer.tokenizeLine state line).2 : Nat) < lexer.rules.states.length

variable {lexer : Lexer}

/-- In a table whose widths are right, every rule that matches matches something. -/
theorem Takes.advances {turn : Turn lexer.rules.size} {read : Text} (h : lexer.Takes turn read)
    (widths : lexer.rules.WidthsSound) : turn.Advances := by
  intro rule found hfinding
  obtain ⟨hmem, hmatch⟩ := State.mem_of_firstMatch? (h.finding_matched hfinding)
  have hlt := (widths rule (RuleTable.hasRule_of_mem hmem)).advances hmatch
  obtain ⟨passed, hread⟩ := Node.matchAt?_reads hmatch
  have hrem := hread.passes.remaining
  refine hread.passes.offset_lt ?_
  intro hnil
  rw [hnil, List.length_nil] at hrem
  omega

theorem Takes.turnSound {turn : Turn lexer.rules.size} {read line : Text}
    (h : lexer.Takes turn read) (hadv : turn.Advances) (hstart : turn.start.StandsIn line) :
    lexer.TurnSound line turn := by
  have hstop := hstart.move h.passes
  refine ⟨hstart.offset_lt ?_, h.offset_lt, hstart, hstop, ?_, ?_,
    fun c hfinding => h.finding_unmatched hfinding, ?_⟩
  · rw [h.passes.rest]
    exact List.append_ne_nil_of_left_ne_nil h.ne_nil _
  · have htext : turn.span.text = read := h.passes.text
    rw [htext]
    exact hstart.slice h.passes
  · intro rule found hfinding
    exact ⟨h.finding_matched hfinding, hadv rule found hfinding, (h.stop_eq hadv hfinding).symm⟩
  · intro t ht
    obtain ⟨s, hs, hspan⟩ := h.exists_tells t ht
    have hoff := hspan.offset_le
    refine ⟨h.text_ne_nil hadv t ht, hspan.isSliceOf hs hstart, ?_, ?_⟩
    · rw [hs.start]
      exact hoff.1
    · rw [hspan.stop_eq hs]
      exact hoff.2

/-- A token of a turn has no byte outside the text the turn passes. -/
theorem Takes.span_covers {turn : Turn lexer.rules.size} {read : Text} (h : lexer.Takes turn read)
    {t : Token} (ht : t ∈ lexer.tokensOf turn) {i : Nat} (hcov : t.Covers i) :
    turn.span.Covers i := by
  obtain ⟨s, hs, hspan⟩ := h.exists_tells t ht
  have hscov : s.start.offset ≤ i ∧ i < s.stop.offset := (hspan.covers_iff hs i).mp hcov
  have hoff := hspan.offset_le
  show turn.start.offset ≤ i ∧ i < turn.stop.offset
  omega

/-- A byte of the line is in no token exactly if the turn that passes it omits it. -/
theorem uncovered_iff_omits (widths : lexer.rules.WidthsSound)
    (hfit : ∀ rule, lexer.rules.HasRule rule → rule.LabelsFit) (state : lexer.rules.StateId)
    (line : Text) {i : Nat} (hi : i < line.byteLength) :
    (∀ t ∈ (lexer.tokenizeLine state line).1, ¬ t.Covers i) ↔
      ∃ turn ∈ lexer.lineTurns state line, lexer.Omits turn i := by
  have hrun := lexer.lineTurns_runs state line
  have hstand := hrun.standsIn (.atStart line)
  constructor
  · intro hnone
    obtain ⟨turn, hturn, hcov⟩ := hrun.exists_covers (.atStart line) i (Nat.zero_le _) hi
    obtain ⟨-, read, htakes⟩ := hstand turn hturn
    refine ⟨turn, hturn, (htakes.uncovered_iff (htakes.advances widths) hfit hcov).mp ?_⟩
    intro t ht
    exact hnone t (List.mem_flatMap.mpr ⟨turn, hturn, ht⟩)
  · rintro ⟨turn, hturn, homits⟩ t ht hcov
    obtain ⟨turn', hturn', ht'⟩ := List.mem_flatMap.mp ht
    obtain ⟨-, read, htakes⟩ := hstand turn' hturn'
    have hcov' := htakes.span_covers ht' hcov
    obtain rfl := hrun.eq_of_covers hturn hturn' homits.1 hcov'
    exact (htakes.uncovered_iff (htakes.advances widths) hfit hcov').mpr homits t ht' hcov

/-- **Lexing a line in an accepted table is sound.**  The turns end, since each passes a character
at least; no text is looked for outside the line or inside a character; and nothing is left out of
the tokens but what no rule of a state without a default matched and what a match by groups has
outside its groups. -/
theorem lineSound_of_ofSpecs {specs : List StateSpec} {start : String}
    (accepted : RuleTable.ofSpecs specs start = .ok lexer.rules)
    (widths : lexer.rules.WidthsSound) (state : lexer.rules.StateId) (line : Text) :
    lexer.LineSound state line := by
  have hrun := lexer.lineTurns_runs state line
  have hstand := hrun.standsIn (.atStart line)
  have hturns : ∀ turn ∈ lexer.lineTurns state line, lexer.TurnSound line turn := by
    intro turn hturn
    obtain ⟨hstart, read, htakes⟩ := hstand turn hturn
    exact htakes.turnSound (htakes.advances widths) hstart
  refine ⟨hturns, fun turn => hrun.start_of_head?, hrun.isChain, ?_, hrun.flatten, ?_, ?_⟩
  · intro turn hlast
    have hend := hrun.stop_of_getLast? hlast
    have hstop := (hturns turn (List.mem_of_getLast? hlast)).stop_in.offset_add
    rw [hend, Text.byteLength_nil] at hstop
    omega
  · intro i hi
    exact uncovered_iff_omits widths (RuleTable.labelsFit_of_ofSpecs accepted) state line hi
  · rw [lexer.rules.length_states]
    exact (lexer.tokenizeLine state line).2.isLt

/-- A rule by groups that leaves the dash between them out. -/
theorem lineSound_dashed :
    ∃ table, RuleTable.ofSpecs
        [⟨"start", false, none, [.groups "(a)-(b)?" [.keyword, .fixed .numeric]]⟩] "start" = .ok table ∧
      table.WidthsSound ∧ (Lexer.mk table .empty).LineSound table.start "a-b é a-".toList := by
  obtain ⟨table, accepted, hwidths⟩ :
      ∃ table, RuleTable.ofSpecs
        [⟨"start", false, none, [.groups "(a)-(b)?" [.keyword, .fixed .numeric]]⟩] "start" = .ok table ∧
      table.HasWidths := exists_of_any_decide (by decide)
  have widths := hwidths.widthsSound
  have hsound : (Lexer.mk table .empty).LineSound table.start "a-b é a-".toList :=
    lineSound_of_ofSpecs accepted widths _ _
  exact ⟨table, accepted, widths, hsound⟩

end Lexer

end LineLexer
