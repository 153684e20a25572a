/-
What the tokens of a line of Gibiane leave out.

The patterns of the language have their groups in a row, with everything they consume
inside, whichever of the optional groups take part.  Strings and headers have a default
category.  So the only characters that are in no token are those the start state skips:
nothing that a rule matched is lost, and nothing between quotes.

A comment runs to the end of its line and may hold any character.  Every other pattern
of the start state takes its characters from ASCII sets, which is why accented letters
outside strings and comments are among the skipped.
-/
import LineLexer.Proofs.Gibiane.Tables

namespace LineLexer.Gibiane

variable {lexer : Lexer}

/-- How the tokens of a line and the gaps between them make up the line. -/
structure LineCovered (lexer : Lexer) (state : lexer.rules.StateId) (line : Text) : Prop where
  nonempty : ∀ t ∈ (lexer.tokenizeLine state line).1, t.text ≠ []
  slices : ∀ t ∈ (lexer.tokenizeLine state line).1, t.IsSliceOf line
  ordered : (lexer.tokenizeLine state line).1.Pairwise Token.Before
  /-- A character is in no token exactly if the cursor came to it in the start state and no rule of
  that state matches there. -/
  gap : ∀ passed c rest, line = passed ++ c :: rest →
    ∀ i, passed.byteLength ≤ i → i < passed.byteLength + c.utf8Size →
      ((∀ t ∈ (lexer.tokenizeLine state line).1, ¬ t.Covers i) ↔
        lexer.Reaches state line lexer.start (.between passed (c :: rest)) ∧
          ∀ rule ∈ (lexer.rules.state lexer.start).rules,
            rule.pattern.matchAt? (.between passed (c :: rest)) = none)
  /-- What was passed in another state or by a match is in tokens to the last byte. -/
  kept : ∀ turn ∈ lexer.lineTurns state line,
    turn.state ≠ lexer.start ∨ (∃ rule found, turn.finding = .matched rule found) →
      ∀ i, turn.span.Covers i → ∃ t ∈ (lexer.tokenizeLine state line).1, t.Covers i
  ascii : ∀ turn ∈ lexer.lineTurns state line, turn.state = lexer.start →
    ∀ t ∈ lexer.tokensOf turn, t.category ≠ .comment → ∀ c ∈ t.text, c.toNat < 128

/-- A token of the start state that is no comment was read by a rule that reads only ASCII. -/
theorem isAscii_of_start (hsound : TableSound lexer.rules) {turn : Turn lexer.rules.size}
    {read : Text} (h : lexer.Takes turn read) (hstart : turn.state = lexer.start) :
    ∀ t ∈ lexer.tokensOf turn, t.category ≠ .comment → ∀ c ∈ t.text, c.toNat < 128 := by
  intro t ht hcomment
  cases hfinding : turn.finding with
  | matched rule found =>
      have hmem := (State.mem_of_firstMatch? (h.finding_matched hfinding)).1
      rw [hstart] at hmem
      rcases hsound.ascii rule hmem with hemit | hascii
      · rw [Lexer.tokensOf, hfinding] at ht
        simp only [hemit, Lexer.emit, List.mem_singleton] at ht
        exact absurd (by rw [ht]; rfl) hcomment
      · exact h.isAscii hfinding hascii t ht
  | unmatched c =>
      have hskips := (hsound.skips turn.state).mpr hstart
      rw [Lexer.tokensOf, hfinding] at ht
      simp [hskips] at ht

theorem lineCovered_of_tableSound
    (accepted : RuleTable.ofSpecs states StateSpec.defaultStart = .ok lexer.rules)
    (hsound : TableSound lexer.rules) (state : lexer.rules.StateId) (line : Text) :
    LineCovered lexer state line := by
  have widths := hsound.widths.widthsSound
  have hfit := RuleTable.labelsFit_of_ofSpecs accepted
  have hstand := (lexer.lineTurns_runs state line).standsIn (.atStart line)
  have htokens : ∀ t ∈ (lexer.tokenizeLine state line).1, t.text ≠ [] ∧ t.IsSliceOf line := by
    intro t ht
    obtain ⟨turn, hturn, ht⟩ := List.mem_flatMap.mp ht
    obtain ⟨hstart, _, htakes⟩ := hstand turn hturn
    have hturnSound := htakes.turnSound (htakes.advances widths) hstart
    obtain ⟨hne, hslice, -, -⟩ := hturnSound.tokens t ht
    exact ⟨hne, hslice⟩
  refine ⟨fun t ht => (htokens t ht).1, fun t ht => (htokens t ht).2, ?_, ?_, ?_, ?_⟩
  · exact Lexer.pairwise_tokens_of_groupsInRow hsound.tiles.groupsInRow state line
  · intro passed c rest hline i hle hlt
    subst hline
    rw [Lexer.uncovered_iff_reaches widths hfit hsound.tiles state passed c rest hle hlt]
    -- The state that skips is the start state.
    constructor
    · intro hskipped
      obtain ⟨id, hreaches, hdefault, hnone⟩ := hskipped
      obtain rfl := (hsound.skips id).mp hdefault
      exact ⟨hreaches, hnone⟩
    · intro hskipped
      obtain ⟨hreaches, hnone⟩ := hskipped
      exact ⟨lexer.start, hreaches, (hsound.skips _).mpr rfl, hnone⟩
  · intro turn hturn hkept i hi
    refine Lexer.exists_covers_of_not_skipped widths hfit hsound.tiles hturn ?_ hi
    rcases hkept with hstate | hmatched
    · exact Or.inr fun hdefault => hstate ((hsound.skips _).mp hdefault)
    · exact Or.inl hmatched
  · intro turn hturn hstart
    obtain ⟨-, _, htakes⟩ := hstand turn hturn
    exact isAscii_of_start hsound htakes hstart

/-- **The tokens of a line of Gibiane and the characters that no rule of the start state wanted make
up the line**, in whichever of its three states the line is entered. -/
theorem exists_lexer_lineCovered :
    ∃ lexer, Gibiane.lexer = .ok lexer ∧
      lexer.rules.stateNames = ["start", "string", "procmethdef"] ∧
      lexer.rules.stateName lexer.start = "start" ∧
      (lexer.rules.state lexer.start).rules.length = 15 ∧
      ∀ state line, LineCovered lexer state line := by
  obtain ⟨lexer, hlexer, accepted, hsound⟩ := exists_lexer
  refine ⟨lexer, hlexer, hsound.names, hsound.startName, hsound.startRules, ?_⟩
  intro state line
  exact lineCovered_of_tableSound accepted hsound state line

end LineLexer.Gibiane
