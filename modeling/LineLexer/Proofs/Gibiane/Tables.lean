/-
The tables of Gibiane.

The language is a constant, so what is decidable of its rules is decided by computing
its tables, once, here.  Everything later takes it from `exists_lexer`: the declarations
are accepted, and the table that comes out of them is `TableSound`.
-/
import LineLexer.Gibiane.States
import LineLexer.Proofs.Line.Gaps

namespace LineLexer.Gibiane

/-- What the proofs about the language use of its table. -/
structure TableSound (table : RuleTable) : Prop where
  names : table.stateNames = ["start", "string", "procmethdef"]
  startName : table.stateName table.start = "start"
  startRules : (table.state table.start).rules.length = startRules.length
  /-- The start state is the one that skips what it does not know. -/
  skips : ∀ id, (table.state id).default = none ↔ id = table.start
  widths : table.HasWidths
  tiles : table.Tiles
  /-- Outside strings and headers only comments can hold characters that are not ASCII. -/
  ascii : ∀ rule ∈ (table.state table.start).rules,
    rule.emit = .whole (.fixed .comment) ∨ rule.pattern.node.IsAscii

instance (table : RuleTable) : Decidable (TableSound table) :=
  decidable_of_iff
    (table.stateNames = ["start", "string", "procmethdef"] ∧
      table.stateName table.start = "start" ∧
      (table.state table.start).rules.length = startRules.length ∧
      (∀ id, (table.state id).default = none ↔ id = table.start) ∧
      table.HasWidths ∧ table.Tiles ∧
      ∀ rule ∈ (table.state table.start).rules,
        rule.emit = .whole (.fixed .comment) ∨ rule.pattern.node.IsAscii)
    ⟨fun ⟨names, startName, startRules, skips, widths, tiles, ascii⟩ =>
      ⟨names, startName, startRules, skips, widths, tiles, ascii⟩,
      fun ⟨names, startName, startRules, skips, widths, tiles, ascii⟩ =>
      ⟨names, startName, startRules, skips, widths, tiles, ascii⟩⟩

theorem exists_table :
    ∃ table, RuleTable.ofSpecs states StateSpec.defaultStart = .ok table ∧ TableSound table :=
  exists_of_any_decide (by decide +kernel)

set_option maxRecDepth 100000 in
/-- No word is listed under two categories. -/
theorem exists_keywords : ∃ keywords, KeywordTable.ofWords keywordLists = .ok keywords :=
  exists_of_isOk (by decide +kernel)

/-- **The declarations of the language are accepted.** -/
theorem exists_lexer :
    ∃ lexer, Gibiane.lexer = .ok lexer ∧
      RuleTable.ofSpecs states StateSpec.defaultStart = .ok lexer.rules ∧
      TableSound lexer.rules := by
  obtain ⟨table, htable, hsound⟩ := exists_table
  obtain ⟨keywords, hkeywords⟩ := exists_keywords
  refine ⟨⟨table, keywords⟩, ?_, htable, hsound⟩
  rw [lexer, Lexer.ofSpecs, htable, hkeywords]
  rfl

end LineLexer.Gibiane
