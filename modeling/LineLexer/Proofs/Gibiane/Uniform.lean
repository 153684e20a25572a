/-
What the states of Gibiane have in common.

The state for arguments and the one for strings are declared apart from the start state, in
another style and without its flag for case.  Two things hold of all of them, and the
kernel checks them at once: their rules ignore case, and outside strings a quote comes
exactly from a rule that leads into a string.

That rules ignore case is all it takes for lexing to ignore it
(`exists_lexer_ignoresCase`).
-/
import LineLexer.Proofs.Document.Case
import LineLexer.Proofs.Gibiane.Rules

namespace LineLexer

/-- The labels of the tokens a match can emit. -/
def Emit.labels : Emit → List Label
  | .whole label => [label]
  | .groups labels => labels

/-- The rule emits a quote and leads into the state for strings, or does neither. -/
def Rule.Quotes {n : Nat} (rule : Rule n) (string : Fin n) : Prop :=
  (rule.emit = .whole (.fixed .string) ∧ rule.next = some string) ∨
    (.fixed .string ∉ rule.emit.labels ∧ rule.next ≠ some string)

instance {n : Nat} (rule : Rule n) (string : Fin n) : Decidable (rule.Quotes string) :=
  inferInstanceAs (Decidable (_ ∨ _))

namespace Gibiane

/-- What holds of the rules of all states. -/
structure Uniform (table : RuleTable) (string : table.StateId) : Prop where
  ignoresCase : table.IgnoresCase
  default : ∀ id, id ≠ string → (table.state id).default ≠ some .string
  quotes : ∀ id, id ≠ string → ∀ rule ∈ (table.state id).rules, rule.Quotes string

instance (table : RuleTable) (string : table.StateId) : Decidable (Uniform table string) :=
  decidable_of_iff
    (table.IgnoresCase ∧
      (∀ id, id ≠ string → (table.state id).default ≠ some .string) ∧
      ∀ id, id ≠ string → ∀ rule ∈ (table.state id).rules, rule.Quotes string)
    ⟨fun ⟨ignoresCase, default, quotes⟩ => ⟨ignoresCase, default, quotes⟩,
      fun ⟨ignoresCase, default, quotes⟩ => ⟨ignoresCase, default, quotes⟩⟩

theorem exists_uniform :
    ∃ table, RuleTable.ofSpecs states StateSpec.defaultStart = .ok table ∧
      ∃ string header, Formed table string header ∧ Uniform table string :=
  exists_of_any_decide (by decide +kernel)

/-- The language has a lexer whose rules are the trees, and have this in common. -/
theorem exists_lexer_uniform :
    ∃ lexer, Gibiane.lexer = .ok lexer ∧
      (∃ string header, Formed lexer.rules string header ∧ Uniform lexer.rules string) ∧
      KeywordTable.ofWords keywordLists = .ok lexer.keywords := by
  obtain ⟨table, htable, huniform⟩ := exists_uniform
  obtain ⟨keywords, hkeywords⟩ := exists_keywords
  refine ⟨⟨table, keywords⟩, ?_, huniform, hkeywords⟩
  rw [lexer, Lexer.ofSpecs, htable, hkeywords]
  rfl

/-- **Lexing ignores the case of ASCII letters.**  Lines that differ in nothing else have tokens of
the same categories at the same places and leave the same state, whichever state they are entered
in; and so documents agree in where their lines start, the states these are entered in, the places
of their tokens, and the construct they end inside of. -/
theorem exists_lexer_ignoresCase :
    ∃ lexer, Gibiane.lexer = .ok lexer ∧
      (∀ (state : lexer.rules.StateId) (line line' : Text), Text.eqIgnoreCase line line' = true →
        (lexer.tokenizeLine state line).1.map Token.place =
            (lexer.tokenizeLine state line').1.map Token.place ∧
          (lexer.tokenizeLine state line).2 = (lexer.tokenizeLine state line').2) ∧
      ∀ text text' : Text, Text.eqIgnoreCase text text' = true →
        (lexer.tokenizeDocument text).lines.map LexedLine.outline =
            (lexer.tokenizeDocument text').lines.map LexedLine.outline ∧
          (lexer.tokenizeDocument text).exit = (lexer.tokenizeDocument text').exit ∧
          (lexer.tokenizeDocument text).incompleteConstruct? =
            (lexer.tokenizeDocument text').incompleteConstruct? := by
  obtain ⟨lexer, hlexer, ⟨_, _, -, huniform⟩, -⟩ := exists_lexer_uniform
  refine ⟨lexer, hlexer, ?_, ?_⟩
  · intro state line line' hline
    obtain ⟨htokens, hexit, -⟩ :=
      lexer.tokenizeLine_sameLetters huniform.ignoresCase state (Text.sameLetters_iff.mpr hline)
    exact ⟨htokens, hexit⟩
  · intro text text' htext
    exact lexer.tokenizeDocument_sameLetters huniform.ignoresCase (Text.sameLetters_iff.mpr htext)

/-- A loop has the same tokens at the same places in either case. -/
theorem places_loop :
    ∃ lexer, Gibiane.lexer = .ok lexer ∧
      Text.eqIgnoreCase "REPE bou N;".toList "repe BOU n;".toList = true ∧
      (lexer.tokenizeLine lexer.start "REPE bou N;".toList).1.map Token.place =
        (lexer.tokenizeLine lexer.start "repe BOU n;".toList).1.map Token.place ∧
      (lexer.tokenizeLine lexer.start "REPE bou N;".toList).2 =
        (lexer.tokenizeLine lexer.start "repe BOU n;".toList).2 ∧
      (lexer.tokenizeDocument "REPE bou N;".toList).lines.map LexedLine.outline =
        (lexer.tokenizeDocument "repe BOU n;".toList).lines.map LexedLine.outline := by
  obtain ⟨lexer, hlexer, hline, hdocument⟩ := exists_lexer_ignoresCase
  have hcase : Text.eqIgnoreCase "REPE bou N;".toList "repe BOU n;".toList = true := by decide
  obtain ⟨hplaces, hexit⟩ := hline lexer.start _ _ hcase
  exact ⟨lexer, hlexer, hcase, hplaces, hexit, (hdocument _ _ hcase).1⟩

end Gibiane

end LineLexer
