/-
Rule tables as they are declared.

A language is a list of named states, each an ordered list of rules.  A rule pairs a
pattern with what a match emits and, optionally, the state that follows.  These are
plain data; `RuleTable.ofSpecs` checks and compiles them.
-/
import LineLexer.Category

namespace LineLexer

/-- What a matched text, or a group of it, is tagged with. -/
inductive Label where
  /-- Always the same category. -/
  | fixed (category : Category)
  /-- The category the keyword table gives, or `identifier` for a word it does not know. -/
  | keyword
deriving DecidableEq, Repr

/-- The tokens a match emits. -/
inductive Emit where
  /-- One token that spans the whole match. -/
  | whole (label : Label)
  /-- One token for each group that matched some text; label `i` tags group `i + 1`. -/
  | groups (labels : List Label)
deriving DecidableEq, Repr

/-- A rule as it is declared. -/
structure RuleSpec where
  /-- The pattern tried at the cursor. -/
  pattern : String
  /-- The tokens a match emits. -/
  emit : Emit
  /-- The name of the state that follows a match; none stays in the state. -/
  next : Option String
deriving DecidableEq, Repr

namespace RuleSpec

/-- A rule that emits its match under one category. -/
def token (pattern : String) (category : Category) : RuleSpec :=
  ⟨pattern, .whole (.fixed category), none⟩

/-- A rule that looks its match up among the keywords. -/
def keyword (pattern : String) : RuleSpec := ⟨pattern, .whole .keyword, none⟩

/-- A rule that emits its groups. -/
def groups (pattern : String) (labels : List Label) : RuleSpec := ⟨pattern, .groups labels, none⟩

/-- The same rule, followed by the named state. -/
def goto (rule : RuleSpec) (state : String) : RuleSpec := { rule with next := some state }

end RuleSpec

/-- A state as it is declared. -/
structure StateSpec where
  /-- The name by which rules refer to the state. -/
  name : String
  /-- Whether the state's patterns ignore case. -/
  caseInsensitive : Bool
  /-- The category of characters that no rule matches; none skips them. -/
  default : Option Category
  /-- The rules, in the order in which they are tried. -/
  rules : List RuleSpec
deriving DecidableEq, Repr

/-- The state in which a document starts unless the table says otherwise. -/
def StateSpec.defaultStart : String := "start"

end LineLexer
