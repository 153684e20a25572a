/-
What the rules of Gibiane read.

The patterns of the language are texts, and what they mean is the tree that comes out of
reading them.  `Form` spells these trees out, with a name for each part, and the kernel
checks once that they are what the texts mean (`exists_lexer_statesFormed`).  Arguments
about what a rule matches start from these trees.
-/
import LineLexer.Proofs.Gibiane.Tables
import LineLexer.Proofs.Keyword
import LineLexer.Proofs.Line.Steps

namespace LineLexer

namespace Gibiane

namespace Form

/-! ### Parts of the patterns -/

/-- Letters and the underscore. -/
def nameStart : CharSet :=
  (((CharSet.range 'a' 'z').union (.range 'A' 'Z')).union (.single '_')).foldAscii

/-- Letters, digits and the underscore. -/
def nameRest : CharSet :=
  ((((CharSet.range 'a' 'z').union (.range 'A' 'Z')).union (.range '0' '9')).union
    (.single '_')).foldAscii

/-- Letters. -/
def letter : CharSet := ((CharSet.range 'a' 'z').union (.range 'A' 'Z')).foldAscii

/-- One of some characters. -/
def oneOf (chars : Text) : CharSet := ⟨chars.map fun c => ⟨c.toNat, c.toNat⟩⟩

/-- The characters of a text one after the other, in any case. -/
def anyCase (text : Text) : List Node := text.map fun c => .chars (CharSet.single c).foldAscii

/-- A part that may be left out. -/
def optional (node : Node) : Node := .repeat node 0 (some 1) true

/-- At least one character of a set. -/
def run (set : CharSet) : Node := .repeat (.chars set) 1 none true

/-- A name. -/
def name : Node := .seq (.chars nameStart) (.repeat (.chars nameRest) 0 none true)

/-- Two parts between which there are blanks. -/
def headed (keyword rest : Node) : Node :=
  .seq (.group 1 keyword) (.seq (.group 2 (run .asciiSpace)) rest)

/-- P or M. -/
def procedureOrMethod : CharSet :=
  (CharSet.single 'P').foldAscii.union (CharSet.single 'M').foldAscii

/-- The edge of a word. -/
def edge : Node := .look (.word .boundary false)

/-! ### The patterns -/

/-- A star at the start of a line, and the line after it. -/
def comment : Node :=
  .seq (.look .textStart) (.seq (optional (.chars .asciiSpace)) (.seq (.chars (oneOf ['*']))
    (.seq (run (CharSet.all.diff (.single '\n'))) (.look .textEnd))))

/-- A number. -/
def number : Node :=
  .seq (optional (.chars (oneOf ['+', '-']))) (.seq (run .asciiDigit)
    (.seq (optional (.group 1 (.seq (.chars (oneOf ['.'])) (run .asciiDigit))))
      (.seq (optional (.group 2 (.seq (.chars (oneOf ['e', 'E']))
        (.seq (optional (.chars (oneOf ['-']))) (run .asciiDigit))))) edge)))

/-- The header of a procedure or method. -/
def procedureStart : Node :=
  headed (.ofParts (anyCase ['D', 'E', 'B'] ++ [.chars procedureOrMethod])) (.group 3 name)

/-- The header of a loop. -/
def loopStart : Node :=
  headed (.ofParts (anyCase ['R', 'E', 'P', 'E']))
    (.seq (optional (.group 3 name)) (.seq (.group 4 (run .asciiSpace)) (optional (.group 5 name))))

/-- A parameter. -/
def parameter : Node :=
  .seq (.chars (oneOf ['&'])) (.seq (.chars letter) (optional (.chars nameRest)))

/-- The end of a loop. -/
def loopStop : Node :=
  headed (.ofParts (anyCase ['F', 'I', 'N']))
    (.seq (optional (.group 3 name)) (.group 4 (.chars (oneOf [';']))))

/-- The end of a procedure or method. -/
def procedureStop : Node :=
  headed (.ofParts (anyCase ['F', 'I', 'N'] ++ [.chars procedureOrMethod]))
    (optional (.group 3 name))

/-- A name and the sign of its assignment. -/
def assigned : Node :=
  .seq (.look .textStart) (.seq (.group 1 name) (.seq (optional (.group 2 (run .asciiSpace)))
    (.group 3 (.chars (oneOf ['='])))))

/-- A name and the dot after it. -/
def dotted : Node :=
  .seq (.look .textStart) (.group 1 (.seq (optional (.chars .asciiSpace))
    (.seq (.chars nameStart) (.seq (.repeat (.chars nameRest) 0 none true)
      (.seq (optional (.chars .asciiSpace)) (.chars (oneOf ['.'])))))))

/-- The operators that are words, which a blank must follow. -/
def wordOperators : List Text :=
  [['E', 'T'], ['O', 'U'], ['E', 'G', 'A'], ['N', 'E', 'G'], ['N', 'O', 'N']]

/-- The operators of signs. -/
def signs : Node :=
  .alt (.ofParts (anyCase ['>', 'E', 'G'])) (.alt (.ofParts (anyCase ['<', 'E', 'G']))
    (.alt (.ofParts (anyCase ['*', '*']))
      (.chars (oneOf ['*', '/', '+', '-', '<', '>', '=', '.']))))

/-- An operator. -/
def operator : Node :=
  wordOperators.foldr (fun word rest => .alt (.ofParts (anyCase (word ++ [' ']))) rest) signs

/-- A word. -/
def word : Node := .seq edge (.seq (run .asciiWord) edge)

/-! ### The rules -/

/-- The rules outside strings and headers. -/
def start {n : Nat} (string header : Fin n) : List (Meaning n) := [
  ⟨comment, .whole (.fixed .comment), none⟩,
  ⟨.chars (oneOf ['\'']), .whole (.fixed .string), some string⟩,
  ⟨.chars (oneOf ['[', '(', '\x7b']), .whole (.fixed .leftParen), none⟩,
  ⟨.chars (oneOf [']', ')', '\x7d']), .whole (.fixed .rightParen), none⟩,
  ⟨number, .whole (.fixed .numeric), none⟩,
  ⟨procedureStart, .groups procedureHeader, some header⟩,
  ⟨loopStart, .groups loopHeader, none⟩,
  ⟨parameter, .whole (.fixed .parameter), none⟩,
  ⟨loopStop, .groups loopEnd, none⟩,
  ⟨procedureStop, .groups procedureEnd, none⟩,
  ⟨assigned, .groups assignment, none⟩,
  ⟨dotted, .groups dottedName, none⟩,
  ⟨operator, .whole (.fixed .operator), none⟩,
  ⟨word, .whole .keyword, none⟩,
  ⟨.chars (oneOf [';']), .whole (.fixed .punctuation), none⟩]

/-- The rules inside a string. -/
def string {n : Nat} (start : Fin n) : List (Meaning n) := [
  ⟨.seq (.chars (oneOf ['\''])) (.chars (oneOf ['\''])), .whole (.fixed .escape), none⟩,
  ⟨.chars (oneOf ['\'']), .whole (.fixed .string), some start⟩]

/-- Letters, in a pattern that minds case. -/
def plainLetter : CharSet := (CharSet.range 'A' 'Z').union (.range 'a' 'z')

/-- Letters, digits and the underscore, in a pattern that minds case. -/
def plainWord : CharSet := (plainLetter.union (.range '0' '9')).union (.single '_')

/-- An argument of a header. -/
def argument : Node := .seq (.chars plainLetter) (run plainWord)

/-- The type of an argument. -/
def argumentType : Node := .seq (.chars (oneOf ['*'])) (run plainLetter)

/-- The rules inside a header. -/
def header {n : Nat} (start : Fin n) : List (Meaning n) := [
  ⟨argument, .whole (.fixed .parameter), none⟩,
  ⟨argumentType, .whole (.fixed .storageType), none⟩,
  ⟨.chars (oneOf [';']), .whole (.fixed .punctuation), some start⟩]

end Form

/-- The states `start` and `string` of the table have these rules. -/
structure Formed (table : RuleTable) (string header : table.StateId) : Prop where
  startRules : (table.state table.start).meanings = Form.start string header
  startDefault : (table.state table.start).default = none
  stringRules : (table.state string).meanings = Form.string table.start
  stringDefault : (table.state string).default = some .string

instance (table : RuleTable) (string header : table.StateId) :
    Decidable (Formed table string header) :=
  decidable_of_iff
    ((table.state table.start).meanings = Form.start string header ∧
      (table.state table.start).default = none ∧
      (table.state string).meanings = Form.string table.start ∧
      (table.state string).default = some .string)
    ⟨fun ⟨startRules, startDefault, stringRules, stringDefault⟩ =>
      ⟨startRules, startDefault, stringRules, stringDefault⟩,
      fun ⟨startRules, startDefault, stringRules, stringDefault⟩ =>
      ⟨startRules, startDefault, stringRules, stringDefault⟩⟩

/-- The three states of the table have these names and rules. -/
structure StatesFormed (table : RuleTable) (string header : table.StateId) : Prop where
  startName : table.stateId? "start" = some table.start
  stringName : table.stateId? "string" = some string
  headerName : table.stateId? "procmethdef" = some header
  formed : Formed table string header
  headerRules : (table.state header).meanings = Form.header table.start
  headerDefault : (table.state header).default = some .text

instance (table : RuleTable) (string header : table.StateId) :
    Decidable (StatesFormed table string header) :=
  decidable_of_iff
    (table.stateId? "start" = some table.start ∧ table.stateId? "string" = some string ∧
      table.stateId? "procmethdef" = some header ∧ Formed table string header ∧
      (table.state header).meanings = Form.header table.start ∧
      (table.state header).default = some .text)
    ⟨fun ⟨startName, stringName, headerName, formed, headerRules, headerDefault⟩ =>
      ⟨startName, stringName, headerName, formed, headerRules, headerDefault⟩,
      fun ⟨startName, stringName, headerName, formed, headerRules, headerDefault⟩ =>
      ⟨startName, stringName, headerName, formed, headerRules, headerDefault⟩⟩

theorem exists_statesFormed :
    ∃ table, RuleTable.ofSpecs states StateSpec.defaultStart = .ok table ∧
      ∃ string header, StatesFormed table string header :=
  exists_of_any_decide (by decide +kernel)

/-- **The trees are what the patterns of the language mean.** -/
theorem exists_lexer_statesFormed :
    ∃ lexer, Gibiane.lexer = .ok lexer ∧
      (∃ string header, StatesFormed lexer.rules string header) ∧
      KeywordTable.ofWords keywordLists = .ok lexer.keywords := by
  obtain ⟨table, htable, hformed⟩ := exists_statesFormed
  obtain ⟨keywords, hkeywords⟩ := exists_keywords
  refine ⟨⟨table, keywords⟩, ?_, hformed, hkeywords⟩
  rw [lexer, Lexer.ofSpecs, htable, hkeywords]
  rfl

/-- What most arguments need of it. -/
theorem exists_lexer_formed :
    ∃ lexer, Gibiane.lexer = .ok lexer ∧
      (∃ string header, Formed lexer.rules string header) ∧
      KeywordTable.ofWords keywordLists = .ok lexer.keywords := by
  obtain ⟨lexer, hlexer, ⟨string, header, hstates⟩, hkeywords⟩ := exists_lexer_statesFormed
  exact ⟨lexer, hlexer, ⟨string, header, hstates.formed⟩, hkeywords⟩

/-- What a word can be to the keyword table. -/
def wordCategories : List Category :=
  [.languageConstant, .storageType, .controlKeyword, .builtinFunction]

theorem mem_wordCategories {keywords : KeywordTable}
    (hkeywords : KeywordTable.ofWords keywordLists = .ok keywords) {word : Text}
    {category : Category} (h : keywords.classify word = some category) :
    category ∈ wordCategories := by
  obtain ⟨listed, hmem, -⟩ := (KeywordTable.classify_eq_some_iff hkeywords).mp h
  obtain ⟨⟨category', words⟩, hlist, hword⟩ := List.mem_flatMap.mp hmem
  obtain ⟨word', -, heq⟩ := List.mem_map.mp hword
  obtain ⟨rfl, -⟩ := Prod.mk.inj heq
  have hcategories : keywordLists.map Prod.fst = wordCategories := rfl
  rw [← hcategories]
  exact List.mem_map_of_mem hlist

end Gibiane

end LineLexer
