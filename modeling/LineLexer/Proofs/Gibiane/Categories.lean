/-
Categories and the keyword table.

A word comes to its category in two ways.  Where it stands alone it is looked up in the
keyword table, and what the table does not list is an identifier.  Where it begins a loop,
or ends a loop or a procedure, a rule of its own gives its category without a look at the
table.  These rules and the table are written down apart from each other.

They agree (`tokenizeLine_agrees`).  Every rule is one of three kinds (`Sorts`): it gives
categories of which the table has no say, it is the header of words that the table lists
under the category the rule gives, or it looks a whole word up.  Storage types are left
out because there the two do differ: the words with which procedures and methods begin are
storage types to their rule, and not to the table.
-/
import LineLexer.Proofs.Gibiane.InStep
import LineLexer.Proofs.Gibiane.Regions
import LineLexer.Proofs.Gibiane.Reserved

namespace LineLexer

/-- The categories under which the keyword table lists words, but for storage types. -/
def listedCategories : List Category := [.controlKeyword, .languageConstant, .builtinFunction]

/-- The label gives a category of its own, one in which the keyword table has no say. -/
def Label.Unlisted : Label → Prop
  | .fixed category => category ∉ listedCategories ∧ category ≠ .identifier
  | .keyword => False

instance (label : Label) : Decidable label.Unlisted :=
  match label with
  | .fixed _ => inferInstanceAs (Decidable (_ ∧ _))
  | .keyword => inferInstanceAs (Decidable False)

namespace Gibiane

/-- The token is a word of the line with no character of a word before or after it. -/
def StandsAlone (line : Text) (token : Token) : Prop :=
  ∃ before after, line = before ++ (token.text ++ after) ∧ token.start = before.byteLength ∧
    (∀ c ∈ before.getLast?, isWordChar c = false) ∧ WholeWord token.text after

/-- The category of a token of the line is the one that the keyword table has for its text. -/
structure Agrees (keywords : KeywordTable) (line : Text) (token : Token) : Prop where
  /-- A word of one of these categories is listed under that category. -/
  listed : token.category ∈ listedCategories →
    keywords.classify token.text = some token.category
  /-- An identifier is not listed. -/
  unlisted : token.category = .identifier → keywords.classify token.text = none
  /-- An identifier is a whole word. -/
  alone : token.category = .identifier → StandsAlone line token

/-- How the tokens of a rule come to their categories. -/
inductive Sorts : Node → Emit → Prop
  /-- The rule gives them, and the table has no say in them. -/
  | unlisted {node : Node} {emit : Emit} (hlabels : ∀ label ∈ emit.labels, label.Unlisted) :
      Sorts node emit
  /-- The rule gives them, and begins with a word of control flow. -/
  | control {keyword next : Node} {labels : List Label} (hkeyword : keyword ∈ controlWords)
      (hnext : 1 ∉ next.groups) (hlabels : ∀ label ∈ labels, label.Unlisted) :
      Sorts (Form.headed keyword next) (.groups (.fixed .controlKeyword :: labels))
  /-- The table gives them. -/
  | word : Sorts Form.word (.whole .keyword)

section Kinds

variable {n : Nat}

theorem sorts_of_mem_start (string header : Fin n) :
    ∀ meaning ∈ Form.start string header, Sorts meaning.node meaning.emit := by
  simp only [Form.start, List.forall_mem_cons, List.not_mem_nil, false_imp_iff, implies_true,
    and_true]
  refine ⟨.unlisted (by decide), .unlisted (by decide), .unlisted (by decide),
    .unlisted (by decide), .unlisted (by decide), .unlisted (by decide), ?_,
    .unlisted (by decide), ?_, ?_, .unlisted (by decide), .unlisted (by decide),
    .unlisted (by decide), .word, .unlisted (by decide)⟩
  · exact .control (by simp [controlWords]) (by decide) (by decide)
  · exact .control (by simp [controlWords]) (by decide) (by decide)
  · exact .control (by simp [controlWords]) (by decide) (by decide)

theorem sorts_of_mem_string (start : Fin n) :
    ∀ meaning ∈ Form.string start, Sorts meaning.node meaning.emit := by
  simp only [Form.string, List.forall_mem_cons, List.not_mem_nil, false_imp_iff, implies_true,
    and_true]
  exact ⟨.unlisted (by decide), .unlisted (by decide)⟩

theorem sorts_of_mem_header (start : Fin n) :
    ∀ meaning ∈ Form.header start, Sorts meaning.node meaning.emit := by
  simp only [Form.header, List.forall_mem_cons, List.not_mem_nil, false_imp_iff, implies_true,
    and_true]
  exact ⟨.unlisted (by decide), .unlisted (by decide), .unlisted (by decide)⟩

end Kinds

variable {lexer : Lexer} {string header : lexer.rules.StateId} {line read : Text}
  {start stop : Cursor} {closed : Captures}

/-- **Every rule is of one of these kinds.** -/
theorem sorts_of_mem_meanings (hstates : StatesFormed lexer.rules string header)
    (hnames : lexer.rules.stateNames = ["start", "string", "procmethdef"])
    (state : lexer.rules.StateId) :
    ∀ meaning ∈ (lexer.rules.state state).meanings, Sorts meaning.node meaning.emit := by
  rcases hstates.eq_or hnames state with hstart | hstring | hheader
  · rw [hstart, Lexer.start, hstates.formed.startRules]
    exact sorts_of_mem_start string header
  · rw [hstring, hstates.formed.stringRules]
    exact sorts_of_mem_string _
  · rw [hheader, hstates.headerRules]
    exact sorts_of_mem_header _

/-- The table has no say in the categories of characters that no rule matches. -/
theorem unlisted_of_default (hstates : StatesFormed lexer.rules string header)
    (hnames : lexer.rules.stateNames = ["start", "string", "procmethdef"])
    (state : lexer.rules.StateId) : ∀ category ∈ (lexer.rules.state state).default,
      (Label.fixed category).Unlisted := by
  rcases hstates.eq_or hnames state with hstart | hstring | hheader
  · rw [hstart, Lexer.start, hstates.formed.startDefault]
    decide
  · rw [hstring, hstates.formed.stringDefault]
    decide
  · rw [hheader, hstates.headerDefault]
    decide

/-! ### What the kinds of rules read -/

/-- A header has its first word in its first group. -/
theorem exists_of_reads_headed {keyword next : Node}
    (h : (Form.headed keyword next).Reads start read closed stop) (hnext : 1 ∉ next.groups) :
    ∃ word inner mid, keyword.Reads start word inner mid ∧
      closed.lookup 1 = some ⟨start, mid⟩ := by
  cases h with
  | @seq _ _ _ mid _ word _ _ later hfirst hrest =>
      cases hfirst with
      | @group _ _ _ _ _ inner hkeyword =>
          refine ⟨word, inner, mid, hkeyword, ?_⟩
          have hlater : later.lookup 1 = none := by
            rw [Option.eq_none_iff_forall_ne_some]
            intro s hs
            have hgroups := (hrest.encloses_lookup hs).1
            simp [Node.groups, Form.run, hnext] at hgroups
          rw [List.lookup_append, hlater]
          rfl

/-- A word is a run of its characters between two edges. -/
theorem exists_of_reads_word (h : Form.word.Reads start read closed stop) :
    ∃ inner, (Form.run .asciiWord).Reads start read inner stop ∧
      (Look.word .boundary false).holds start = true ∧
      (Look.word .boundary false).holds stop = true := by
  cases h with
  | seq hedge hrest =>
      cases hrest with
      | seq hrun hedge' =>
          cases hedge with
          | look hfront =>
              cases hedge' with
              | look hback =>
                  rw [List.nil_append, List.append_nil]
                  exact ⟨_, hrun, hfront, hback⟩

/-- There is an edge between a character of a word and what is none. -/
theorem holds_edge_iff (cur : Cursor) :
    (Look.word .boundary false).holds cur = true ↔
      cur.before.any isWordChar ≠ cur.rest.head?.any isWordChar := by
  have hword : CharSet.asciiWord.contains = isWordChar := funext asciiWord_contains
  simp [Look.holds, WordEdge.holds, hword]

/-- **What is looked up is a whole word**, with no character of a word before it. -/
theorem wholeWord_of_reads_word (h : Form.word.Reads start read closed stop) :
    (∀ c ∈ start.before, isWordChar c = false) ∧ WholeWord read stop.rest := by
  obtain ⟨inner, hrun, hfront, hback⟩ := exists_of_reads_word h
  rw [holds_edge_iff] at hfront hback
  have hne : read ≠ [] := by
    intro hnil
    rw [hnil] at hrun
    exact absurd hrun.mayBeEmpty (by decide)
  have hchars : ∀ c ∈ read, isWordChar c = true := by
    intro c hc
    rw [← asciiWord_contains]
    exact hrun.contains_of_within .asciiWord (by decide) c hc
  have hfirst : start.rest.head?.any isWordChar = true := by
    rw [h.passes.rest, List.head?_append_of_ne_nil _ hne, List.head?_eq_some_head hne]
    exact hchars _ (List.head_mem hne)
  have hlast : stop.before.any isWordChar = true := by
    rw [h.passes.before, List.getLast?_eq_some_getLast hne]
    exact hchars _ (List.getLast_mem hne)
  refine ⟨?_, hne, hchars, ?_⟩
  · intro c hc
    rw [hc, hfirst] at hfront
    simpa using hfront
  · intro c hc
    rw [hc, hlast] at hback
    simpa using hback

/-- It stands alone in its line. -/
theorem standsAlone_of_reads_word (hstart : start.StandsIn line)
    (h : Form.word.Reads start read closed stop) (category : Category) :
    StandsAlone line ⟨category, start.offset, read⟩ := by
  obtain ⟨passed, hpassed⟩ := hstart
  obtain ⟨hbefore, hword⟩ := wholeWord_of_reads_word h
  refine ⟨passed, stop.rest, ?_, ?_, ?_, hword⟩
  · have hline : line = passed ++ start.rest := hpassed.rest
    rwa [h.passes.rest] at hline
  · have hoffset : start.offset = 0 + passed.byteLength := hpassed.offset
    rwa [Nat.zero_add] at hoffset
  · have hlast : start.before = passed.getLast?.or none := hpassed.before
    rwa [hlast, Option.or_none] at hbefore

/-! ### What the tokens of a match are -/

/-- A token of a category in which the table has no say. -/
theorem agrees_of_unlisted {keywords : KeywordTable} {token : Token} {label : Label}
    (hlabel : label.Unlisted) (hcategory : token.category = lexer.resolve label token.text) :
    Agrees keywords line token := by
  cases label with
  | fixed category =>
      obtain ⟨hlisted, hidentifier⟩ := hlabel
      have heq : token.category = category := hcategory
      rw [← heq] at hlisted hidentifier
      exact ⟨fun h => absurd h hlisted, fun h => absurd h hidentifier,
        fun h => absurd h hidentifier⟩
  | keyword => exact hlabel.elim

section Known

variable (hkeywords : KeywordTable.ofWords keywordLists = .ok lexer.keywords)

include hkeywords

/-- What is looked up has the category of the table, or is an identifier. -/
theorem agrees_of_reads_word (hstart : start.StandsIn line)
    (h : Form.word.Reads start read closed stop) :
    Agrees lexer.keywords line (lexer.tokenOf .keyword ⟨start, stop⟩) := by
  have htoken : lexer.tokenOf .keyword ⟨start, stop⟩ =
      ⟨(lexer.keywords.classify read).getD .identifier, start.offset, read⟩ := by
    rw [Lexer.tokenOf, h.passes.text]
    rfl
  rw [htoken]
  cases hclassify : lexer.keywords.classify read with
  | none =>
      refine ⟨?_, fun _ => hclassify, fun _ => standsAlone_of_reads_word hstart h _⟩
      intro hlisted
      exact absurd hlisted (show Category.identifier ∉ listedCategories by decide)
  | some category =>
      have hword : category ≠ .identifier := by
        intro heq
        have hmem := mem_wordCategories hkeywords hclassify
        rw [heq] at hmem
        exact absurd hmem (by decide)
      exact ⟨fun _ => hclassify, fun heq => absurd heq hword, fun heq => absurd heq hword⟩

/-- **The tokens of a rule agree with the table**, whichever kind of rule it is. -/
theorem agrees_of_mem_emit {node : Node} {emit : Emit} {found : Match} (hsorts : Sorts node emit)
    (hstart : start.StandsIn line) (h : node.Reads start read found.captures found.stop) :
    ∀ token ∈ lexer.emit emit start found, Agrees lexer.keywords line token := by
  intro token htoken
  cases hsorts with
  | unlisted hlabels =>
      obtain ⟨label, hlabel, hcategory⟩ := Lexer.exists_label_of_mem_emit htoken
      exact agrees_of_unlisted (hlabels label hlabel) hcategory
  | @control keyword next labels hkeyword hnext hlabels =>
      obtain ⟨i, label, span, hlabel, hspan, -, rfl⟩ := Lexer.mem_emit_groups.mp htoken
      cases i with
      | zero =>
          obtain ⟨word, inner, mid, hword, hlookup⟩ := exists_of_reads_headed h hnext
          obtain rfl : span = ⟨start, mid⟩ := Option.some.inj (hspan.symm.trans hlookup)
          obtain rfl : label = .fixed .controlKeyword := (Option.some.inj hlabel).symm
          have hclassify := classify_of_reads_controlWord hkeywords hkeyword hword
          rw [← hword.passes.text] at hclassify
          refine ⟨fun _ => hclassify, ?_, ?_⟩
          · intro hidentifier
            cases hidentifier
          · intro hidentifier
            cases hidentifier
      | succ i =>
          have hmem : label ∈ labels := List.mem_of_getElem? hlabel
          exact agrees_of_unlisted (hlabels label hmem) rfl
  | word =>
      obtain rfl := List.mem_singleton.mp htoken
      exact agrees_of_reads_word hkeywords hstart h

/-! ### Lines -/

variable (hstates : StatesFormed lexer.rules string header)
  (hnames : lexer.rules.stateNames = ["start", "string", "procmethdef"])

include hstates hnames

/-- So do the tokens of a turn. -/
theorem agrees_of_takes {turn : Turn lexer.rules.size} (hstart : turn.start.StandsIn line)
    (htakes : lexer.Takes turn read) :
    ∀ token ∈ lexer.tokensOf turn, Agrees lexer.keywords line token := by
  cases htakes with
  | @matched state _ _ rule found _ _ hfirst hread _ _ =>
      have hmeaning : rule.meaning ∈ (lexer.rules.state state).meanings :=
        List.mem_map_of_mem (State.mem_of_firstMatch? hfirst).1
      exact agrees_of_mem_emit hkeywords (sorts_of_mem_meanings hstates hnames state _ hmeaning)
        hstart hread
  | @unmatched state _ _ _ _ _ =>
      intro token htoken
      obtain ⟨category, hcategory, rfl⟩ := List.mem_map.mp htoken
      have hdefault := unlisted_of_default hstates hnames state category
        (Option.mem_toList.mp hcategory)
      exact agrees_of_unlisted hdefault (show _ = lexer.resolve (.fixed category) _ from rfl)

/-- **So do the tokens of a line.** -/
theorem agrees_of_mem_tokenizeLine (state : lexer.rules.StateId) (line : Text) :
    ∀ token ∈ (lexer.tokenizeLine state line).1, Agrees lexer.keywords line token := by
  intro token htoken
  obtain ⟨turn, hturn, htoken⟩ := List.mem_flatMap.mp htoken
  obtain ⟨hstart, read, htakes⟩ :=
    (lexer.lineTurns_runs state line).standsIn (.atStart line) turn hturn
  exact agrees_of_takes hkeywords hstates hnames hstart htakes token htoken

end Known

/-! ### Words of either kind -/

section Names

variable (hformed : Formed lexer.rules string header)

include hformed

/-- Inside a line, a name that the table does not list is an identifier. -/
theorem produces_of_unknown (hkeywords : KeywordTable.ofWords keywordLists = .ok lexer.keywords)
    {passed w tail : Text} (hname : w.isIdentifier = true)
    (hunknown : lexer.keywords.classify w = none) (hw : WholeWord w tail) (hpassed : passed ≠ [])
    (hbefore : ∀ c ∈ passed.getLast?, isWordChar c = false) :
    lexer.Produces lexer.start passed w tail [⟨.identifier, passed.byteLength, w⟩] lexer.start := by
  have hinside : (Cursor.between passed (w ++ tail)).before ≠ none := by simpa using hpassed
  have hfirst := first?_word hformed (isName_of_unknown hkeywords hname hunknown) hw hbefore
    (headers_of_unknown hkeywords hw hunknown) (Node.matchAt?_eq_none_of_before hinside)
    (Node.matchAt?_eq_none_of_before hinside)
  have hcategory : lexer.resolve .keyword w = .identifier := by
    rw [Lexer.resolve, hunknown]
    rfl
  rw [← hcategory]
  exact Lexer.tokenizeRest_of_whole hfirst hw.ne_nil

/-- The end of a loop has the category of its rule. -/
theorem produces_fin :
    lexer.Produces lexer.start [] "fin ;".toList "_f".toList
      [⟨.controlKeyword, 0, "fin".toList⟩, ⟨.text, 3, " ".toList⟩, ⟨.punctuation, 4, ";".toList⟩]
      lexer.start := by
  have hmatch : (Form.loopStop.matchAt? (.between [] ("fin ;".toList ++ "_f".toList))).map
      (fun found => (found.stop, found.captures)) =
        some (.between ([] ++ "fin ;".toList) "_f".toList,
          [(4, .across "fin ".toList ";".toList "_f".toList),
            (2, .across "fin".toList " ".toList ";_f".toList),
            (1, .across [] "fin".toList " ;_f".toList)]) := by decide +kernel
  obtain ⟨found, hfound, heq⟩ := Option.map_eq_some_iff.mp hmatch
  have hfirst : Meaning.first? (lexer.rules.state lexer.start).meanings
      (.between [] ("fin ;".toList ++ "_f".toList)) =
        some (⟨Form.loopStop, .groups loopEnd, none⟩, found) := by
    rw [Lexer.start, hformed.startRules,
      Meaning.first?_openings (Form.oneOf ['f']) (by rintro _ ⟨⟩; decide)]
    exact Meaning.first?_cons_of_matchAt? hfound
  obtain ⟨stop, captures⟩ := found
  obtain ⟨rfl, rfl⟩ := Prod.mk.inj heq
  exact Lexer.tokenizeRest_of_matched hfirst (by decide)

end Names

/-! ### Every token of every line -/

/-- **Categories agree with the keyword table.**  In every line, whichever state it is entered in, a
token of control flow, of a constant or of a built-in is listed under its category, and an
identifier is a whole word that is not listed. -/
theorem tokenizeLine_agrees :
    ∃ lexer, Gibiane.lexer = .ok lexer ∧ ∀ (state : lexer.rules.StateId) (line : Text),
      ∀ token ∈ (lexer.tokenizeLine state line).1, Agrees lexer.keywords line token := by
  obtain ⟨lexer, hlexer, ⟨string, header, hstates⟩, hkeywords⟩ := exists_lexer_statesFormed
  obtain ⟨lexer', hlexer', -, hsound⟩ := exists_lexer
  obtain rfl : lexer' = lexer := Except.ok.inj (hlexer'.symm.trans hlexer)
  exact ⟨lexer', hlexer, agrees_of_mem_tokenizeLine hkeywords hstates hsound.names⟩

/-- The end of a loop, which its rule knows, and a name, which the table does not. -/
theorem tokenizeLine_agrees_loop :
    ∃ lexer, Gibiane.lexer = .ok lexer ∧
      (lexer.tokenizeLine lexer.start "fin ;_f".toList).1 =
        [⟨.controlKeyword, 0, "fin".toList⟩, ⟨.text, 3, " ".toList⟩,
          ⟨.punctuation, 4, ";".toList⟩, ⟨.identifier, 5, "_f".toList⟩] ∧
      lexer.keywords.classify "fin".toList = some .controlKeyword ∧
      lexer.keywords.classify "_f".toList = none ∧
      StandsAlone "fin ;_f".toList ⟨.identifier, 5, "_f".toList⟩ := by
  obtain ⟨lexer, hlexer, hagrees⟩ := tokenizeLine_agrees
  obtain ⟨lexer', hlexer', ⟨string, header, hformed⟩, hkeywords⟩ := exists_lexer_formed
  obtain rfl : lexer' = lexer := Except.ok.inj (hlexer'.symm.trans hlexer)
  have hword : WholeWord "_f".toList [] :=
    wholeWord_of_isIdentifier (by decide) (by rintro _ ⟨⟩)
  have hname : lexer'.Produces lexer'.start "fin ;".toList "_f".toList []
      [⟨.identifier, 5, "_f".toList⟩] lexer'.start :=
    produces_of_unknown hformed hkeywords (by decide) (classify_underscore hkeywords ['f']) hword
      (by decide) (by rintro _ ⟨⟩; decide)
  have htokens : lexer'.tokenizeLine lexer'.start "fin ;_f".toList =
      ([⟨.controlKeyword, 0, "fin".toList⟩, ⟨.text, 3, " ".toList⟩,
        ⟨.punctuation, 4, ";".toList⟩, ⟨.identifier, 5, "_f".toList⟩], lexer'.start) :=
    ((produces_fin hformed).trans hname).tokenizeLine_whole
  have hall := hagrees lexer'.start "fin ;_f".toList
  rw [htokens] at hall
  have hfin := hall ⟨.controlKeyword, 0, "fin".toList⟩ List.mem_cons_self
  have hf := hall ⟨.identifier, 5, "_f".toList⟩ (by simp)
  exact ⟨lexer', hlexer, congrArg Prod.fst htokens, hfin.listed (by decide), hf.unlisted rfl,
    hf.alone rfl⟩

end Gibiane

end LineLexer
