/-
Which tables are accepted, and what is said of the others.

Building a table checks its states as a whole first, then rule by rule, and stops at the
first check that fails.  `WellFormed` says what an accepted table needs without any
order; `FirstDefect` says which defect is reported, and has the order in it: each case
grants what was checked before.  Each stage of the building has a lemma that says when
it succeeds and one that says with which defect it fails, and a list of rules or states
fails at the first of its items that does.

What a rule's pattern may not be is left open as `refused`.  What the table refuses are
patterns of least width zero.  What it is meant to refuse are patterns that can match
nothing, and for ordinary patterns the two are the same; but `ofSpecs_misjudges` has a
table that is accepted although its rule can match nothing, and one that is refused
although its rule never matches at all.
-/
import LineLexer.Proofs.Pattern.Nothing
import LineLexer.Proofs.Table.Numbers

namespace LineLexer

variable {refused : Node → Prop}

/-! ### Rules -/

/-- What the pattern text of a rule reads as. -/
def RuleSpec.node (rule : RuleSpec) (state : StateSpec) : Except PatternDefect Node :=
  Node.read state.caseInsensitive rule.pattern.toList

/-- The state that follows the rule, if it names one, is declared. -/
def RuleSpec.NextDeclared (rule : RuleSpec) (specs : List StateSpec) : Prop :=
  ∀ name, rule.next = some name → name ∈ specs.map (·.name)

/-- The rule has as many labels as its pattern has groups, if it labels groups. -/
def RuleSpec.LabelsFit (rule : RuleSpec) (node : Node) : Prop :=
  ∀ labels, rule.emit = .groups labels → labels.length = node.groupCount

/-- The rule passes every check. -/
structure RuleSpec.WellFormed (refused : Node → Prop) (specs : List StateSpec)
    (state : StateSpec) (rule : RuleSpec) : Prop where
  next : rule.NextDeclared specs
  pattern : ∃ node, rule.node state = .ok node ∧ ¬ refused node ∧ rule.LabelsFit node

/-- The first check that a rule fails, in the order of the checks. -/
inductive RuleDefect (refused : Node → Prop) (specs : List StateSpec) (state : StateSpec)
    (index : Nat) (rule : RuleSpec) : ConfigError → Prop
  | next {name : String} (hnext : rule.next = some name) (hname : name ∉ specs.map (·.name)) :
      RuleDefect refused specs state index rule (.unknownState ⟨state.name, index⟩ name)
  | malformed {defect : PatternDefect} (hnext : rule.NextDeclared specs)
      (hnode : rule.node state = .error defect) :
      RuleDefect refused specs state index rule
        (.invalidPattern ⟨state.name, index⟩ rule.pattern (.malformed defect))
  | matchesEmpty {node : Node} (hnext : rule.NextDeclared specs)
      (hnode : rule.node state = .ok node) (hrefused : refused node) :
      RuleDefect refused specs state index rule
        (.invalidPattern ⟨state.name, index⟩ rule.pattern .matchesEmpty)
  | labelCount {node : Node} {labels : List Label} (hnext : rule.NextDeclared specs)
      (hnode : rule.node state = .ok node) (hrefused : ¬ refused node)
      (hemit : rule.emit = .groups labels) (hcount : labels.length ≠ node.groupCount) :
      RuleDefect refused specs state index rule
        (.labelCount ⟨state.name, index⟩ rule.pattern labels.length node.groupCount)

/-- A rule with a defect does not pass every check. -/
theorem RuleDefect.not_wellFormed {specs : List StateSpec} {state : StateSpec} {index : Nat}
    {rule : RuleSpec} {e : ConfigError} (h : RuleDefect refused specs state index rule e) :
    ¬ rule.WellFormed refused specs state := by
  rintro ⟨hdeclared, node, hnode, hwidth, hlabels⟩
  cases h with
  | next hnext hname => exact hname (hdeclared _ hnext)
  | malformed _ hmalformed =>
      rw [hnode] at hmalformed
      exact absurd hmalformed (by simp)
  | matchesEmpty _ hnode' hrefused =>
      obtain rfl := Except.ok.inj (hnode.symm.trans hnode')
      exact hwidth hrefused
  | labelCount _ hnode' _ hemit hcount =>
      obtain rfl := Except.ok.inj (hnode.symm.trans hnode')
      exact hcount (hlabels _ hemit)

/-- The pattern of the rule is refused exactly if its least width is zero. -/
def RuleSpec.RefusedByWidth (refused : Node → Prop) (state : StateSpec) (rule : RuleSpec) : Prop :=
  ∀ node, rule.node state = .ok node → (refused node ↔ node.minWidth = some 0)

namespace RuleTable

variable {specs : List StateSpec} {state : StateSpec} {rule : RuleSpec} {index : Nat}
  {start : String} {e : ConfigError}

theorem exists_mem_zipIdx {α : Type} {xs : List α} {x : α} (h : x ∈ xs) :
    ∃ index, (x, index) ∈ xs.zipIdx := by
  obtain ⟨index, hindex⟩ := List.mem_iff_getElem?.mp h
  exact ⟨index, List.mem_zipIdx_iff_getElem?.mpr hindex⟩

/-- The state a rule names is reported if it is not declared. -/
theorem resolveNext_eq_error_iff {place : RulePlace} :
    resolveNext specs place rule.next = .error e ↔
      ∃ name, rule.next = some name ∧ name ∉ specs.map (·.name) ∧ .unknownState place name = e := by
  unfold resolveNext
  split
  · rename_i hnext
    simp [hnext]
  · rename_i name hnext
    simp only [hnext, Option.some.injEq, exists_eq_left', ← idOf?_eq_none_iff]
    cases idOf? specs name <;> simp

/-- The state that follows a rule is found if it is declared. -/
theorem exists_resolveNext_iff {place : RulePlace} :
    (∃ next, resolveNext specs place rule.next = .ok next) ↔ rule.NextDeclared specs := by
  constructor
  · rintro ⟨next, h⟩ name hname
    by_contra hmissing
    rw [resolveNext_eq_error_iff.mpr ⟨name, hname, hmissing, rfl⟩] at h
    exact absurd h (by simp)
  · refine fun hdeclared => exists_of_forall_ne_error fun e hfail => ?_
    obtain ⟨name, hname, hmissing, -⟩ := resolveNext_eq_error_iff.mp hfail
    exact hmissing (hdeclared name hname)

/-- The labels of a rule are too many or too few, and are reported with the groups. -/
theorem checkLabels_eq_error_iff {place : RulePlace} {pattern : Pattern} :
    checkLabels place rule pattern = .error e ↔
      ∃ labels, rule.emit = .groups labels ∧ labels.length ≠ pattern.groupCount ∧
        .labelCount place rule.pattern labels.length pattern.groupCount = e := by
  unfold checkLabels
  cases rule.emit with
  | whole label => simp
  | groups labels =>
      by_cases hcount : labels.length = pattern.groupCount
      · simp [hcount]
      · simp [hcount]

/-- The checks of a rule come one after the other: what follows it, its pattern, its labels. -/
theorem compileRule_stages :
    compileRule specs state rule index = .error e ↔
      (∃ name, rule.next = some name ∧ name ∉ specs.map (·.name) ∧
        .unknownState ⟨state.name, index⟩ name = e) ∨
      rule.NextDeclared specs ∧
        ((∃ problem, Pattern.compile state.caseInsensitive rule.pattern.toList = .error problem ∧
            .invalidPattern ⟨state.name, index⟩ rule.pattern problem = e) ∨
          ∃ pattern, Pattern.compile state.caseInsensitive rule.pattern.toList = .ok pattern ∧
            checkLabels ⟨state.name, index⟩ rule pattern = .error e) := by
  simp only [compileRule, bind_eq_error_iff, resolveNext_eq_error_iff, mapError_eq_error_iff,
    mapError_eq_ok_iff, exists_and_right, exists_resolveNext_iff, pure, Except.pure, reduceCtorEq,
    and_false, exists_const, or_false]

/-- **A rule that is not compiled fails with its first defect.** -/
theorem compileRule_eq_error_iff (hrefused : rule.RefusedByWidth refused state) :
    compileRule specs state rule index = .error e ↔
      RuleDefect refused specs state index rule e := by
  rw [compileRule_stages]
  constructor
  · rintro (⟨name, hnext, hname, rfl⟩ | ⟨hdeclared, h⟩)
    · exact .next hnext hname
    · rcases h with ⟨problem, hproblem, rfl⟩ | ⟨pattern, hpattern, hlabels⟩
      · rcases Pattern.compile_eq_error_iff.mp hproblem with
          ⟨defect, hnode, rfl⟩ | ⟨node, hnode, hwidth, rfl⟩
        · exact .malformed hdeclared hnode
        · exact .matchesEmpty hdeclared hnode ((hrefused node hnode).mpr hwidth)
      · have hnode := Pattern.compile_eq_ok_iff.mp hpattern
        obtain ⟨labels, hemit, hcount, rfl⟩ := checkLabels_eq_error_iff.mp hlabels
        exact .labelCount hdeclared hnode
          ((hrefused _ hnode).not.mpr pattern.minWidth_ne_zero) hemit hcount
  · intro hdefect
    cases hdefect with
    | next hnext hname => exact Or.inl ⟨_, hnext, hname, rfl⟩
    | malformed hdeclared hnode =>
        have hproblem := Pattern.compile_eq_error_iff.mpr (Or.inl ⟨_, hnode, rfl⟩)
        exact Or.inr ⟨hdeclared, Or.inl ⟨_, hproblem, rfl⟩⟩
    | matchesEmpty hdeclared hnode hwidth =>
        have hproblem := Pattern.compile_eq_error_iff.mpr
          (Or.inr ⟨_, hnode, (hrefused _ hnode).mp hwidth, rfl⟩)
        exact Or.inr ⟨hdeclared, Or.inl ⟨_, hproblem, rfl⟩⟩
    | @labelCount node labels hdeclared hnode hwidth hemit hcount =>
        let pattern : Pattern := ⟨node, (hrefused node hnode).not.mp hwidth⟩
        have hpattern : Pattern.compile state.caseInsensitive rule.pattern.toList = .ok pattern :=
          Pattern.compile_eq_ok_iff.mpr hnode
        have hlabels : checkLabels ⟨state.name, index⟩ rule pattern = .error _ :=
          checkLabels_eq_error_iff.mpr ⟨labels, hemit, hcount, rfl⟩
        exact Or.inr ⟨hdeclared, Or.inr ⟨pattern, hpattern, hlabels⟩⟩

/-- **A rule is compiled if it passes every check.** -/
theorem exists_compileRule_iff (hrefused : rule.RefusedByWidth refused state) :
    (∃ compiled, compileRule specs state rule index = .ok compiled) ↔
      rule.WellFormed refused specs state := by
  constructor
  · rintro ⟨compiled, h⟩
    have hlabels := labelsFit_of_compileRule h
    obtain ⟨next, hnext, h⟩ := exists_of_bind_eq_ok h
    obtain ⟨pattern, hpattern, h⟩ := exists_of_bind_eq_ok h
    obtain ⟨_, -, h⟩ := exists_of_bind_eq_ok h
    obtain rfl := Except.ok.inj h
    have hnode := Pattern.compile_eq_ok_iff.mp (mapError_eq_ok_iff.mp hpattern)
    exact ⟨exists_resolveNext_iff.mp ⟨next, hnext⟩, pattern.node, hnode,
      (hrefused _ hnode).not.mpr pattern.minWidth_ne_zero, hlabels⟩
  · refine fun hwell => exists_of_forall_ne_error fun e hfail => ?_
    exact ((compileRule_eq_error_iff hrefused).mp hfail).not_wellFormed hwell

/-! ### States -/

section States

variable (hrefused : ∀ rule ∈ state.rules, rule.RefusedByWidth refused state)
include hrefused

/-- **A state that is not compiled fails with the defect of its first bad rule.** -/
theorem compileState_eq_error_iff :
    compileState specs state = .error e ↔
      ∃ before rule after, state.rules = before ++ rule :: after ∧
        (∀ r ∈ before, r.WellFormed refused specs state) ∧
        RuleDefect refused specs state before.length rule e := by
  have hrules : compileState specs state = .error e ↔
      (state.rules.zipIdx.mapM fun x => compileRule specs state x.1 x.2) = .error e := by
    refine bind_eq_error_iff.trans (or_iff_left ?_)
    rintro ⟨_, _, h⟩
    exact absurd h (by simp [pure, Except.pure])
  rw [hrules, mapM_eq_error_iff]
  constructor
  · rintro ⟨earlier, ⟨rule, index⟩, later, hsplit, hearlier, hfail⟩
    obtain ⟨before, tail, hbefore, rfl, htail⟩ := List.zipIdx_eq_append_iff.mp hsplit
    obtain ⟨_, after, rfl, hrule, rfl⟩ := List.zipIdx_eq_cons_iff.mp htail.symm
    obtain ⟨rfl, rfl⟩ := Prod.mk.inj hrule
    rw [hbefore] at hrefused
    refine ⟨before, rule, after, hbefore, fun r hr => ?_, ?_⟩
    · obtain ⟨i, hi⟩ := exists_mem_zipIdx hr
      exact (exists_compileRule_iff (hrefused r (by simp [hr]))).mp (hearlier _ hi)
    · rw [← Nat.zero_add before.length]
      exact (compileRule_eq_error_iff (hrefused rule (by simp))).mp hfail
  · rintro ⟨before, rule, after, hsplit, hbefore, hdefect⟩
    rw [hsplit] at hrefused ⊢
    refine ⟨before.zipIdx, (rule, before.length), after.zipIdx (before.length + 1), ?_, ?_, ?_⟩
    · rw [List.zipIdx_append, List.zipIdx_cons, Nat.zero_add]
    · rintro ⟨r, i⟩ hi
      have hr := List.fst_mem_of_mem_zipIdx hi
      exact (exists_compileRule_iff (hrefused r (by simp [hr]))).mpr (hbefore r hr)
    · exact (compileRule_eq_error_iff (hrefused rule (by simp))).mpr hdefect

/-- **A state is compiled if its rules pass every check.** -/
theorem exists_compileState_iff :
    (∃ compiled, compileState specs state = .ok compiled) ↔
      ∀ rule ∈ state.rules, rule.WellFormed refused specs state := by
  constructor
  · rintro ⟨compiled, h⟩ rule hrule
    obtain ⟨rules, hrules, -⟩ := exists_of_bind_eq_ok h
    obtain ⟨index, hindex⟩ := exists_mem_zipIdx hrule
    exact (exists_compileRule_iff (hrefused rule hrule)).mp
      (exists_mapM_iff.mp ⟨rules, hrules⟩ _ hindex)
  · refine fun hwell => exists_of_forall_ne_error fun e hfail => ?_
    obtain ⟨before, rule, after, hsplit, -, hdefect⟩ :=
      (compileState_eq_error_iff hrefused).mp hfail
    exact hdefect.not_wellFormed (hwell rule (by simp [hsplit]))

end States

/-! ### Tables -/

/-- The declarations have no defect. -/
structure WellFormed (refused : Node → Prop) (specs : List StateSpec) (start : String) : Prop where
  count : specs.length ≤ maxStates
  names : (specs.map (·.name)).Nodup
  start : start ∈ specs.map (·.name)
  rules : ∀ state ∈ specs, ∀ rule ∈ state.rules, rule.WellFormed refused specs state

/-- The first defect of the declarations. -/
inductive FirstDefect (refused : Node → Prop) (specs : List StateSpec) (start : String) :
    ConfigError → Prop
  | tooMany (hcount : maxStates < specs.length) :
      FirstDefect refused specs start (.tooManyStates specs.length)
  | duplicate {before after : List StateSpec} {state : StateSpec}
      (hcount : specs.length ≤ maxStates) (hsplit : specs = before ++ state :: after)
      (hbefore : (before.map (·.name)).Nodup) (hname : state.name ∈ before.map (·.name)) :
      FirstDefect refused specs start (.duplicateState state.name)
  | missingStart (hcount : specs.length ≤ maxStates) (hnames : (specs.map (·.name)).Nodup)
      (hstart : start ∉ specs.map (·.name)) :
      FirstDefect refused specs start (.missingStartState start)
  | rule {earlier later : List StateSpec} {state : StateSpec} {before after : List RuleSpec}
      {rule : RuleSpec} {e : ConfigError} (hcount : specs.length ≤ maxStates)
      (hnames : (specs.map (·.name)).Nodup) (hstart : start ∈ specs.map (·.name))
      (hstates : specs = earlier ++ state :: later)
      (hearlier : ∀ s ∈ earlier, ∀ r ∈ s.rules, r.WellFormed refused specs s)
      (hrules : state.rules = before ++ rule :: after)
      (hbefore : ∀ r ∈ before, r.WellFormed refused specs state)
      (hdefect : RuleDefect refused specs state before.length rule e) :
      FirstDefect refused specs start e

/-- Declarations with a defect are not well formed. -/
theorem FirstDefect.not_wellFormed (h : FirstDefect refused specs start e) :
    ¬ WellFormed refused specs start := by
  intro hwell
  cases h with
  | tooMany hcount =>
      have hle := hwell.count
      omega
  | duplicate _ hsplit _ hname =>
      have hnames := hwell.names
      rw [hsplit, List.map_append, List.map_cons] at hnames
      exact (List.nodup_append.mp hnames).2.2 _ hname _ List.mem_cons_self rfl
  | missingStart _ _ hstart => exact hstart hwell.start
  | rule _ _ _ hstates _ hrules _ hdefect =>
      exact hdefect.not_wellFormed (hwell.rules _ (by simp [hstates]) _ (by simp [hrules]))

/-- The building stops at the first check that fails. -/
theorem ofSpecs_eq_error_iff :
    ofSpecs specs start = .error e ↔
      (maxStates < specs.length ∧ .tooManyStates specs.length = e) ∨
      (specs.length ≤ maxStates ∧
        ∃ name, firstRepeated? (specs.map (·.name)) = some name ∧ .duplicateState name = e) ∨
      (specs.length ≤ maxStates ∧ firstRepeated? (specs.map (·.name)) = none ∧
        idOf? specs start = none ∧ .missingStartState start = e) ∨
      (specs.length ≤ maxStates ∧ firstRepeated? (specs.map (·.name)) = none ∧
        idOf? specs start ≠ none ∧ specs.mapM (compileState specs) = .error e) := by
  unfold ofSpecs
  split
  · rename_i hcount
    simp [hcount, Nat.not_le.mpr hcount]
  · rename_i hcount
    split
    · rename_i name hname
      simp [hcount, Nat.le_of_not_lt hcount, hname]
    · rename_i hnames
      split
      · rename_i hid
        simp [hcount, Nat.le_of_not_lt hcount, hnames, hid]
      · rename_i id hid
        split
        · rename_i hstates
          simp [hcount, Nat.le_of_not_lt hcount, hnames, hid, hstates]
        · rename_i states hstates
          simp [hcount, hnames, hid, hstates]

/-- The table is accepted exactly if it is well formed, and otherwise its first defect is
reported. -/
structure Checked (refused : Node → Prop) (specs : List StateSpec) (start : String) : Prop where
  accepts : (∃ table, ofSpecs specs start = .ok table) ↔ WellFormed refused specs start
  refuses : ∀ e, ofSpecs specs start = .error e ↔ FirstDefect refused specs start e

/-- **A table is checked for the patterns that are refused by their width.** -/
theorem checked_of_refusedByWidth
    (hrefused : ∀ state ∈ specs, ∀ rule ∈ state.rules, rule.RefusedByWidth refused state) :
    Checked refused specs start := by
  have hrefuses : ∀ e, ofSpecs specs start = .error e ↔ FirstDefect refused specs start e := by
    intro e
    rw [ofSpecs_eq_error_iff, firstRepeated?_eq_none_iff, ne_eq, idOf?_eq_none_iff, not_not]
    constructor
    · rintro (⟨hcount, rfl⟩ | ⟨hcount, name, hname, rfl⟩ | ⟨hcount, hnames, hstart, rfl⟩ |
        ⟨hcount, hnames, hstart, hfail⟩)
      · exact .tooMany hcount
      · obtain ⟨seen, rest, hsplit, hseen, hmem⟩ := firstRepeated?_eq_some_iff.mp hname
        obtain ⟨before, tail, hspecs, rfl, htail⟩ := List.map_eq_append_iff.mp hsplit
        obtain ⟨state, after, rfl, rfl, -⟩ := List.map_eq_cons_iff.mp htail
        exact .duplicate hcount hspecs hseen hmem
      · exact .missingStart hcount hnames hstart
      · obtain ⟨earlier, state, later, hstates, hearlier, hfail⟩ := mapM_eq_error_iff.mp hfail
        have hmem : state ∈ specs := by simp [hstates]
        obtain ⟨before, rule, after, hrules, hbefore, hdefect⟩ :=
          (compileState_eq_error_iff (hrefused state hmem)).mp hfail
        refine .rule hcount hnames hstart hstates (fun s hs => ?_) hrules hbefore hdefect
        exact (exists_compileState_iff (hrefused s (by simp [hstates, hs]))).mp (hearlier s hs)
    · intro hdefect
      cases hdefect with
      | tooMany hcount => exact Or.inl ⟨hcount, rfl⟩
      | duplicate hcount hsplit hbefore hname =>
          refine Or.inr (Or.inl ⟨hcount, _, firstRepeated?_eq_some_iff.mpr ?_, rfl⟩)
          rw [hsplit, List.map_append, List.map_cons]
          exact ⟨_, _, rfl, hbefore, hname⟩
      | missingStart hcount hnames hstart =>
          exact Or.inr (Or.inr (Or.inl ⟨hcount, hnames, hstart, rfl⟩))
      | @rule earlier later state before after rule _ hcount hnames hstart hstates hearlier hrules
          hbefore hdefect =>
          refine Or.inr (Or.inr (Or.inr ⟨hcount, hnames, hstart, mapM_eq_error_iff.mpr ?_⟩))
          have hmem : state ∈ specs := by simp [hstates]
          refine ⟨earlier, state, later, hstates, fun s hs => ?_, ?_⟩
          · exact (exists_compileState_iff (hrefused s (by simp [hstates, hs]))).mpr
              (hearlier s hs)
          · exact (compileState_eq_error_iff (hrefused state hmem)).mpr
              ⟨before, rule, after, hrules, hbefore, hdefect⟩
  refine ⟨⟨?_, ?_⟩, hrefuses⟩
  · rintro ⟨table, h⟩
    obtain ⟨hcount, hnames, id, states, hstates, hid, -⟩ := exists_of_ofSpecs h
    refine ⟨hcount, firstRepeated?_eq_none_iff.mp hnames, ?_, ?_⟩
    · by_contra hstart
      rw [idOf?_eq_none_iff.mpr hstart] at hid
      exact absurd hid (by simp)
    · intro state hstate
      exact (exists_compileState_iff (hrefused state hstate)).mp
        (exists_mapM_iff.mp ⟨states, hstates⟩ state hstate)
  · refine fun hwell => exists_of_forall_ne_error fun e hfail => ?_
    exact ((hrefuses e).mp hfail).not_wellFormed hwell

/-- Every pattern of the declarations that can be read is an ordinary one. -/
def OrdinaryPatterns (specs : List StateSpec) : Prop :=
  ∀ state ∈ specs, ∀ rule ∈ state.rules, ∀ node, rule.node state = .ok node → node.Ordinary

/-- **Exactly the well-formed declarations make a table, and of the others the first defect is
reported.**  A pattern is refused for its least width, which for ordinary patterns is zero exactly
if they can match nothing.  The table that is made numbers the declared states. -/
theorem ofSpecs_checks (specs : List StateSpec) (start : String) :
    Checked (·.minWidth = some 0) specs start ∧
      (OrdinaryPatterns specs → Checked Node.MatchesNothing specs start) ∧
      ∀ table, ofSpecs specs start = .ok table → table.Numbers specs start := by
  refine ⟨?_, fun hordinary => ?_, fun table => numbers_of_ofSpecs⟩
  · exact checked_of_refusedByWidth fun _ _ _ _ _ _ => Iff.rfl
  · refine checked_of_refusedByWidth fun state hstate rule hrule node hnode => ?_
    exact (hordinary state hstate rule hrule node hnode).minWidth_eq_zero_iff.symm

/-! ### Where the least width errs -/

/-- One state with one rule. -/
def oneRule (pattern : String) : List StateSpec :=
  [⟨"start", false, some .text, [RuleSpec.token pattern .comment]⟩]

/-- All there is to check of one rule is its pattern. -/
theorem wellFormed_oneRule_iff {pattern : String} :
    WellFormed refused (oneRule pattern) "start" ↔
      ∃ node, Node.read false pattern.toList = .ok node ∧ ¬ refused node := by
  constructor
  · intro hwell
    have hrule := hwell.rules _ List.mem_cons_self _ List.mem_cons_self
    obtain ⟨node, hnode, hrefused, -⟩ := hrule.pattern
    exact ⟨node, hnode, hrefused⟩
  · rintro ⟨node, hnode, hrefused⟩
    refine ⟨Nat.le_of_ble_eq_true rfl, by simp [oneRule], by simp [oneRule],
      fun state hstate rule hrule => ?_⟩
    obtain rfl := List.mem_singleton.mp hstate
    obtain rfl := List.mem_singleton.mp hrule
    exact ⟨by simp [RuleSpec.NextDeclared, RuleSpec.token], node, hnode, hrefused,
      by simp [RuleSpec.LabelsFit, RuleSpec.token]⟩

/-- The set in `[a&&b]` is empty, so the pattern has no least width; but it may be left out. -/
theorem matchesNothing_emptyMatch :
    ∃ node, Node.read false "[a&&b]*".toList = .ok node ∧ node.MatchesNothing := by
  refine ⟨.repeat (.chars .empty) 0 none true, rfl, ?_⟩
  have hmatch : (Node.repeat (.chars .empty) 0 none true).matchAt? (.start ['a', 'b']) =
      some ⟨.start ['a', 'b'], []⟩ := rfl
  exact Node.matchesNothing_of_matchAt? hmatch rfl

/-- In an empty text no word starts or stops, so `^\b$` never matches. -/
theorem not_matchesNothing_noMatch :
    ∃ node, Node.read false "^\\b$".toList = .ok node ∧ ¬ node.MatchesNothing := by
  refine ⟨.seq (.look .textStart) (.seq (.look (.word .boundary false)) (.look .textEnd)), rfl, ?_⟩
  rintro ⟨cur, closed, hread⟩
  -- It never reads anything, be it nothing or not.
  generalize [] = read at hread
  cases hread with
  | seq hstart hread =>
      cases hstart with
      | look hstart =>
          cases hread with
          | seq hedge hend =>
              cases hedge with
              | look hedge =>
                  cases hend with
                  | look hend =>
                      have hbefore : cur.before = none := by simpa [Look.holds] using hstart
                      have hrest : cur.rest = [] := by simpa [Look.holds] using hend
                      simp [Look.holds, WordEdge.holds, hbefore, hrest] at hedge

/-- **The least width errs in both directions.**  `[a&&b]*` can match nothing and is accepted;
`^\b$` never matches and is refused. -/
theorem ofSpecs_misjudges :
    ((∃ table, ofSpecs (oneRule "[a&&b]*") "start" = .ok table) ∧
      ¬ WellFormed Node.MatchesNothing (oneRule "[a&&b]*") "start") ∧
    (ofSpecs (oneRule "^\\b$") "start" =
        .error (.invalidPattern ⟨"start", 0⟩ "^\\b$" .matchesEmpty) ∧
      WellFormed Node.MatchesNothing (oneRule "^\\b$") "start") := by
  refine ⟨⟨exists_of_isOk (by decide +kernel), fun hwell => ?_⟩, rfl, ?_⟩
  · obtain ⟨node, hnode, hnothing⟩ := matchesNothing_emptyMatch
    obtain ⟨node', hnode', hrefused⟩ := wellFormed_oneRule_iff.mp hwell
    obtain rfl := Except.ok.inj (hnode.symm.trans hnode')
    exact hrefused hnothing
  · exact wellFormed_oneRule_iff.mpr not_matchesNothing_noMatch

end RuleTable

end LineLexer
