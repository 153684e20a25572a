/-
Which states of a table nothing leads to.

A state that is never entered is most often a slip of whoever declared it, so a table names
such states.  The search behind that works on numbers.  It takes one pending state after
the other, and of the states it has not seen yet it makes pending those that one leads to.
`Searched` is what it knows at every step: whatever it has seen is reached, and a state it
is done with leads to nothing unseen.  Once nothing is pending, what it has seen is closed
under transitions, so what is left unseen is what no chain of transitions reaches
(`Searched.unreached_eq`).

The lexer has no other way into a state.  A turn stays where it is or goes where its rule
leads, and lines and documents are chains of turns; so no text ever leads into a state
that is named.
-/
import LineLexer.Proofs.Document.Restart
import LineLexer.Proofs.Line.Steps
import LineLexer.Proofs.Line.Turns
import LineLexer.Proofs.Table.Numbers
import LineLexer.Table.Reachable
import Mathlib.Logic.Relation

namespace LineLexer

namespace RuleTable

/-! ### Chains of transitions -/

/-- Some rule declared for the state `name` names `next` as the state that follows. -/
def Leads (specs : List StateSpec) (name next : String) : Prop :=
  ∃ spec ∈ specs, spec.name = name ∧ ∃ rule ∈ spec.rules, rule.next = some next

/-- A chain of declared transitions, possibly none, leads from one state to another. -/
def Connects (specs : List StateSpec) : String → String → Prop :=
  Relation.ReflTransGen (Leads specs)

/-- A chain of the table's transitions leads from its start state to a state. -/
def Enters (table : RuleTable) : table.StateId → Prop :=
  Relation.ReflTransGen (fun id next => next ∈ table.successors id) table.start

variable {table : RuleTable} {specs : List StateSpec} {start name : String}
  {id next : table.StateId} {pending unseen : List table.StateId}

theorem mem_successors_iff :
    next ∈ table.successors id ↔ ∃ rule ∈ (table.state id).rules, rule.next = some next :=
  List.mem_filterMap

theorem enters_start : table.Enters table.start := .refl

theorem Enters.tail (h : table.Enters id) (hnext : next ∈ table.successors id) :
    table.Enters next :=
  Relation.ReflTransGen.tail h hnext

/-! ### The search -/

/-- What the search knows, with these states pending and these not seen yet. -/
structure Searched (table : RuleTable) (pending unseen : List table.StateId) : Prop where
  start : table.start ∉ unseen
  reached : ∀ id, id ∉ unseen → table.Enters id
  waiting : ∀ id ∈ pending, id ∉ unseen
  /-- A state that is neither unseen nor pending leads to nothing unseen. -/
  followed : ∀ id, id ∉ unseen → id ∉ pending → ∀ next ∈ table.successors id, next ∉ unseen

/-- At first only the start state is seen, and it is pending. -/
theorem searched_start :
    table.Searched [table.start] ((List.finRange table.size).filter (· ≠ table.start)) := by
  have hseen : ∀ id, id ∉ (List.finRange table.size).filter (· ≠ table.start) →
      id = table.start := by
    intro id hid
    by_contra hne
    exact hid (List.mem_filter.mpr ⟨List.mem_finRange id, by simpa using hne⟩)
  refine ⟨by simp, ?_, ?_, ?_⟩
  · intro id hid
    rw [hseen id hid]
    exact enters_start
  · intro id hid
    simp [List.mem_singleton.mp hid]
  · intro id hid hnot
    exact absurd (List.mem_singleton.mpr (hseen id hid)) hnot

/-- A state that was not unseen, or that `next` holds, is not passed over. -/
theorem not_mem_passedOver_iff {n : Nat} {next unseen : List (Fin n)} {id : Fin n} :
    id ∉ passedOver next unseen ↔ id ∉ unseen ∨ id ∈ next := by
  by_cases h : id ∈ next <;> simp [passedOver, h]

/-- **One step of the search.**  The state it takes has been followed, and what that state leads to
has been seen. -/
theorem Searched.follow (h : table.Searched (id :: pending) unseen) :
    table.Searched (entered (table.successors id) unseen ++ pending)
      (passedOver (table.successors id) unseen) := by
  have hid : table.Enters id := h.reached id (h.waiting id List.mem_cons_self)
  refine ⟨?_, ?_, ?_, ?_⟩
  · exact not_mem_passedOver_iff.mpr (Or.inl h.start)
  · intro other hother
    rcases not_mem_passedOver_iff.mp hother with hseen | hnext
    · exact h.reached other hseen
    · exact hid.tail hnext
  · intro other hother
    rcases List.mem_append.mp hother with hentered | hpending
    · have hnext : other ∈ table.successors id := by
        simpa using (List.mem_filter.mp hentered).2
      exact not_mem_passedOver_iff.mpr (Or.inr hnext)
    · exact not_mem_passedOver_iff.mpr
        (Or.inl (h.waiting other (List.mem_cons_of_mem _ hpending)))
  · intro other hother hnot next hnext
    obtain ⟨hnew, hold⟩ := not_or.mp (mt List.mem_append.mpr hnot)
    -- What was unseen before this step and is not any more was made pending.
    have hseen : other ∉ unseen := by
      intro hunseen
      have hentered := (not_mem_passedOver_iff.mp hother).resolve_left (not_not.mpr hunseen)
      exact hnew (List.mem_filter.mpr ⟨hunseen, by simpa using hentered⟩)
    rw [not_mem_passedOver_iff]
    by_cases heq : other = id
    · exact Or.inr (heq ▸ hnext)
    · have hrest : other ∉ id :: pending := by simp [heq, hold]
      exact Or.inl (h.followed other hseen hrest next hnext)

/-- With nothing pending, what has been seen is all that is reached. -/
theorem Searched.not_mem_of_enters (h : table.Searched [] unseen) (hid : table.Enters id) :
    id ∉ unseen := by
  induction hid with
  | refl => exact h.start
  | tail _ hnext ih => exact h.followed _ ih (by simp) _ hnext

open scoped Classical in
/-- **What the search leaves is what no chain of transitions reaches**, in the order it had. -/
theorem Searched.unreached_eq (h : table.Searched pending unseen) :
    table.unreached pending unseen = unseen.filter fun id => ¬ table.Enters id := by
  fun_induction unreached table pending unseen with
  | case1 unseen =>
      symm
      rw [List.filter_eq_self]
      intro id hid
      simpa using fun henters => h.not_mem_of_enters henters hid
  | case2 id pending unseen ih =>
      rw [ih h.follow, passedOver, List.filter_filter]
      refine List.filter_congr fun other hother => ?_
      -- Of the states dropped in this step none would have been kept.
      by_cases hnext : other ∈ table.successors id
      · have hid : table.Enters id := h.reached id (h.waiting id List.mem_cons_self)
        simp [hid.tail hnext]
      · simp [hnext]

open scoped Classical in
theorem unreachable_eq :
    table.unreachable = (List.finRange table.size).filter fun id => ¬ table.Enters id := by
  rw [unreachable, searched_start.unreached_eq, List.filter_filter]
  refine List.filter_congr fun id _ => ?_
  by_cases hstart : id = table.start
  · simp [hstart, enters_start]
  · simp [hstart]

/-! ### Names -/

/-- Each declaration was compiled to a state of the table. -/
theorem Numbers.exists_state (h : table.Numbers specs start) :
    ∀ spec ∈ specs, ∃ id, spec.CompiledTo table (table.state id) := by
  intro spec hspec
  obtain ⟨state, hstate, hcompiled⟩ := exists_related h.states spec hspec
  obtain ⟨i, hi, rfl⟩ := List.mem_iff_getElem.mp hstate
  exact ⟨⟨i, table.length_states ▸ hi⟩, hcompiled⟩

/-- Each state of the table comes from a declaration. -/
theorem Numbers.exists_spec (h : table.Numbers specs start) (id : table.StateId) :
    ∃ spec ∈ specs, spec.CompiledTo table (table.state id) :=
  exists_related h.states.flip (table.state id) (List.get_mem _ _)

theorem Numbers.stateName_inj (h : table.Numbers specs start)
    (heq : table.stateName id = table.stateName next) : id = next := by
  have hid := (h.inverse _ id).mpr rfl
  rw [heq, (h.inverse _ next).mpr rfl] at hid
  exact (Option.some.inj hid).symm

/-- Transitions between numbers are those declared between names. -/
theorem Numbers.leads_iff (h : table.Numbers specs start) :
    Leads specs (table.stateName id) name ↔
      ∃ next ∈ table.successors id, table.stateName next = name := by
  constructor
  · rintro ⟨spec, hspec, hname, ruleSpec, hruleSpec, hnext⟩
    obtain ⟨id', hcompiled⟩ := h.exists_state spec hspec
    obtain rfl : id' = id := h.stateName_inj (hcompiled.name.trans hname)
    obtain ⟨rule, hrule, hcompiledRule⟩ := exists_related hcompiled.rules ruleSpec hruleSpec
    obtain ⟨next, hsome, hnextName⟩ :=
      Option.map_eq_some_iff.mp (hcompiledRule.next.trans hnext)
    exact ⟨next, mem_successors_iff.mpr ⟨rule, hrule, hsome⟩, hnextName⟩
  · rintro ⟨next, hnext, rfl⟩
    obtain ⟨rule, hrule, hsome⟩ := mem_successors_iff.mp hnext
    obtain ⟨spec, hspec, hcompiled⟩ := h.exists_spec id
    obtain ⟨ruleSpec, hruleSpec, hcompiledRule⟩ :=
      exists_related hcompiled.rules.flip rule hrule
    refine ⟨spec, hspec, hcompiled.name.symm, ruleSpec, hruleSpec, ?_⟩
    rw [← hcompiledRule.next, hsome, Option.map_some]

/-- A chain of names is one of numbers, since every name on it is that of a state. -/
theorem Numbers.exists_of_connects (h : table.Numbers specs start)
    (hname : Connects specs start name) : ∃ id, table.Enters id ∧ table.stateName id = name := by
  induction hname with
  | refl => exact ⟨table.start, enters_start, h.start⟩
  | tail _ hleads ih =>
      obtain ⟨id, henters, rfl⟩ := ih
      obtain ⟨next, hnext, hnextName⟩ := h.leads_iff.mp hleads
      exact ⟨next, henters.tail hnext, hnextName⟩

theorem Numbers.connects_of_enters (h : table.Numbers specs start) (hid : table.Enters id) :
    Connects specs start (table.stateName id) := by
  induction hid with
  | refl =>
      rw [h.start]
      exact .refl
  | tail _ hnext ih => exact ih.tail (h.leads_iff.mpr ⟨_, hnext, rfl⟩)

/-- A state is entered exactly if the declarations connect it with the start. -/
theorem Numbers.enters_iff (h : table.Numbers specs start) :
    table.Enters id ↔ Connects specs start (table.stateName id) := by
  refine ⟨h.connects_of_enters, fun hconnects => ?_⟩
  obtain ⟨id', henters, hname⟩ := h.exists_of_connects hconnects
  rwa [h.stateName_inj hname] at henters

/-- The names that were declared are those of the numbers, in order. -/
theorem Numbers.map_stateName (h : table.Numbers specs start) :
    (List.finRange table.size).map table.stateName = specs.map (·.name) := by
  refine List.ext_getElem (by simp [h.size]) fun i hi hi' => ?_
  have hlt : i < table.size := by simpa using hi
  have horder := h.order ⟨i, hlt⟩
  rw [List.getElem?_eq_getElem hi'] at horder
  simpa using (Option.some.inj horder).symm

open scoped Classical in
theorem Numbers.unreachableNames_eq (h : table.Numbers specs start) :
    table.unreachableNames =
      (specs.map (·.name)).filter fun name => ¬ Connects specs start name := by
  rw [unreachableNames, unreachable_eq, ← h.map_stateName, List.filter_map]
  refine congrArg _ (List.filter_congr fun id _ => ?_)
  simp [h.enters_iff]

theorem not_mem_unreachableNames (h : table.Numbers specs start) (hid : table.Enters id) :
    table.stateName id ∉ table.unreachableNames := by
  rw [h.unreachableNames_eq]
  intro hmem
  exact absurd (h.enters_iff.mp hid) (by simpa using (List.mem_filter.mp hmem).2)

end RuleTable

/-! ### The states a text leads through -/

namespace Lexer

variable {lexer : Lexer} {state exit : lexer.rules.StateId}

/-- A turn in a state that is entered leaves a state that is entered. -/
theorem Takes.enters {turn : Turn lexer.rules.size} {read : Text} (h : lexer.Takes turn read)
    (hstate : lexer.rules.Enters turn.state) : lexer.rules.Enters turn.exit := by
  cases h with
  | @matched state _ _ rule _ _ _ hfirst _ _ _ =>
      show lexer.rules.Enters (rule.next.getD state)
      cases hnext : rule.next with
      | none => exact hstate
      | some next =>
          have hrule := (State.mem_of_firstMatch? hfirst).1
          exact hstate.tail (RuleTable.mem_successors_iff.mpr ⟨rule, hrule, hnext⟩)
  | unmatched _ _ => exact hstate

/-- So do the turns of a line. -/
theorem Runs.enters {cur : Cursor} {turns : List (Turn lexer.rules.size)}
    (h : lexer.Runs state cur turns) (hstate : lexer.rules.Enters state) :
    (∀ turn ∈ turns, lexer.rules.Enters turn.state) ∧
      lexer.rules.Enters (exitOf state turns) := by
  induction h with
  | done _ =>
      refine ⟨?_, hstate⟩
      intro turn hturn
      simp at hturn
  | turn hturnState _ htakes _ ih =>
      rw [← hturnState] at hstate
      obtain ⟨hmore, hexit⟩ := ih (htakes.enters hstate)
      rw [exitOf_cons]
      exact ⟨List.forall_mem_cons.mpr ⟨hstate, hmore⟩, hexit⟩

/-- So do the lines of a document. -/
theorem Threads.enters {lines : List (LexedLine lexer.rules.size)}
    (h : lexer.Threads state lines exit) (hstate : lexer.rules.Enters state) :
    (∀ line ∈ lines, lexer.rules.Enters line.entered) ∧ lexer.rules.Enters exit := by
  induction h with
  | nil _ =>
      refine ⟨?_, hstate⟩
      intro line hline
      simp at hline
  | @cons _ _ line _ hentered _ _ ih =>
      rw [← hentered] at hstate
      have hexit := ((lexer.lineTurns_runs line.entered line.text).enters hstate).2
      rw [hentered] at hexit
      obtain ⟨hmore, hfinal⟩ := ih hexit
      exact ⟨List.forall_mem_cons.mpr ⟨hstate, hmore⟩, hfinal⟩

end Lexer

namespace RuleTable

variable {table : RuleTable} {specs : List StateSpec} {start : String}

open scoped Classical in
/-- What it means that a table names the states nothing leads to. -/
structure NamesUnreachable (table : RuleTable) (specs : List StateSpec) (start : String) :
    Prop where
  /-- They are the declared states that no chain of declared transitions connects with the start,
  in the order of their declaration. -/
  names : table.unreachableNames =
    (specs.map (·.name)).filter fun name => ¬ Connects specs start name
  /-- No line of a document is entered in one of them. -/
  lines : ∀ keywords text,
    ∀ line ∈ ((Lexer.mk table keywords).tokenizeDocument text).lines,
      table.stateName line.entered ∉ table.unreachableNames
  /-- No turn of a line is taken in one of them. -/
  turns : ∀ keywords text,
    ∀ line ∈ ((Lexer.mk table keywords).tokenizeDocument text).lines,
      ∀ turn ∈ (Lexer.mk table keywords).lineTurns line.entered line.text,
        table.stateName turn.state ∉ table.unreachableNames
  /-- No document ends in one of them. -/
  exit : ∀ keywords text,
    ((Lexer.mk table keywords).tokenizeDocument text).exitName ∉ table.unreachableNames

/-- **An accepted table names exactly the states that no chain of transitions reaches**, and no text
leads into any of them. -/
theorem namesUnreachable_of_ofSpecs (h : ofSpecs specs start = .ok table) :
    table.NamesUnreachable specs start := by
  have hnumbers := numbers_of_ofSpecs h
  have hthreads : ∀ keywords text,
      (∀ line ∈ ((Lexer.mk table keywords).tokenizeDocument text).lines,
        table.Enters line.entered) ∧
      table.Enters ((Lexer.mk table keywords).tokenizeDocument text).exit := by
    intro keywords text
    exact ((Lexer.mk table keywords).tokenizeDocument_threads text).enters enters_start
  refine ⟨hnumbers.unreachableNames_eq, ?_, ?_, ?_⟩
  · intro keywords text line hline
    exact not_mem_unreachableNames hnumbers ((hthreads keywords text).1 line hline)
  · intro keywords text line hline turn hturn
    have hruns := (Lexer.mk table keywords).lineTurns_runs line.entered line.text
    have henters := hruns.enters ((hthreads keywords text).1 line hline)
    exact not_mem_unreachableNames hnumbers (henters.1 turn hturn)
  · intro keywords text
    exact not_mem_unreachableNames hnumbers (hthreads keywords text).2

/-- Two states lead into each other, but nothing leads from the start to either. -/
theorem namesUnreachable_island :
    ∃ specs table,
      specs = [⟨"far", false, none, [(RuleSpec.token "a" .text).goto "farther"]⟩,
              ⟨"start", false, none, [(RuleSpec.token "b" .text).goto "start",
                (RuleSpec.token "\"" .string).goto "quoted"]⟩,
              ⟨"farther", false, none, [(RuleSpec.token "a" .text).goto "far",
                (RuleSpec.token "b" .text).goto "quoted"]⟩,
              ⟨"quoted", false, some .string, [(RuleSpec.token "\"" .string).goto "start"]⟩] ∧
      ofSpecs specs "start" = .ok table ∧ table.unreachableNames = ["far", "farther"] ∧
      table.NamesUnreachable specs "start" := by
  obtain ⟨table, accepted, hnames⟩ :
      ∃ table, ofSpecs
        [⟨"far", false, none, [(RuleSpec.token "a" .text).goto "farther"]⟩,
          ⟨"start", false, none, [(RuleSpec.token "b" .text).goto "start",
            (RuleSpec.token "\"" .string).goto "quoted"]⟩,
          ⟨"farther", false, none, [(RuleSpec.token "a" .text).goto "far",
            (RuleSpec.token "b" .text).goto "quoted"]⟩,
          ⟨"quoted", false, some .string, [(RuleSpec.token "\"" .string).goto "start"]⟩] "start" =
        .ok table ∧
      table.unreachableNames = ["far", "farther"] :=
    exists_of_any_decide (by decide +kernel)
  exact ⟨_, table, rfl, accepted, hnames, namesUnreachable_of_ofSpecs accepted⟩

end RuleTable

end LineLexer
