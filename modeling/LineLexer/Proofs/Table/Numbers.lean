/-
State numbers of an accepted table.

States are declared and named by texts, while the table runs on numbers that have to fit
into one byte.  What keeps the two apart from mixing anything up is that no name is
declared twice: then each name has one number and each number one name
(`stateId?_eq_some_iff`), and since no table has more than 256 states, no number loses
anything as a byte.

`Numbers` gathers what a table that was built keeps of its declarations.
-/
import LineLexer.Proofs.Table.Accepted

namespace LineLexer

namespace RuleTable

/-! ### Names -/

namespace firstRepeated?

/-- The search comes to the end if no name repeats another or one seen before. -/
theorem go_eq_none_iff {names seen : List String} :
    go seen names = none ↔ names.Nodup ∧ ∀ name ∈ names, name ∉ seen := by
  induction names generalizing seen with
  | nil => simp [go]
  | cons name names ih =>
      rw [go, List.nodup_cons, List.forall_mem_cons]
      by_cases hseen : name ∈ seen
      · simp [hseen]
      · simp only [List.contains_iff_mem, hseen, if_false, ih, List.mem_cons, not_or,
          not_false_eq_true, true_and]
        constructor
        · rintro ⟨hnodup, hfresh⟩
          exact ⟨⟨fun hmem => (hfresh name hmem).1 rfl, hnodup⟩, fun n hn => (hfresh n hn).2⟩
        · rintro ⟨⟨hname, hnodup⟩, hfresh⟩
          exact ⟨hnodup, fun n hn => ⟨fun heq => hname (heq ▸ hn), hfresh n hn⟩⟩

/-- The search stops at the first name that repeats one before it. -/
theorem go_eq_some_iff {names seen : List String} {name : String} :
    go seen names = some name ↔
      ∃ before after, names = before ++ name :: after ∧
        (before.Nodup ∧ ∀ n ∈ before, n ∉ seen) ∧ (name ∈ before ∨ name ∈ seen) := by
  induction names generalizing seen with
  | nil => simp [go]
  | cons first names ih =>
      rw [go]
      by_cases hseen : first ∈ seen
      · rw [if_pos (List.contains_iff_mem.mpr hseen)]
        constructor
        · intro h
          obtain rfl := Option.some.inj h
          exact ⟨[], names, rfl, by simp, Or.inr hseen⟩
        · rintro ⟨before, after, hsplit, ⟨-, hfresh⟩, -⟩
          cases before with
          | nil => rw [(List.cons.inj hsplit).1]
          | cons n before =>
              obtain ⟨rfl, -⟩ := List.cons.inj hsplit
              exact absurd hseen (hfresh first List.mem_cons_self)
      · rw [if_neg (by simpa using hseen), ih]
        constructor
        · rintro ⟨before, after, rfl, ⟨hnodup, hfresh⟩, hrepeat⟩
          refine ⟨first :: before, after, rfl, ⟨?_, ?_⟩, ?_⟩
          · exact List.nodup_cons.mpr ⟨fun hmem => hfresh first hmem List.mem_cons_self, hnodup⟩
          · exact List.forall_mem_cons.mpr ⟨hseen, fun n hn hmem =>
              hfresh n hn (List.mem_cons_of_mem _ hmem)⟩
          · rcases hrepeat with hmem | hmem
            · exact Or.inl (List.mem_cons_of_mem _ hmem)
            · rcases List.mem_cons.mp hmem with rfl | hmem
              · exact Or.inl List.mem_cons_self
              · exact Or.inr hmem
        · rintro ⟨before, after, hsplit, ⟨hnodup, hfresh⟩, hrepeat⟩
          cases before with
          | nil =>
              obtain ⟨rfl, -⟩ := List.cons.inj hsplit
              exact absurd (hrepeat.resolve_left (by simp)) hseen
          | cons n before =>
              obtain ⟨rfl, rfl⟩ := List.cons.inj hsplit
              obtain ⟨hname, hnodup⟩ := List.nodup_cons.mp hnodup
              refine ⟨before, after, rfl, ⟨hnodup, ?_⟩, ?_⟩
              · intro n hn hmem
                rcases List.mem_cons.mp hmem with rfl | hmem
                · exact hname hn
                · exact hfresh n (List.mem_cons_of_mem _ hn) hmem
              · rcases hrepeat with hmem | hmem
                · rcases List.mem_cons.mp hmem with rfl | hmem
                  · exact Or.inr List.mem_cons_self
                  · exact Or.inl hmem
                · exact Or.inr (List.mem_cons_of_mem _ hmem)

end firstRepeated?

/-- No name is repeated if the names are distinct. -/
theorem firstRepeated?_eq_none_iff {names : List String} :
    firstRepeated? names = none ↔ names.Nodup := by
  simp [firstRepeated?, firstRepeated?.go_eq_none_iff]

/-- The name reported is the first that an earlier one repeats. -/
theorem firstRepeated?_eq_some_iff {names : List String} {name : String} :
    firstRepeated? names = some name ↔
      ∃ before after, names = before ++ name :: after ∧ before.Nodup ∧ name ∈ before := by
  simp [firstRepeated?, firstRepeated?.go_eq_some_iff]

/-- A name has no number if no state is declared with it. -/
theorem idOf?_eq_none_iff {specs : List StateSpec} {name : String} :
    idOf? specs name = none ↔ name ∉ specs.map (·.name) := by
  simp [idOf?, List.findFinIdx?_eq_none_iff]

/-- The number found for a name belongs to a state declared with it. -/
theorem name_of_idOf? {specs : List StateSpec} {name : String} {id : Fin specs.length}
    (h : idOf? specs name = some id) : (specs.get id).name = name := by
  have hname := (List.findFinIdx?_eq_some_iff.mp h).1
  exact eq_of_beq hname

/-! ### Numbers -/

variable {table : RuleTable}

theorem getElem?_stateNames (id : table.StateId) :
    table.stateNames[id.val]? = some (table.stateName id) := by
  have hlt : id.val < table.states.length := by
    rw [table.length_states]
    exact id.isLt
  simp [stateNames, stateName, state, hlt]

/-- **Names and numbers are inverse to each other if no name is repeated.** -/
theorem stateId?_eq_some_iff (hnodup : table.stateNames.Nodup) {name : String}
    {id : table.StateId} : table.stateId? name = some id ↔ table.stateName id = name := by
  constructor
  · intro h
    obtain ⟨i, hi, rfl⟩ := Option.map_eq_some_iff.mp h
    exact eq_of_beq (List.findFinIdx?_eq_some_iff.mp hi).1
  · rintro rfl
    have hfound : (table.states.findFinIdx? (·.name == table.stateName id)).isSome = true := by
      rw [Option.isSome_iff_ne_none, ne_eq, List.findFinIdx?_eq_none_iff]
      exact fun h => h (table.state id) (List.get_mem _ _) (beq_self_eq_true _)
    obtain ⟨i, hi⟩ := Option.isSome_iff_exists.mp hfound
    have hname : (table.states[i]).name = table.stateName id :=
      eq_of_beq (List.findFinIdx?_eq_some_iff.mp hi).1
    have hsame : i.cast table.length_states = id := by
      have hget := getElem?_stateNames (i.cast table.length_states)
      rw [show table.stateName (i.cast table.length_states) = table.stateName id from hname,
        ← getElem?_stateNames id] at hget
      have hlt : i.val < table.stateNames.length := by simp [stateNames]
      exact Fin.ext ((List.getElem?_inj hlt hnodup).mp hget)
    rw [stateId?, hi, Option.map_some, hsame]

end RuleTable

/-! ### What a table keeps of its declarations -/

/-- What a compiled rule keeps of its declaration. -/
structure RuleSpec.CompiledTo (table : RuleTable) (state : StateSpec) (spec : RuleSpec)
    (rule : Rule table.size) : Prop where
  pattern : Node.read state.caseInsensitive spec.pattern.toList = .ok rule.pattern.node
  emit : rule.emit = spec.emit
  /-- The number the rule leads to belongs to the state it names. -/
  next : rule.next.map table.stateName = spec.next

/-- What a compiled state keeps of its declaration. -/
structure StateSpec.CompiledTo (table : RuleTable) (spec : StateSpec) (state : State table.size) :
    Prop where
  name : state.name = spec.name
  default : state.default = spec.default
  rules : List.Forall₂ (RuleSpec.CompiledTo table spec) spec.rules state.rules

namespace RuleTable

/-- What the numbers of a table mean. -/
structure Numbers (table : RuleTable) (specs : List StateSpec) (start : String) : Prop where
  size : table.size = specs.length
  /-- Numbers follow the order of the declarations. -/
  order : ∀ id : table.StateId, (specs.map (·.name))[id.val]? = some (table.stateName id)
  /-- Each name has one number and each number one name. -/
  inverse : ∀ name id, table.stateId? name = some id ↔ table.stateName id = name
  /-- No number loses anything as a byte. -/
  byte : ∀ id : table.StateId, (UInt8.ofNat id).toNat = id
  start : table.stateName table.start = start
  /-- The states are those that were declared. -/
  states : List.Forall₂ (StateSpec.CompiledTo table) specs table.states

section Compiled

variable {specs : List StateSpec} {states : List (State specs.length)}
  {hlength : states.length = specs.length} {id : Fin specs.length}

/-- A state that is compiled keeps its name. -/
theorem map_name_of_mapM (h : specs.mapM (compileState specs) = .ok states) :
    states.map (·.name) = specs.map (·.name) := by
  have hcompiled := forall₂_of_mapM h
  rw [← List.forall₂_eq_eq_eq, List.forall₂_map_left_iff, List.forall₂_map_right_iff]
  refine List.Forall₂.flip (hcompiled.imp fun spec state hstate => ?_)
  obtain ⟨rules, -, hstate⟩ := exists_of_bind_eq_ok hstate
  obtain rfl := Except.ok.inj hstate
  rfl

/-- A rule that is compiled leads to the state it names. -/
theorem compiledTo_of_compileRule {state : StateSpec} {spec : RuleSpec} {index : Nat}
    {rule : Rule specs.length}
    (hnames : ∀ i, stateName ⟨specs.length, states, hlength, id⟩ i = (specs.get i).name)
    (h : compileRule specs state spec index = .ok rule) :
    spec.CompiledTo ⟨specs.length, states, hlength, id⟩ state rule := by
  obtain ⟨next, hnext, h⟩ := exists_of_bind_eq_ok h
  obtain ⟨pattern, hpattern, h⟩ := exists_of_bind_eq_ok h
  obtain ⟨_, -, h⟩ := exists_of_bind_eq_ok h
  obtain rfl := Except.ok.inj h
  refine ⟨?_, rfl, ?_⟩
  · exact Pattern.compile_eq_ok_iff.mp (mapError_eq_ok_iff.mp hpattern)
  · show next.map _ = spec.next
    unfold resolveNext at hnext
    split at hnext
    · rename_i hnone
      obtain rfl := Except.ok.inj hnext
      exact hnone.symm
    · rename_i name hsome
      split at hnext
      · rename_i i hi
        obtain rfl := Except.ok.inj hnext
        rw [hsome, Option.map_some, hnames, name_of_idOf? hi]
      · exact absurd hnext (by simp)

/-- A state that is compiled keeps what it was declared with. -/
theorem compiledTo_of_compileState {spec : StateSpec} {state : State specs.length}
    (hnames : ∀ i, stateName ⟨specs.length, states, hlength, id⟩ i = (specs.get i).name)
    (h : compileState specs spec = .ok state) :
    spec.CompiledTo ⟨specs.length, states, hlength, id⟩ state := by
  obtain ⟨rules, hrules, h⟩ := exists_of_bind_eq_ok h
  obtain rfl := Except.ok.inj h
  refine ⟨rfl, rfl, ?_⟩
  rw [← List.zipIdx_map_fst 0 spec.rules, List.forall₂_map_left_iff]
  exact (forall₂_of_mapM hrules).imp fun _ _ hrule => compiledTo_of_compileRule hnames hrule

end Compiled

/-- **The numbers of an accepted table mean what its declarations say.** -/
theorem numbers_of_ofSpecs {specs : List StateSpec} {start : String} {table : RuleTable}
    (h : ofSpecs specs start = .ok table) : table.Numbers specs start := by
  obtain ⟨hcount, hnodup, id, states, hstates, hid, rfl⟩ := exists_of_ofSpecs h
  have hnames : ∀ i, stateName ⟨specs.length, states, length_eq_of_mapM hstates, id⟩ i =
      (specs.get i).name := by
    intro i
    have hget :=
      @getElem?_stateNames ⟨specs.length, states, length_eq_of_mapM hstates, id⟩ i
    rw [stateNames, map_name_of_mapM hstates] at hget
    simpa using hget.symm
  have hdistinct : (stateNames ⟨specs.length, states, length_eq_of_mapM hstates, id⟩).Nodup := by
    rw [stateNames, map_name_of_mapM hstates]
    exact firstRepeated?_eq_none_iff.mp hnodup
  refine ⟨rfl, ?_, ?_, ?_, ?_, ?_⟩
  · intro i
    rw [hnames]
    simp
  · exact fun _ _ => stateId?_eq_some_iff hdistinct
  · intro i
    have hlt : i.val < specs.length := i.isLt
    have hbound : maxStates = 2 ^ 8 := rfl
    rw [UInt8.toNat_ofNat']
    exact Nat.mod_eq_of_lt (by omega)
  · exact (hnames id).trans (name_of_idOf? hid)
  · exact (forall₂_of_mapM hstates).imp fun _ _ hstate => compiledTo_of_compileState hnames hstate

end RuleTable

end LineLexer
