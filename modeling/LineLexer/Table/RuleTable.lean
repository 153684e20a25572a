/-
Rule tables.

A compiled table numbers its states in the order of their declaration.  The number of
states is part of the type of a state number, so every transition of a table leads to a
state of the table, and looking a state up cannot fail.

`RuleTable.ofSpecs` reports the first defect it meets: the number of states, the first
repeated name, the start state, and then rule by rule the state that follows, the
pattern, and the number of labels.
-/
import LineLexer.Table.ConfigError
import LineLexer.Table.Spec

namespace LineLexer

/-- A compiled rule of a table with `n` states. -/
structure Rule (n : Nat) where
  /-- What the rule matches. -/
  pattern : Pattern
  /-- The tokens a match emits. -/
  emit : Emit
  /-- The state that follows a match; none stays in the state. -/
  next : Option (Fin n)

/-- A compiled state of a table with `n` states. -/
structure State (n : Nat) where
  /-- The name it was declared with. -/
  name : String
  /-- The category of characters that no rule matches; none skips them. -/
  default : Option Category
  /-- The rules, in the order in which they are tried. -/
  rules : List (Rule n)

/-- The states of a language and how they follow each other. -/
structure RuleTable where
  /-- The number of states. -/
  size : Nat
  /-- The states in the order of their declaration. -/
  states : List (State size)
  /-- There are as many as the table says. -/
  length_states : states.length = size
  /-- The state in which a document starts. -/
  start : Fin size

namespace RuleTable

/-- The number of a state of the table. -/
abbrev StateId (table : RuleTable) := Fin table.size

/-- The state with a number. -/
def state (table : RuleTable) (id : table.StateId) : State table.size :=
  table.states.get (id.cast table.length_states.symm)

/-- The name of the state with a number. -/
def stateName (table : RuleTable) (id : table.StateId) : String := (table.state id).name

/-- The names of all states, by number. -/
def stateNames (table : RuleTable) : List String := table.states.map (·.name)

/-- The number of the state with a name. -/
def stateId? (table : RuleTable) (name : String) : Option table.StateId :=
  (table.states.findFinIdx? (·.name == name)).map (·.cast table.length_states)

/-! ### Building a table -/

/-- A list compiled item by item is as long as it was. -/
theorem length_eq_of_mapM {ε α β : Type} {f : α → Except ε β} {xs : List α} {ys : List β}
    (h : xs.mapM f = .ok ys) : ys.length = xs.length := by
  induction xs generalizing ys with
  | nil =>
    obtain rfl : [] = ys := by simpa [pure, Except.pure] using h
    rfl
  | cons x xs ih =>
    rw [List.mapM_cons] at h
    cases hx : f x with
    | error e => rw [hx] at h; simp [bind, Except.bind] at h
    | ok y =>
      cases hxs : xs.mapM f with
      | error e => rw [hx, hxs] at h; simp [bind, Except.bind] at h
      | ok zs =>
        rw [hx, hxs] at h
        obtain rfl : y :: zs = ys := by simpa [bind, Except.bind, pure, Except.pure] using h
        simp [ih hxs]

/-- The first name that an earlier one repeats. -/
def firstRepeated? (names : List String) : Option String := go [] names
where
  /-- Looks on, with the names seen so far. -/
  go (seen : List String) : List String → Option String
    | [] => none
    | name :: rest => if seen.contains name then some name else go (name :: seen) rest

/-- The number of the state declared with a name. -/
def idOf? (specs : List StateSpec) (name : String) : Option (Fin specs.length) :=
  specs.findFinIdx? (·.name == name)

/-- The number of the state that follows a rule, if it names one. -/
def resolveNext (specs : List StateSpec) (place : RulePlace) (next : Option String) :
    Except ConfigError (Option (Fin specs.length)) :=
  match next with
  | none => .ok none
  | some name =>
    match idOf? specs name with
    | some id => .ok (some id)
    | none => .error (.unknownState place name)

/-- Whether a rule has the labels its pattern needs. -/
def checkLabels (place : RulePlace) (spec : RuleSpec) (pattern : Pattern) :
    Except ConfigError Unit :=
  match spec.emit with
  | .whole _ => .ok ()
  | .groups labels =>
    if labels.length = pattern.groupCount then .ok ()
    else .error (.labelCount place spec.pattern labels.length pattern.groupCount)

/-- Compiles one rule. -/
def compileRule (specs : List StateSpec) (state : StateSpec) (spec : RuleSpec) (index : Nat) :
    Except ConfigError (Rule specs.length) := do
  let place : RulePlace := ⟨state.name, index⟩
  let next ← resolveNext specs place spec.next
  let pattern ← (Pattern.compile state.caseInsensitive spec.pattern.toList).mapError
    (.invalidPattern place spec.pattern)
  checkLabels place spec pattern
  return ⟨pattern, spec.emit, next⟩

/-- Compiles one state. -/
def compileState (specs : List StateSpec) (spec : StateSpec) :
    Except ConfigError (State specs.length) := do
  let rules ← spec.rules.zipIdx.mapM fun (rule, index) => compileRule specs spec rule index
  return ⟨spec.name, spec.default, rules⟩

/-- The table of the declared states, or the first defect of the declarations. -/
def ofSpecs (specs : List StateSpec) (start : String) : Except ConfigError RuleTable :=
  if maxStates < specs.length then .error (.tooManyStates specs.length)
  else match firstRepeated? (specs.map (·.name)) with
    | some name => .error (.duplicateState name)
    | none =>
      match idOf? specs start with
      | none => .error (.missingStartState start)
      | some id =>
        match h : specs.mapM (compileState specs) with
        | .error e => .error e
        | .ok states => .ok ⟨specs.length, states, length_eq_of_mapM h, id⟩

end RuleTable

end LineLexer
