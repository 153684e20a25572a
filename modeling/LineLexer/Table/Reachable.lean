/-
States that are never entered.

The search keeps two lists: states that were reached and whose transitions are still to
be followed, and states that were not reached yet, in the order of their declaration.
Following one state's transitions moves states from the second list to the first, so
the two together shrink by one state a round.  What is left of the second list is what
no chain of transitions from the start enters.
-/
import LineLexer.Table.RuleTable

namespace LineLexer

namespace RuleTable

/-- The states that some rule of a state leads to. -/
def successors (table : RuleTable) (id : table.StateId) : List table.StateId :=
  (table.state id).rules.filterMap (·.next)

/-- The states of `unseen` that are among `next`. -/
def entered {n : Nat} (next unseen : List (Fin n)) : List (Fin n) := unseen.filter next.contains

/-- The states of `unseen` that are not among `next`. -/
def passedOver {n : Nat} (next unseen : List (Fin n)) : List (Fin n) :=
  unseen.filter fun id => !next.contains id

/-- A state is entered or passed over, not both. -/
theorem length_entered_add {n : Nat} (next unseen : List (Fin n)) :
    (entered next unseen).length + (passedOver next unseen).length = unseen.length := by
  induction unseen with
  | nil => rfl
  | cons id unseen ih =>
    by_cases h : id ∈ next <;> simp [entered, passedOver, h] at ih ⊢ <;> omega

/-- The states of `unseen` that cannot be reached from those in `pending`. -/
def unreached (table : RuleTable) : List table.StateId → List table.StateId → List table.StateId
  | [], unseen => unseen
  | id :: pending, unseen =>
    unreached table (entered (table.successors id) unseen ++ pending)
      (passedOver (table.successors id) unseen)
termination_by pending unseen => pending.length + unseen.length
decreasing_by
  have := length_entered_add (table.successors id) unseen
  simp only [List.length_append, List.length_cons]
  omega

/-- The states that no chain of transitions from the start enters, in order. -/
def unreachable (table : RuleTable) : List table.StateId :=
  table.unreached [table.start] ((List.finRange table.size).filter (· ≠ table.start))

/-- The names of the states that are never entered, in order. -/
def unreachableNames (table : RuleTable) : List String := table.unreachable.map table.stateName

end RuleTable

end LineLexer
