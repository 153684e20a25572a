/-
What holds of every rule of an accepted table.

A table is built rule by rule, and a rule that fails one of its checks stops the
building.  So whatever is checked of one rule holds of all rules of a table that was
built.  The check that matters when the table runs is that a rule by groups has a label
for each group of its pattern and no label besides.
-/
import Mathlib.Data.List.Forall2
import LineLexer.Proofs.Pattern.Width
import LineLexer.Table.RuleTable

namespace LineLexer

/-! ### Steps that may fail -/

section Steps

variable {ε α β : Type}

theorem exists_of_isOk {result : Except ε α} (h : result.isOk = true) : ∃ a, result = .ok a := by
  cases result with
  | error e => exact absurd h (by simp [Except.isOk, Except.toBool])
  | ok a => exact ⟨a, rfl⟩

/-- What is computed of a result holds of it. -/
theorem exists_of_any_decide {result : Except ε α} {P : α → Prop} [DecidablePred P]
    (h : result.toOption.any (fun a => decide (P a)) = true) : ∃ a, result = .ok a ∧ P a := by
  cases result with
  | error e => exact absurd h (by simp [Except.toOption])
  | ok a => exact ⟨a, rfl, of_decide_eq_true h⟩

/-- What never fails succeeds. -/
theorem exists_of_forall_ne_error {result : Except ε α} (h : ∀ e, result ≠ .error e) :
    ∃ a, result = .ok a := by
  cases result with
  | error e => exact absurd rfl (h e)
  | ok a => exact ⟨a, rfl⟩

/-- A step followed by another succeeds only if both do. -/
theorem exists_of_bind_eq_ok {x : Except ε α} {f : α → Except ε β} {b : β}
    (h : x >>= f = .ok b) : ∃ a, x = .ok a ∧ f a = .ok b := by
  cases x with
  | error e => exact absurd h (by simp [bind, Except.bind])
  | ok a => exact ⟨a, rfl, h⟩

/-- A step followed by another fails if the first does or the second does. -/
theorem bind_eq_error_iff {x : Except ε α} {f : α → Except ε β} {e : ε} :
    x >>= f = .error e ↔ x = .error e ∨ ∃ a, x = .ok a ∧ f a = .error e := by
  cases x with
  | error e' => simp [bind, Except.bind]
  | ok a => simp [bind, Except.bind]

/-- Rewording an error changes no result. -/
theorem mapError_eq_ok_iff {δ : Type} {x : Except ε α} {f : ε → δ} {a : α} :
    x.mapError f = .ok a ↔ x = .ok a := by
  cases x <;> simp [Except.mapError]

/-- A reworded error comes from an error. -/
theorem mapError_eq_error_iff {δ : Type} {x : Except ε α} {f : ε → δ} {e : δ} :
    x.mapError f = .error e ↔ ∃ e', x = .error e' ∧ f e' = e := by
  cases x <;> simp [Except.mapError]

/-- A list compiled item by item has the results of its items. -/
theorem forall₂_of_mapM {f : α → Except ε β} {xs : List α} {ys : List β}
    (h : xs.mapM f = .ok ys) : List.Forall₂ (fun x y => f x = .ok y) xs ys := by
  induction xs generalizing ys with
  | nil =>
      obtain rfl := Except.ok.inj h
      exact List.Forall₂.nil
  | cons x xs ih =>
      rw [List.mapM_cons] at h
      obtain ⟨y, hx, h⟩ := exists_of_bind_eq_ok h
      obtain ⟨zs, hxs, h⟩ := exists_of_bind_eq_ok h
      obtain rfl := Except.ok.inj h
      exact List.Forall₂.cons hx (ih hxs)

/-- Each item of a list is related to some item of a list related to it. -/
theorem exists_related {R : α → β → Prop} {xs : List α} {ys : List β}
    (h : List.Forall₂ R xs ys) : ∀ x ∈ xs, ∃ y ∈ ys, R x y := by
  induction h with
  | nil =>
      intro x hx
      simp at hx
  | @cons x y xs ys hxy _ ih =>
      intro x' hx
      rcases List.mem_cons.mp hx with rfl | hx
      · exact ⟨y, List.mem_cons_self, hxy⟩
      · obtain ⟨y', hy', hrelated⟩ := ih x' hx
        exact ⟨y', List.mem_cons_of_mem _ hy', hrelated⟩

/-- Each item of a list compiled item by item comes from an item of the list. -/
theorem exists_of_mem_mapM {f : α → Except ε β} {xs : List α} {ys : List β}
    (h : xs.mapM f = .ok ys) : ∀ y ∈ ys, ∃ x ∈ xs, f x = .ok y :=
  exists_related (forall₂_of_mapM h).flip

/-- A list is compiled if each of its items is. -/
theorem exists_mapM_iff {f : α → Except ε β} {xs : List α} :
    (∃ ys, xs.mapM f = .ok ys) ↔ ∀ x ∈ xs, ∃ y, f x = .ok y := by
  induction xs with
  | nil => exact ⟨fun _ x hx => absurd hx (by simp), fun _ => ⟨[], rfl⟩⟩
  | cons x xs ih =>
      rw [List.mapM_cons, List.forall_mem_cons, ← ih]
      constructor
      · rintro ⟨ys, h⟩
        obtain ⟨y, hx, h⟩ := exists_of_bind_eq_ok h
        obtain ⟨zs, hxs, -⟩ := exists_of_bind_eq_ok h
        exact ⟨⟨y, hx⟩, zs, hxs⟩
      · rintro ⟨⟨y, hx⟩, zs, hxs⟩
        exact ⟨y :: zs, by rw [hx, hxs]; rfl⟩

/-- A list compiled item by item fails at the first of its items that fails. -/
theorem mapM_eq_error_iff {f : α → Except ε β} {xs : List α} {e : ε} :
    xs.mapM f = .error e ↔
      ∃ before x after, xs = before ++ x :: after ∧ (∀ y ∈ before, ∃ b, f y = .ok b) ∧
        f x = .error e := by
  induction xs with
  | nil => simp [pure, Except.pure]
  | cons x xs ih =>
      rw [List.mapM_cons, bind_eq_error_iff]
      constructor
      · rintro (hx | ⟨y, hx, h⟩)
        · exact ⟨[], x, xs, rfl, by simp, hx⟩
        · rcases bind_eq_error_iff.mp h with h | ⟨_, _, h⟩
          · obtain ⟨before, x', after, rfl, hbefore, hfail⟩ := ih.mp h
            refine ⟨x :: before, x', after, rfl, ?_, hfail⟩
            exact List.forall_mem_cons.mpr ⟨⟨y, hx⟩, hbefore⟩
          · exact absurd h (by simp [pure, Except.pure])
      · rintro ⟨before, x', after, hsplit, hbefore, hfail⟩
        cases before with
        | nil =>
            obtain ⟨rfl, rfl⟩ := List.cons.inj hsplit
            exact Or.inl hfail
        | cons first before =>
            obtain ⟨rfl, rfl⟩ := List.cons.inj hsplit
            obtain ⟨⟨y, hx⟩, hbefore⟩ := List.forall_mem_cons.mp hbefore
            refine Or.inr ⟨y, hx, bind_eq_error_iff.mpr (Or.inl ?_)⟩
            exact ih.mpr ⟨before, x', after, rfl, hbefore, hfail⟩

/-- Steps taken one after the other fail at the first of them that fails. -/
theorem exists_of_foldlM_eq_error {f : β → α → Except ε β} {init : β} {xs : List α} {e : ε}
    (h : xs.foldlM f init = .error e) :
    ∃ before x after b, xs = before ++ x :: after ∧ before.foldlM f init = .ok b ∧
      f b x = .error e := by
  induction xs generalizing init with
  | nil => exact absurd h (by simp [pure, Except.pure])
  | cons x xs ih =>
      rw [List.foldlM_cons] at h
      cases hx : f init x with
      | error e' =>
          rw [hx] at h
          obtain rfl : e' = e := Except.error.inj h
          exact ⟨[], x, xs, init, rfl, rfl, hx⟩
      | ok next =>
          rw [hx] at h
          obtain ⟨before, y, after, b, rfl, hbefore, hy⟩ := ih h
          refine ⟨x :: before, y, after, b, rfl, ?_, hy⟩
          rw [List.foldlM_cons, hx]
          exact hbefore

end Steps

/-! ### Rules and tables -/

/-- A pattern text makes a pattern if it reads as its node. -/
theorem Pattern.compile_eq_ok_iff {caseInsensitive : Bool} {source : Text} {pattern : Pattern} :
    Pattern.compile caseInsensitive source = .ok pattern ↔
      Node.read caseInsensitive source = .ok pattern.node := by
  unfold Pattern.compile
  split
  · rename_i hread
    simp [hread]
  · rename_i node hread
    rw [hread]
    split
    · rename_i hwidth
      constructor
      · intro h
        exact absurd h (by simp)
      · intro h
        exact absurd (Except.ok.inj h ▸ hwidth) pattern.minWidth_ne_zero
    · constructor
      · intro h
        obtain rfl := Except.ok.inj h
        rfl
      · intro h
        obtain rfl := Except.ok.inj h
        rfl

/-- A pattern text makes no pattern if it cannot be read or its node has no width. -/
theorem Pattern.compile_eq_error_iff {caseInsensitive : Bool} {source : Text}
    {problem : PatternProblem} :
    Pattern.compile caseInsensitive source = .error problem ↔
      (∃ defect, Node.read caseInsensitive source = .error defect ∧
        problem = .malformed defect) ∨
      ∃ node, Node.read caseInsensitive source = .ok node ∧ node.minWidth = some 0 ∧
        problem = .matchesEmpty := by
  unfold Pattern.compile
  split
  · rename_i hread
    simp [hread, eq_comm]
  · rename_i node hread
    rw [hread]
    split
    · rename_i hwidth
      simp [hwidth, eq_comm]
    · rename_i hwidth
      simp [hwidth]

/-- The rule has exactly one label for each group of its pattern. -/
def Rule.LabelsFit {n : Nat} (rule : Rule n) : Prop :=
  ∀ labels, rule.emit = .groups labels → labels.length = rule.pattern.groupCount

namespace RuleTable

/-- The rules of all states. -/
def HasRule (table : RuleTable) (rule : Rule table.size) : Prop :=
  ∃ state ∈ table.states, rule ∈ state.rules

/-- The least width of every pattern of the table is right. -/
def WidthsSound (table : RuleTable) : Prop := ∀ rule, table.HasRule rule → rule.pattern.WidthSound

/-- Every pattern of the table has a least width. -/
def HasWidths (table : RuleTable) : Prop :=
  ∀ rule, table.HasRule rule → rule.pattern.node.minWidth.isSome = true

theorem HasWidths.widthsSound {table : RuleTable} (h : table.HasWidths) : table.WidthsSound :=
  fun rule hrule => Pattern.widthSound_of_isSome (h rule hrule)

/-- What is decidable of one rule is decidable of all. -/
instance decidableForallRule (table : RuleTable) (P : Rule table.size → Prop) [DecidablePred P] :
    Decidable (∀ rule, table.HasRule rule → P rule) :=
  decidable_of_iff (∀ state ∈ table.states, ∀ rule ∈ state.rules, P rule)
    ⟨fun h rule ⟨state, hstate, hrule⟩ => h state hstate rule hrule,
      fun h state hstate rule hrule => h rule ⟨state, hstate, hrule⟩⟩

instance (table : RuleTable) : Decidable table.HasWidths :=
  inferInstanceAs (Decidable (∀ rule, table.HasRule rule → _))

theorem hasRule_of_mem {table : RuleTable} {id : table.StateId} {rule : Rule table.size}
    (h : rule ∈ (table.state id).rules) : table.HasRule rule :=
  ⟨table.state id, List.get_mem _ _, h⟩

theorem labelsFit_of_compileRule {specs : List StateSpec} {state : StateSpec} {spec : RuleSpec}
    {index : Nat} {rule : Rule specs.length}
    (h : compileRule specs state spec index = .ok rule) : rule.LabelsFit := by
  obtain ⟨next, -, h⟩ := exists_of_bind_eq_ok h
  obtain ⟨pattern, -, h⟩ := exists_of_bind_eq_ok h
  obtain ⟨_, hlabels, h⟩ := exists_of_bind_eq_ok h
  obtain rfl := Except.ok.inj h
  intro labels hemit
  have hemit : spec.emit = .groups labels := hemit
  simp only [checkLabels, hemit] at hlabels
  split at hlabels
  · assumption
  · exact absurd hlabels (by simp)

/-- An accepted table passed every check of its states and holds what they were compiled to. -/
theorem exists_of_ofSpecs {specs : List StateSpec} {start : String} {table : RuleTable}
    (h : ofSpecs specs start = .ok table) :
    specs.length ≤ maxStates ∧ firstRepeated? (specs.map (·.name)) = none ∧
      ∃ id states, ∃ hstates : specs.mapM (compileState specs) = .ok states,
        idOf? specs start = some id ∧
          table = ⟨specs.length, states, length_eq_of_mapM hstates, id⟩ := by
  unfold ofSpecs at h
  split at h
  · exact absurd h (by simp)
  · rename_i hcount
    split at h
    · exact absurd h (by simp)
    · rename_i hnames
      split at h
      · exact absurd h (by simp)
      · rename_i id hid
        split at h
        · exact absurd h (by simp)
        · rename_i states hstates
          exact ⟨by omega, hnames, id, states, hstates, hid, (Except.ok.inj h).symm⟩

/-- **In an accepted table every rule has the labels its pattern needs.** -/
theorem labelsFit_of_ofSpecs {specs : List StateSpec} {start : String} {table : RuleTable}
    (h : ofSpecs specs start = .ok table) : ∀ rule, table.HasRule rule → rule.LabelsFit := by
  obtain ⟨-, -, id, states, hstates, -, rfl⟩ := exists_of_ofSpecs h
  rintro rule ⟨state, hstate, hrule⟩
  obtain ⟨spec, -, hspec⟩ := exists_of_mem_mapM hstates state hstate
  obtain ⟨rules, hrules, hspec⟩ := exists_of_bind_eq_ok hspec
  obtain rfl := Except.ok.inj hspec
  obtain ⟨x, -, hx⟩ := exists_of_mem_mapM hrules rule hrule
  exact labelsFit_of_compileRule hx

end RuleTable

end LineLexer
