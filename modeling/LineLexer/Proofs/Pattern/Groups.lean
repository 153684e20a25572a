/-
Where the groups of a match lie.

A match reports one span for each group that took part, and the spans of a match can
lie in every way the pattern's own shape allows: inside each other, or, after several
rounds of a repetition, in any order.  What is true of all patterns is that a span
lies inside the match.  Two shapes say more.

  * `InRow`: no group contains another and no repetition makes two rounds over more
    than one group.  Then the spans come one after the other, by the numbers of their
    groups.
  * `Tiled`: in addition, all that consumes stands in some group.  Then the spans leave
    nothing of the match out.

Both are read off the node, so they can be computed for the patterns of a table.
-/
import LineLexer.Proofs.Pattern.Reading

namespace LineLexer

namespace Cursor

/-- The span starts and stops on the way from `start` to `stop`. -/
def Encloses (start stop : Cursor) (s : Span) : Prop :=
  ∃ before text after, start.Passes before s.start ∧ s.start.Passes text s.stop ∧
    s.stop.Passes after stop

namespace Encloses

variable {start mid stop : Cursor} {s : Span} {read : Text}

theorem refl (h : start.Passes read stop) : start.Encloses stop ⟨start, stop⟩ :=
  ⟨[], read, [], Passes.refl _, h, Passes.refl _⟩

theorem widenLeft (h : mid.Encloses stop s) (hp : start.Passes read mid) :
    start.Encloses stop s := by
  obtain ⟨before, text, after, hbefore, htext, hafter⟩ := h
  exact ⟨read ++ before, text, after, hp.trans hbefore, htext, hafter⟩

theorem widenRight (h : start.Encloses mid s) (hp : mid.Passes read stop) :
    start.Encloses stop s := by
  obtain ⟨before, text, after, hbefore, htext, hafter⟩ := h
  exact ⟨before, text, after ++ read, hbefore, htext, hafter.trans hp⟩

theorem offset_le (h : start.Encloses stop s) :
    start.offset ≤ s.start.offset ∧ s.stop.offset ≤ stop.offset := by
  obtain ⟨before, text, after, hbefore, htext, hafter⟩ := h
  exact ⟨hbefore.offset_le, hafter.offset_le⟩

theorem text_subset (h : start.Encloses stop s) (hp : start.Passes read stop) :
    ∀ c ∈ s.text, c ∈ read := by
  obtain ⟨before, text, after, hbefore, htext, hafter⟩ := h
  have hread : read = before ++ text ++ after :=
    hp.text.symm.trans ((hbefore.trans htext).trans hafter).text
  intro c hc
  rw [htext.text] at hc
  simp [hread, hc]

end Encloses

end Cursor

theorem Captures.mem_of_lookup {closed : Captures} {index : Nat} {s : Span}
    (h : closed.lookup index = some s) : (index, s) ∈ closed := by
  obtain ⟨later, earlier, hclosed, -⟩ := List.lookup_eq_some_iff.mp h
  simp [hclosed]

namespace Node

/-- The numbers of the groups of a node, in the order in which they are opened. -/
def groups : Node → List Nat
  | empty | chars _ | look _ => []
  | seq first second | alt first second => first.groups ++ second.groups
  | .repeat body _ _ _ => body.groups
  | group index body => index :: body.groups

theorem le_groupCount {node : Node} {index : Nat} (h : index ∈ node.groups) :
    index ≤ node.groupCount := by
  induction node with
  | empty | chars _ | look _ => simp [groups] at h
  | seq first second ih ih' | alt first second ih ih' =>
      rcases List.mem_append.mp h with h | h
      · exact Nat.le_trans (ih h) (Nat.le_max_left _ _)
      · exact Nat.le_trans (ih' h) (Nat.le_max_right _ _)
  | «repeat» body _ _ _ ih => exact ih h
  | group _ body ih =>
      rcases List.mem_cons.mp h with rfl | h
      · exact Nat.le_max_left _ _
      · exact Nat.le_trans (ih h) (Nat.le_max_right _ _)

namespace Reads

variable {node : Node} {start stop : Cursor} {read : Text} {closed : Captures}

/-- Every group closed by a reading is one of the node's, and lies inside the text read. -/
theorem encloses (h : node.Reads start read closed stop) :
    ∀ index s, (index, s) ∈ closed → index ∈ node.groups ∧ start.Encloses stop s := by
  induction h with
  | empty | chars _ _ | look _ | done =>
      intro index s hmem
      simp at hmem
  | seq h h' ih ih' =>
      intro index s hmem
      rcases List.mem_append.mp hmem with hmem | hmem
      · obtain ⟨hindex, hs⟩ := ih' index s hmem
        exact ⟨List.mem_append_right _ hindex, hs.widenLeft h.passes⟩
      · obtain ⟨hindex, hs⟩ := ih index s hmem
        exact ⟨List.mem_append_left _ hindex, hs.widenRight h'.passes⟩
  | altFirst _ ih =>
      intro index s hmem
      obtain ⟨hindex, hs⟩ := ih index s hmem
      exact ⟨List.mem_append_left _ hindex, hs⟩
  | altSecond _ ih =>
      intro index s hmem
      obtain ⟨hindex, hs⟩ := ih index s hmem
      exact ⟨List.mem_append_right _ hindex, hs⟩
  | round _ h h' ih ih' =>
      intro index s hmem
      rcases List.mem_append.mp hmem with hmem | hmem
      · obtain ⟨hindex, hs⟩ := ih' index s hmem
        exact ⟨hindex, hs.widenLeft h.passes⟩
      · obtain ⟨hindex, hs⟩ := ih index s hmem
        exact ⟨hindex, hs.widenRight h'.passes⟩
  | group h ih =>
      intro index s hmem
      rcases List.mem_cons.mp hmem with heq | hmem
      · obtain ⟨rfl, rfl⟩ := Prod.mk.inj heq
        exact ⟨List.mem_cons_self, Cursor.Encloses.refl h.passes⟩
      · obtain ⟨hindex, hs⟩ := ih index s hmem
        exact ⟨List.mem_cons_of_mem _ hindex, hs⟩

theorem encloses_lookup (h : node.Reads start read closed stop) {index : Nat} {s : Span}
    (hs : closed.lookup index = some s) : index ∈ node.groups ∧ start.Encloses stop s :=
  h.encloses index s (Captures.mem_of_lookup hs)

theorem closed_eq_nil (h : node.Reads start read closed stop) (hgroups : node.groups = []) :
    closed = [] := by
  rw [List.eq_nil_iff_forall_not_mem]
  rintro ⟨index, s⟩ hmem
  have hindex := (h.encloses index s hmem).1
  simp [hgroups] at hindex

/-- A repetition without a round left reads nothing. -/
theorem of_noRounds {body : Node} {greedy : Bool}
    (h : (Node.repeat body 0 (some 0) greedy).Reads start read closed stop) :
    read = [] ∧ closed = [] ∧ start = stop := by
  cases h with
  | done => exact ⟨rfl, rfl, rfl⟩
  | round hleft _ _ => simp at hleft

/-- A repetition of at most one round reads nothing after its first one. -/
theorem of_secondRound {body : Node} {min : Nat} {max : Option Nat} {greedy : Bool}
    (honce : min ≤ 1 ∧ (max = some 0 ∨ max = some 1))
    (h : (Node.repeat body (min - 1) (max.map (· - 1)) greedy).Reads start read closed stop) :
    read = [] ∧ closed = [] ∧ start = stop := by
  have hmin : min - 1 = 0 := by omega
  have hmax : max.map (· - 1) = some 0 := by rcases honce.2 with rfl | rfl <;> rfl
  rw [hmin, hmax] at h
  exact h.of_noRounds

end Reads

/-! ### Groups in a row -/

/-- The groups of the node close one after the other, by their numbers. -/
def InRow : Node → Prop
  | empty | chars _ | look _ => True
  | seq first second =>
    first.InRow ∧ second.InRow ∧ ∀ i ∈ first.groups, ∀ j ∈ second.groups, i < j
  | alt first second => first.InRow ∧ second.InRow
  | .repeat body min max _ =>
    body.InRow ∧ (body.groups.length ≤ 1 ∨ min ≤ 1 ∧ (max = some 0 ∨ max = some 1))
  | group _ body => body.groups = []

instance decidableInRow : (node : Node) → Decidable node.InRow
  | empty | chars _ | look _ => inferInstanceAs (Decidable True)
  | seq first second =>
    have := decidableInRow first
    have := decidableInRow second
    inferInstanceAs (Decidable (_ ∧ _ ∧ _))
  | alt first second =>
    have := decidableInRow first
    have := decidableInRow second
    inferInstanceAs (Decidable (_ ∧ _))
  | .repeat body _ _ _ =>
    have := decidableInRow body
    inferInstanceAs (Decidable (_ ∧ _))
  | group _ body => inferInstanceAs (Decidable (body.groups = []))

/-- A node with one group closes no other. -/
theorem Reads.eq_of_oneGroup {node : Node} {start stop : Cursor} {read : Text} {closed : Captures}
    (h : node.Reads start read closed stop) (hone : node.groups.length ≤ 1) {i j : Nat} {s t : Span}
    (hs : closed.lookup i = some s) (ht : closed.lookup j = some t) : i = j := by
  have hi := (h.encloses_lookup hs).1
  have hj := (h.encloses_lookup ht).1
  match hg : node.groups, hone with
  | [], _ => simp [hg] at hi
  | [k], _ =>
      rw [hg, List.mem_singleton] at hi hj
      rw [hi, hj]

/-- **Groups in a row close one after the other, by their numbers.** -/
theorem Reads.inRow {node : Node} {start stop : Cursor} {read : Text} {closed : Captures}
    (h : node.Reads start read closed stop) (hrow : node.InRow) :
    ∀ i j s t, i < j → closed.lookup i = some s → closed.lookup j = some t →
      s.stop.offset ≤ t.start.offset := by
  induction h with
  | empty | chars _ _ | look _ | done =>
      intro i j s t _ hs
      simp at hs
  | @seq first second _ _ _ _ _ closed later h h' ih ih' =>
      obtain ⟨hfirst, hsecond, hlt⟩ := hrow
      intro i j s t hij hs ht
      rw [List.lookup_append] at hs ht
      -- A number found among the later captures belongs to the second part, otherwise to the first.
      cases hs' : later.lookup i with
      | some s' =>
          obtain rfl : s' = s := by simpa [hs'] using hs
          have hi := (h'.encloses_lookup hs').1
          cases ht' : later.lookup j with
          | some t' =>
              obtain rfl : t' = t := by simpa [ht'] using ht
              exact ih' hsecond i j _ _ hij hs' ht'
          | none =>
              have hj := (h.encloses_lookup (by simpa [ht'] using ht)).1
              have := hlt j hj i hi
              omega
      | none =>
          have hs : closed.lookup i = some s := by simpa [hs'] using hs
          cases ht' : later.lookup j with
          | some t' =>
              obtain rfl : t' = t := by simpa [ht'] using ht
              have hleft := (h.encloses_lookup hs).2.offset_le
              have hright := (h'.encloses_lookup ht').2.offset_le
              omega
          | none => exact ih hfirst i j s t hij hs (by simpa [ht'] using ht)
  | altFirst _ ih => exact ih hrow.1
  | altSecond _ ih => exact ih hrow.2
  | @round body _ _ _ _ _ _ _ _ closed later hleft h h' ih _ =>
      intro i j s t hij hs ht
      rcases hrow.2 with hone | honce
      · have heq : i = j := (Reads.round hleft h h').eq_of_oneGroup hone hs ht
        omega
      · obtain ⟨-, rfl, -⟩ := Reads.of_secondRound honce h'
        exact ih hrow.1 i j s t hij (by simpa using hs) (by simpa using ht)
  | @group index body _ _ _ closed h _ =>
      intro i j s t hij hs ht
      have hbody : body.groups = [] := hrow
      have hone : (Node.group index body).groups.length ≤ 1 := by simp [groups, hbody]
      have heq : i = j := (Reads.group h).eq_of_oneGroup hone hs ht
      omega

/-! ### Groups that leave nothing out -/

/-- All that consumes something stands in a group, and no group is used twice. -/
def Tiled : Node → Prop
  | empty | look _ => True
  | chars _ => False
  | seq first second | alt first second => first.Tiled ∧ second.Tiled
  | .repeat body min max _ => body.Tiled ∧ min ≤ 1 ∧ (max = some 0 ∨ max = some 1)
  | group _ _ => True

instance decidableTiled : (node : Node) → Decidable node.Tiled
  | empty | look _ | group _ _ => inferInstanceAs (Decidable True)
  | chars _ => inferInstanceAs (Decidable False)
  | seq first second | alt first second =>
    have := decidableTiled first
    have := decidableTiled second
    inferInstanceAs (Decidable (_ ∧ _))
  | .repeat body _ _ _ =>
    have := decidableTiled body
    inferInstanceAs (Decidable (_ ∧ _))

/-- **Groups in a row that hold all that consumes leave nothing out.** -/
theorem Reads.tiled {node : Node} {start stop : Cursor} {read : Text} {closed : Captures}
    (h : node.Reads start read closed stop) (hrow : node.InRow) (htiled : node.Tiled) :
    ∀ i, start.offset ≤ i → i < stop.offset →
      ∃ index s, closed.lookup index = some s ∧ s.Covers i := by
  induction h with
  | empty | look _ | done =>
      intro i hle hlt
      omega
  | chars _ _ => exact htiled.elim
  | @seq first second _ mid _ _ _ closed later h h' ih ih' =>
      intro i hle hlt
      by_cases hmid : i < mid.offset
      · obtain ⟨index, s, hs, hcov⟩ := ih hrow.1 htiled.1 i hle hmid
        refine ⟨index, s, ?_, hcov⟩
        -- The second part has no group of this number that could hide the first one's.
        have hnone : later.lookup index = none := by
          rw [Option.eq_none_iff_forall_ne_some]
          intro t ht
          have := hrow.2.2 index (h.encloses_lookup hs).1 index (h'.encloses_lookup ht).1
          omega
        rw [List.lookup_append, hnone, hs]
        rfl
      · obtain ⟨index, s, hs, hcov⟩ := ih' hrow.2.1 htiled.2 i (by omega) hlt
        exact ⟨index, s, by rw [List.lookup_append, hs]; rfl, hcov⟩
  | altFirst _ ih => exact ih hrow.1 htiled.1
  | altSecond _ ih => exact ih hrow.2 htiled.2
  | round _ h h' ih _ =>
      intro i hle hlt
      obtain ⟨-, rfl, rfl⟩ := Reads.of_secondRound htiled.2 h'
      exact ih hrow.1 htiled.1 i hle hlt
  | @group index body start stop _ closed h _ =>
      intro i hle hlt
      exact ⟨index, ⟨start, stop⟩, by simp, hle, hlt⟩

end Node

end LineLexer
