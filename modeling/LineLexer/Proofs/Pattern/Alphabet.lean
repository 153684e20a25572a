/-
Which characters a match can hold.

A reading takes a character only as a member of one of the sets of its node, so what all
those sets have in common holds of the whole text read.  Being ASCII is such a property,
and whether the sets of a node have it can be computed from their ranges.
-/
import LineLexer.Proofs.Pattern.Groups

namespace LineLexer

/-- The set holds only ASCII characters. -/
def CharSet.IsAscii (set : CharSet) : Prop := ∀ r ∈ set.ranges, r.hi < 128

instance (set : CharSet) : Decidable set.IsAscii :=
  inferInstanceAs (Decidable (∀ r ∈ set.ranges, r.hi < 128))

theorem CharSet.IsAscii.toNat_lt {set : CharSet} (h : set.IsAscii) {c : Char}
    (hc : set.contains c = true) : c.toNat < 128 := by
  obtain ⟨r, hr, hin⟩ := List.any_eq_true.mp hc
  have hhi := h r hr
  simp only [CharRange.contains, Bool.and_eq_true, decide_eq_true_eq] at hin
  omega

namespace Node

/-- The sets from which the node takes its characters. -/
def sets : Node → List CharSet
  | empty | look _ => []
  | chars set => [set]
  | seq first second | alt first second => first.sets ++ second.sets
  | .repeat body _ _ _ | group _ body => body.sets

/-- All sets of the node hold only ASCII characters. -/
def IsAscii (node : Node) : Prop := ∀ set ∈ node.sets, set.IsAscii

instance (node : Node) : Decidable node.IsAscii :=
  inferInstanceAs (Decidable (∀ set ∈ node.sets, set.IsAscii))

variable {node : Node} {start stop : Cursor} {read : Text} {closed : Captures}

/-- **Every character read comes from a set of the node.** -/
theorem Reads.exists_set (h : node.Reads start read closed stop) :
    ∀ c ∈ read, ∃ set ∈ node.sets, set.contains c = true := by
  induction h with
  | empty | look _ | done =>
      intro c hc
      simp at hc
  | @chars set _ _ _ _ hmem =>
      intro c hc
      obtain rfl := List.mem_singleton.mp hc
      exact ⟨set, by simp [sets], hmem⟩
  | seq _ _ ih ih' =>
      intro c hc
      rcases List.mem_append.mp hc with hc | hc
      · obtain ⟨set, hset, hmem⟩ := ih c hc
        exact ⟨set, List.mem_append_left _ hset, hmem⟩
      · obtain ⟨set, hset, hmem⟩ := ih' c hc
        exact ⟨set, List.mem_append_right _ hset, hmem⟩
  | altFirst _ ih =>
      intro c hc
      obtain ⟨set, hset, hmem⟩ := ih c hc
      exact ⟨set, List.mem_append_left _ hset, hmem⟩
  | altSecond _ ih =>
      intro c hc
      obtain ⟨set, hset, hmem⟩ := ih c hc
      exact ⟨set, List.mem_append_right _ hset, hmem⟩
  | round _ _ _ ih ih' =>
      intro c hc
      rcases List.mem_append.mp hc with hc | hc
      · exact ih c hc
      · exact ih' c hc
  | group _ ih => exact ih

theorem Reads.toNat_lt_of_isAscii (h : node.Reads start read closed stop) (hascii : node.IsAscii) :
    ∀ c ∈ read, c.toNat < 128 := by
  intro c hc
  obtain ⟨set, hset, hmem⟩ := h.exists_set c hc
  exact (hascii set hset).toNat_lt hmem

end Node

end LineLexer
