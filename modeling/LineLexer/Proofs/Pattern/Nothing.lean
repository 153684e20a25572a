/-
Patterns that can match nothing.

A rule that matches nothing leaves the lexer where it is, so such patterns are to be kept
out of a table.  What the table looks at is the least width of the pattern, and that is
nearly the same thing but not quite.  A pattern has no least width at all as soon as one
of its sets holds no character, even where that set can be left out
(`minWidth_eq_none_iff`); and the least width takes every assertion for granted, even where
two of them cannot hold at one place.

Apart from these, the least width is zero exactly if the pattern can match nothing
(`Ordinary.minWidth_eq_zero_iff`).
-/
import LineLexer.Proofs.Pattern.Alike
import LineLexer.Proofs.Pattern.Starts

namespace LineLexer.Node

variable {node : Node} {cur : Cursor}

/-- Somewhere the node can be read without consuming anything. -/
def MatchesNothing (node : Node) : Prop := ∃ cur closed, node.Reads cur [] closed cur

/-- A match that consumes nothing. -/
theorem matchesNothing_of_matchAt? {found : Match} (h : node.matchAt? cur = some found)
    (hstop : found.stop = cur) : node.MatchesNothing := by
  obtain ⟨read, hread⟩ := matchAt?_reads h
  obtain rfl : read = [] := by
    have hrem := hread.passes.remaining
    rw [hstop] at hrem
    exact List.length_eq_zero_iff.mp (by omega)
  exact ⟨cur, found.captures, by rwa [hstop] at hread⟩

/-- A set without characters takes the least width away, wherever it stands. -/
theorem minWidth_eq_none_iff :
    node.minWidth = none ↔ ∃ set ∈ node.sets, set.isEmpty = true := by
  induction node with
  | empty | look _ => simp [minWidth, sets]
  | chars set => simp [minWidth, sets]
  | seq first second ih ih' | alt first second ih ih' =>
      simp only [minWidth, sets, List.mem_append, or_and_right, exists_or, ← ih, ← ih']
      cases first.minWidth <;> cases second.minWidth <;> simp
  | «repeat» body min max greedy ih => simp [minWidth, sets, ih]
  | group index body ih => exact ih

/-- **Where all its assertions hold, a node of least width zero can be read as nothing.** -/
theorem exists_reads_nil (h : node.minWidth = some 0)
    (hlooks : ∀ demand ∈ node.looks, demand.holds cur = true) :
    ∃ closed, node.Reads cur [] closed cur := by
  induction node with
  | empty => exact ⟨[], Reads.empty⟩
  | chars set => simp [minWidth] at h
  | look demand => exact ⟨[], Reads.look (hlooks demand (List.mem_singleton_self demand))⟩
  | seq first second ih ih' =>
      obtain ⟨hfirst, hsecond⟩ : first.minWidth = some 0 ∧ second.minWidth = some 0 := by
        simp only [minWidth] at h
        split at h <;> simp_all
      obtain ⟨closed, hread⟩ := ih hfirst fun demand hmem =>
        hlooks demand (List.mem_append_left _ hmem)
      obtain ⟨later, hmore⟩ := ih' hsecond fun demand hmem =>
        hlooks demand (List.mem_append_right _ hmem)
      exact ⟨later ++ closed, hread.seq hmore⟩
  | alt first second ih ih' =>
      have hzero : first.minWidth = some 0 ∨ second.minWidth = some 0 := by
        simp only [minWidth] at h
        split at h
        · rename_i m n hm hn
          have hmin : Min.min m n = 0 := Option.some.inj h
          rcases Nat.min_eq_zero_iff.mp hmin with rfl | rfl
          · exact Or.inl hm
          · exact Or.inr hn
        · exact absurd h (by simp)
      rcases hzero with hzero | hzero
      · obtain ⟨closed, hread⟩ := ih hzero fun demand hmem =>
          hlooks demand (List.mem_append_left _ hmem)
        exact ⟨closed, hread.altFirst⟩
      · obtain ⟨closed, hread⟩ := ih' hzero fun demand hmem =>
          hlooks demand (List.mem_append_right _ hmem)
        exact ⟨closed, hread.altSecond⟩
  | «repeat» body min max greedy ih =>
      obtain ⟨width, hwidth, hzero⟩ := Option.map_eq_some_iff.mp h
      -- Either no round is needed, or the rounds that are needed can all be empty.
      clear h
      induction min generalizing max with
      | zero => exact ⟨[], Reads.done⟩
      | succ min ihmin =>
          have hbody : body.minWidth = some 0 := by
            rw [hwidth, (Nat.mul_eq_zero.mp hzero).resolve_right (by omega)]
          obtain ⟨closed, hread⟩ := ih hbody hlooks
          obtain ⟨later, hmore⟩ := ihmin (max.map (· - 1)) hlooks (by
            rw [(Nat.mul_eq_zero.mp hzero).resolve_right (by omega), Nat.zero_mul])
          exact ⟨later ++ closed, Reads.round (Or.inl (by omega)) hread hmore⟩
  | group index body ih =>
      obtain ⟨closed, hread⟩ := ih h hlooks
      exact ⟨_, hread.group⟩

/-- Every set of the node has a character, and its assertions can hold at one place if it is to
match nothing there. -/
structure Ordinary (node : Node) : Prop where
  sets : ∀ set ∈ node.sets, set.isEmpty = false
  looks : node.minWidth = some 0 → ∃ cur, ∀ demand ∈ node.looks, demand.holds cur = true

/-- **An ordinary pattern can match nothing exactly if its least width is zero.** -/
theorem Ordinary.minWidth_eq_zero_iff (h : node.Ordinary) :
    node.minWidth = some 0 ↔ node.MatchesNothing := by
  constructor
  · intro hzero
    obtain ⟨cur, hlooks⟩ := h.looks hzero
    obtain ⟨closed, hread⟩ := exists_reads_nil hzero hlooks
    exact ⟨cur, closed, hread⟩
  · rintro ⟨cur, closed, hread⟩
    cases hwidth : node.minWidth with
    | none =>
        obtain ⟨set, hmem, hempty⟩ := minWidth_eq_none_iff.mp hwidth
        rw [h.sets set hmem] at hempty
        exact Bool.noConfusion hempty
    | some width =>
        have hle : width ≤ 0 := hread.minWidth_le width hwidth
        rw [Nat.le_zero.mp hle]

end LineLexer.Node
