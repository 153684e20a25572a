/-
How much a match consumes.

A rule must never match nothing, or the lexer would stand still.  What is checked of a
pattern before it goes into a table is its least width, and what has to hold when the
table runs is that a match passes at least one character.  `minWidth_le` connects the
two: no reading is narrower than the least width of the node.

A node without a least width is the one case the check lets through unseen.  It is
taken to match nowhere, and the widths of such a pattern are right exactly when that is
so (`WidthSound`).
-/
import LineLexer.Pattern
import LineLexer.Proofs.Pattern.Reading

namespace LineLexer

/-- No reading is narrower than the least width of its node. -/
theorem Node.Reads.minWidth_le {node : Node} {start stop : Cursor} {read : Text}
    {closed : Captures} (h : node.Reads start read closed stop) :
    ∀ width, node.minWidth = some width → width ≤ read.length := by
  induction h with
  | empty | look _ | done =>
      intro width hw
      simp [minWidth] at hw
      omega
  | chars _ _ =>
      intro width hw
      simp only [minWidth] at hw
      split at hw
      · exact absurd hw (by simp)
      · simp at hw
        simp [← hw]
  | @seq first second _ _ _ _ _ _ _ _ _ ih ih' =>
      intro width hw
      simp only [minWidth] at hw
      split at hw
      · rename_i m n hm hn
        have := ih m hm
        have := ih' n hn
        simp at hw
        rw [List.length_append]
        omega
      · exact absurd hw (by simp)
  | altFirst _ ih =>
      intro width hw
      simp only [minWidth] at hw
      split at hw
      · rename_i m n hm hn
        have := ih m hm
        simp at hw
        omega
      · exact absurd hw (by simp)
  | altSecond _ ih =>
      intro width hw
      simp only [minWidth] at hw
      split at hw
      · rename_i m n hm hn
        have := ih n hn
        simp at hw
        omega
      · exact absurd hw (by simp)
  | @round body min _ _ _ _ _ _ _ _ _ _ _ _ ih ih' =>
      intro width hw
      obtain ⟨m, hm, rfl⟩ := Option.map_eq_some_iff.mp hw
      have hfirst := ih m hm
      have hrest : m * (min - 1) ≤ _ := ih' (m * (min - 1)) (by simp [minWidth, hm])
      rw [List.length_append]
      cases min with
      | zero => simp
      | succ n =>
          rw [Nat.mul_succ]
          simp only [Nat.add_sub_cancel] at hrest
          omega
  | group _ ih => exact ih

/-! ### Patterns whose least width is right -/

namespace Pattern

/-- The least width is right: whatever the pattern matches is at least that wide, and a pattern
without one matches nowhere. -/
def WidthSound (p : Pattern) : Prop :=
  ∀ (cur : Cursor) (found : Match), p.matchAt? cur = some found →
    ∃ width, p.node.minWidth = some width ∧ width + found.stop.remaining ≤ cur.remaining

/-- A pattern that has a least width has the right one. -/
theorem widthSound_of_isSome {p : Pattern} (h : p.node.minWidth.isSome = true) : p.WidthSound := by
  intro cur found hfound
  obtain ⟨width, hw⟩ := Option.isSome_iff_exists.mp h
  obtain ⟨read, hread⟩ := Node.matchAt?_reads hfound
  have hle := hread.minWidth_le width hw
  have hrem := hread.passes.remaining
  exact ⟨width, hw, by omega⟩

/-- A match of a pattern whose least width is right passes at least one character. -/
theorem WidthSound.advances {p : Pattern} (hp : p.WidthSound) {cur : Cursor} {found : Match}
    (h : p.matchAt? cur = some found) : found.stop.remaining < cur.remaining := by
  obtain ⟨width, hw, hle⟩ := hp cur found h
  have hne : width ≠ 0 := fun h0 => p.minWidth_ne_zero (by rw [hw, h0])
  omega

end Pattern

end LineLexer
