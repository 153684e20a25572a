/-
Picking out tokens before and after coalescing.

Whoever drops the tokens between two others makes the two neighbours, and neighbours may
merge.  Tokens that are in order and not empty are safe from that: one that starts where
an earlier one stops leaves no room between them, so they were neighbours before
(`Laid.getLast?_eq`).  Hence picking out some categories and coalescing can be done in
either order (`filter_coalesce`).

Coalescing draws one token after the other, so the argument is about one token more.  What
carries it is that what was drawn, followed by what is still to come, is laid out like the
tokens were at first (`Laid.coalesce`).

What is read off the tokens piece by piece, such as their text, is the same for what was
drawn, because a token made of two holds what the two held (`flatMap_coalesce`).
-/
import LineLexer.Proofs.Line.Order
import LineLexer.Proofs.Token.Coalesce

namespace LineLexer.Token

/-- The tokens are slices of the line, none of them empty, one after the other. -/
structure Laid (line : Text) (tokens : List Token) : Prop where
  slices : ∀ t ∈ tokens, t.IsSliceOf line
  nonempty : ∀ t ∈ tokens, t.text ≠ []
  ordered : tokens.Pairwise Token.Before

variable {line : Text} {t u : Token} {before earlier rest tokens : List Token}

theorem start_lt_stop (h : t.text ≠ []) : t.start < t.stop :=
  Nat.lt_add_of_pos_right (Text.byteLength_pos h)

namespace Laid

/-- Two tokens of which the second goes on where the first stops may be drawn as one. -/
theorem join (h : Laid line (earlier ++ u :: t :: rest)) (hcontinues : u.Continues t) :
    Laid line (earlier ++ u.join t :: rest) := by
  obtain ⟨hslices, hnonempty, hordered⟩ := h
  simp only [List.forall_mem_append, List.forall_mem_cons] at hslices hnonempty
  simp only [List.pairwise_append, List.pairwise_cons, List.forall_mem_cons] at hordered
  obtain ⟨hearlier, hu, ht, hrest⟩ := hslices
  obtain ⟨hearlierOrder, ⟨-, htRest, hrestOrder⟩, hacross⟩ := hordered
  refine ⟨?_, ?_, ?_⟩
  · simp only [List.forall_mem_append, List.forall_mem_cons]
    exact ⟨hearlier, hu.join ht hcontinues, hrest⟩
  · simp only [List.forall_mem_append, List.forall_mem_cons]
    refine ⟨hnonempty.1, ?_, hnonempty.2.2.2⟩
    show u.text ++ t.text ≠ []
    simp [hnonempty.2.1]
  · simp only [List.pairwise_append, List.pairwise_cons, List.forall_mem_cons]
    refine ⟨hearlierOrder, ⟨?_, hrestOrder⟩, ?_⟩
    · intro v hv
      rw [Token.Before, stop_join hcontinues]
      exact htRest v hv
    · intro v hv
      exact ⟨(hacross v hv).1, (hacross v hv).2.2⟩

/-- One more token drawn leaves the layout as it was. -/
theorem pushMerged (h : Laid line (before ++ t :: rest)) :
    Laid line (pushMerged line before t ++ rest) := by
  have hslices := h.slices
  simp only [List.forall_mem_append, List.forall_mem_cons] at hslices
  rcases pushMerged_cases hslices.1 hslices.2.1 with ⟨earlier, u, rfl, hu, hpush⟩ | ⟨-, hpush⟩
  · rw [List.append_assoc] at h
    rw [hpush, List.append_assoc]
    exact h.join hu
  · rw [hpush, List.append_assoc]
    exact h

/-- **What was drawn, with what is still to come, is laid out like the tokens were.** -/
theorem coalesce (h : Laid line (tokens ++ rest)) : Laid line (coalesce line tokens ++ rest) := by
  induction tokens using List.reverseRecOn generalizing rest with
  | nil => exact h
  | append_singleton tokens t ih =>
      rw [List.append_assoc] at h
      rw [coalesce_concat]
      exact (ih h).pushMerged

/-- No token has room between one and the token that starts where it stops. -/
theorem getLast?_eq (h : Laid line (before ++ [t])) (hu : u ∈ before) (hstop : u.stop = t.start) :
    before.getLast? = some u := by
  obtain ⟨earlier, later, rfl⟩ := List.append_of_mem hu
  cases later with
  | nil => exact List.getLast?_concat
  | cons v later =>
      obtain ⟨hbefore, -, hacross⟩ := List.pairwise_append.mp h.ordered
      have huv : u.Before v :=
        List.rel_of_pairwise_cons (List.pairwise_append.mp hbefore).2.1 (by simp)
      have hvt : v.Before t := hacross v (by simp) t (by simp)
      have hv := start_lt_stop (h.nonempty v (by simp))
      unfold Token.Before at huv hvt
      omega

end Laid

/-! ### Some categories only -/

variable {keep : Category → Bool}

/-- The tokens picked out, when one more comes. -/
theorem filter_concat (tokens : List Token) (t : Token) :
    (tokens ++ [t]).filter (keep ·.category) =
      if keep t.category then tokens.filter (keep ·.category) ++ [t]
      else tokens.filter (keep ·.category) := by
  by_cases hkeep : keep t.category = true
  · simp [hkeep]
  · simp [hkeep]

/-- One more token is drawn after the tokens picked out as it is after all of them. -/
theorem filter_pushMerged (h : Laid line (before ++ [t])) :
    (pushMerged line before t).filter (keep ·.category) =
      if keep t.category then pushMerged line (before.filter (keep ·.category)) t
      else before.filter (keep ·.category) := by
  obtain ⟨hbefore, ht⟩ := forall_mem_concat.mp h.slices
  rcases pushMerged_cases hbefore ht with ⟨earlier, u, rfl, hu, hpush⟩ | ⟨hnot, hpush⟩
  · -- The longer token has the category of both, so it is picked out if they are.
    have hcategory : (u.join t).category = u.category := rfl
    rw [hpush, filter_concat, filter_concat, hcategory, hu.1]
    by_cases hkeep : keep t.category = true
    · rw [if_pos hkeep, if_pos hkeep, if_pos hkeep]
      exact (pushMerged_of_continues (forall_mem_concat.mp hbefore).2 ht hu).symm
    · rw [if_neg hkeep, if_neg hkeep, if_neg hkeep]
  · rw [hpush, filter_concat]
    by_cases hkeep : keep t.category = true
    · rw [if_pos hkeep, if_pos hkeep]
      refine (pushMerged_of_not_continues ?_).symm
      intro u hu hcontinues
      have hmem := (List.mem_filter.mp (List.mem_of_getLast? hu)).1
      exact hnot u (h.getLast?_eq hmem hcontinues.2) hcontinues
    · rw [if_neg hkeep, if_neg hkeep]

/-- **Picking out categories and coalescing commute** where tokens are laid out in order. -/
theorem filter_coalesce (h : Laid line tokens) (keep : Category → Bool) :
    (coalesce line tokens).filter (keep ·.category) =
      coalesce line (tokens.filter (keep ·.category)) := by
  induction tokens using List.reverseRecOn with
  | nil => rfl
  | append_singleton tokens t ih =>
      have hbefore : Laid line tokens :=
        ⟨(forall_mem_concat.mp h.slices).1, (forall_mem_concat.mp h.nonempty).1,
          (List.pairwise_append.mp h.ordered).1⟩
      rw [coalesce_concat, filter_pushMerged h.coalesce, ih hbefore, filter_concat]
      by_cases hkeep : keep t.category = true
      · rw [if_pos hkeep, if_pos hkeep, coalesce_concat]
      · rw [if_neg hkeep, if_neg hkeep]

-- An empty token keeps its neighbours apart only as long as it is there.
example :
    (coalesce "ab".toList [⟨.string, 0, ['a']⟩, ⟨.escape, 1, []⟩, ⟨.string, 1, ['b']⟩]).filter
        (·.category == .string) = [⟨.string, 0, ['a']⟩, ⟨.string, 1, ['b']⟩] ∧
      coalesce "ab".toList
        ([⟨.string, 0, ['a']⟩, ⟨.escape, 1, []⟩, ⟨.string, 1, ['b']⟩].filter
          (·.category == .string)) = [⟨.string, 0, ['a', 'b']⟩] := by
  decide

/-! ### What the tokens hold -/

/-- What is read off tokens piece by piece is the same for what was drawn. -/
theorem flatMap_coalesce {α : Type} {f : Token → List α}
    (hjoin : ∀ a b : Token, a.Continues b → f (a.join b) = f a ++ f b)
    (h : ∀ t ∈ tokens, t.IsSliceOf line) : (coalesce line tokens).flatMap f = tokens.flatMap f := by
  induction tokens using List.reverseRecOn with
  | nil => rfl
  | append_singleton tokens t ih =>
      obtain ⟨htokens, ht⟩ := forall_mem_concat.mp h
      rw [coalesce_concat, List.flatMap_append, List.flatMap_singleton, ← ih htokens]
      rcases pushMerged_cases (isSliceOf_coalesce htokens) ht with
        ⟨earlier, u, hdrawn, hu, hpush⟩ | ⟨-, hpush⟩
      · rw [hpush, hdrawn, List.flatMap_append, List.flatMap_append, List.flatMap_singleton,
          List.flatMap_singleton, hjoin u t hu, List.append_assoc]
      · rw [hpush, List.flatMap_append, List.flatMap_singleton]

/-- The numbers of the bytes of the line that the token holds. -/
def bytes (t : Token) : List Nat := List.range' t.start t.text.byteLength

theorem bytes_join {a b : Token} (h : a.Continues b) : (a.join b).bytes = a.bytes ++ b.bytes := by
  have hstop : a.start + a.text.byteLength = b.start := h.2
  show List.range' a.start (a.text ++ b.text).byteLength = _
  rw [Text.byteLength_append, bytes, bytes, ← hstop, List.range'_append_1]

end LineLexer.Token
