/-
Runs of quotes.

Between quotes a quote is written twice, so a reader takes quotes two by two from the
left and stops at one that is left over.  Where that is can be told without reading: it
is the last quote of the first longest run of quotes that are odd in number.

The two are linked by `Paired`, what the reader gets through without stopping.  A text is
paired exactly if all its runs are even (`paired_iff`), and what comes before the last
quote of the first odd run is paired (`ClosingRun.paired`).
-/
import LineLexer.Text.Basic
import Mathlib.Data.List.Induction

namespace LineLexer.Text

variable {line text before rest : Text} {k : Nat} {c : Char}

/-- A stretch of `k` quotes that is as long as it can be, between `before` and `rest`. -/
structure QuoteRun (line before : Text) (k : Nat) (rest : Text) : Prop where
  split : line = before ++ List.replicate k '\'' ++ rest
  noneBefore : before.getLast? ≠ some '\''
  noneAfter : rest.head? ≠ some '\''

/-- The first run of quotes that are odd in number. -/
structure ClosingRun (line before : Text) (k : Nat) (rest : Text) : Prop
    extends QuoteRun line before k rest where
  odd : k % 2 = 1
  first : ∀ before' k' rest', QuoteRun line before' k' rest' → k' % 2 = 1 →
    before.length ≤ before'.length

/-- A text whose quotes come in pairs when they are taken two by two from the left. -/
inductive Paired : Text → Prop
  | nil : Paired []
  | pair {rest : Text} (h : Paired rest) : Paired ('\'' :: '\'' :: rest)
  | other {c : Char} {rest : Text} (hc : c ≠ '\'') (h : Paired rest) : Paired (c :: rest)

namespace Paired

theorem append (h : Paired text) (h' : Paired rest) : Paired (text ++ rest) := by
  induction h with
  | nil => exact h'
  | pair _ ih => exact pair ih
  | other hc _ ih => exact other hc ih

/-- Quotes that are even in number are paired. -/
theorem replicate (j : Nat) : Paired (List.replicate (2 * j) '\'') := by
  induction j with
  | zero => exact nil
  | succ j ih => exact pair ih

end Paired

/-! ### Paired texts and even runs -/

/-- A run that does not start the line is a run of what follows the first character. -/
theorem QuoteRun.tail {d : Char} (h : QuoteRun (c :: line) (d :: before) k rest) :
    QuoteRun line before k rest := by
  refine ⟨(List.cons.inj h.split).2, fun hlast => h.noneBefore ?_, h.noneAfter⟩
  rw [List.getLast?_cons, hlast]
  rfl

/-- **In a paired text all runs are even.** -/
theorem Paired.even_of_quoteRun (h : Paired text) (hrun : QuoteRun text before k rest) :
    k % 2 = 0 := by
  induction h generalizing before k with
  | nil =>
      obtain ⟨hnil, -⟩ := List.append_eq_nil_iff.mp hrun.split.symm
      obtain ⟨-, hnone⟩ := List.append_eq_nil_iff.mp hnil
      rw [(List.replicate_eq_nil_iff _).mp hnone]
  | @pair text _ ih =>
      cases before with
      | nil =>
          match k with
          | 0 => rfl
          | 1 => exact absurd (congrArg List.head? (List.cons.inj hrun.split).2).symm hrun.noneAfter
          | k + 2 =>
              have hsplit : text = [] ++ List.replicate k '\'' ++ rest :=
                (List.cons.inj (List.cons.inj hrun.split).2).2
              have heven := ih ⟨hsplit, by simp, hrun.noneAfter⟩
              omega
      | cons d before =>
          have hrun' := hrun.tail
          cases before with
          | nil =>
              obtain rfl := (List.cons.inj hrun.split).1
              exact absurd rfl hrun.noneBefore
          | cons d before => exact ih hrun'.tail
  | other hc _ ih =>
      cases before with
      | nil =>
          cases k with
          | zero => rfl
          | succ k => exact absurd (List.cons.inj hrun.split).1 hc
      | cons d before => exact ih hrun.tail

/-- Taking quotes two by two either gets through a text or stops at a single quote. -/
theorem paired_or_stops : (text : Text) →
    Paired text ∨
      ∃ body rest, text = body ++ '\'' :: rest ∧ Paired body ∧ rest.head? ≠ some '\''
  | [] => Or.inl .nil
  | [c] => by
      by_cases hc : c = '\''
      · exact Or.inr ⟨[], [], by rw [hc]; rfl, .nil, by simp⟩
      · exact Or.inl (.other hc .nil)
  | c :: d :: text => by
      by_cases hc : c = '\''
      · subst hc
        by_cases hd : d = '\''
        · subst hd
          rcases paired_or_stops text with h | ⟨body, rest, rfl, hbody, hrest⟩
          · exact Or.inl (.pair h)
          · exact Or.inr ⟨'\'' :: '\'' :: body, rest, rfl, .pair hbody, hrest⟩
        · exact Or.inr ⟨[], d :: text, rfl, .nil, by simpa using hd⟩
      · rcases paired_or_stops (d :: text) with h | ⟨body, rest, hsplit, hbody, hrest⟩
        · exact Or.inl (.other hc h)
        · exact Or.inr ⟨c :: body, rest, by rw [hsplit]; rfl, .other hc hbody, hrest⟩

/-- A text ends with a run of quotes, which may be empty. -/
theorem exists_last_run (text : Text) : ∃ before k, QuoteRun text before k [] := by
  induction text using List.reverseRecOn with
  | nil => exact ⟨[], 0, rfl, by simp, by simp⟩
  | append_singleton text c ih =>
      by_cases hc : c = '\''
      · obtain ⟨before, k, hrun⟩ := ih
        refine ⟨before, k + 1, ?_, hrun.noneBefore, hrun.noneAfter⟩
        rw [hrun.split, hc, List.replicate_succ']
        simp
      · exact ⟨text ++ [c], 0, by simp, by simpa using hc, by simp⟩

/-- **A text is paired exactly if all its runs are even.** -/
theorem paired_iff :
    Paired text ↔ ∀ before k rest, QuoteRun text before k rest → k % 2 = 0 := by
  constructor
  · exact fun h _ _ _ => h.even_of_quoteRun
  · intro heven
    rcases paired_or_stops text with h | ⟨body, rest, rfl, hbody, hrest⟩
    · exact h
    · -- The quote that is left over makes the run before it odd.
      obtain ⟨before, k, hrun⟩ := exists_last_run body
      have hbefore := hbody.even_of_quoteRun hrun
      have hodd := heven before (k + 1) rest ⟨by
        rw [hrun.split, List.replicate_succ']
        simp, hrun.noneBefore, hrest⟩
      omega

/-! ### The first odd run -/

/-- **What comes before the last quote of the first odd run is paired.** -/
theorem ClosingRun.paired (h : ClosingRun line before k rest) :
    Paired (before ++ List.replicate (k - 1) '\'') := by
  have hbefore : Paired before := by
    refine paired_iff.mpr fun before' k' rest' hrun => ?_
    by_contra hodd
    -- An odd run of `before` would be one of the line, and start earlier.
    have hk : k' ≠ 0 := by
      rintro rfl
      exact hodd rfl
    have hrest : rest' ≠ [] := by
      rintro rfl
      refine h.noneBefore ?_
      rw [hrun.split]
      simp [List.getLast?_append, List.getLast?_replicate, hk]
    have hline : QuoteRun line before' k' (rest' ++ List.replicate k '\'' ++ rest) := by
      refine ⟨by rw [h.split, hrun.split]; simp, hrun.noneBefore, ?_⟩
      obtain ⟨d, more, rfl⟩ := List.exists_cons_of_ne_nil hrest
      exact hrun.noneAfter
    have hle := h.first _ _ _ hline (by omega)
    have hlength := congrArg List.length hrun.split
    simp only [List.length_append, List.length_replicate] at hlength
    omega
  have hodd := h.odd
  obtain ⟨j, hj⟩ : ∃ j, k - 1 = 2 * j := ⟨(k - 1) / 2, by omega⟩
  rw [hj]
  exact hbefore.append (.replicate j)

/-- A line has a first odd run if it has any. -/
theorem exists_closingRun (hrun : QuoteRun line before k rest) (hodd : k % 2 = 1) :
    ∃ before k rest, ClosingRun line before k rest := by
  induction hlength : before.length using Nat.strongRecOn generalizing before k rest with
  | ind n ih =>
      by_cases hfirst : ∃ before' k' rest', QuoteRun line before' k' rest' ∧ k' % 2 = 1 ∧
          before'.length < before.length
      · obtain ⟨before', k', rest', hrun', hodd', hlt⟩ := hfirst
        exact ih _ (hlength ▸ hlt) hrun' hodd' rfl
      · refine ⟨before, k, rest, hrun, hodd, fun before' k' rest' hrun' hodd' => ?_⟩
        exact Nat.le_of_not_lt fun hlt => hfirst ⟨before', k', rest', hrun', hodd', hlt⟩

end LineLexer.Text
