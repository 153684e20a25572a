/-
Coalescing draws one token for each maximal run.

A token goes on where another stops if it starts there and has the same category.  Tokens
come one at a time, and a new one is compared with the last token drawn, not with the last
one read.  That is the same, since a token that was drawn has the category of every token in
it and stops where the last of them does.  What carries the induction is that it is still a
slice of its line, so that the longer text can be cut from the line again (`IsSliceOf.join`).

Drawing a token that was drawn before draws its parts (`pushMerged_join`).  So coalescing
twice is coalescing once, and a list may be coalesced in pieces.
-/
import LineLexer.Token.Coalesce
import Mathlib.Data.List.SplitBy

namespace LineLexer

namespace Token

/-- The token `b` starts where `a` stops and has the same category. -/
def Continues (a b : Token) : Prop := a.category = b.category ∧ a.stop = b.start

instance (a b : Token) : Decidable (a.Continues b) := inferInstanceAs (Decidable (_ ∧ _))

/-- The token that covers `a` and `b`. -/
def join (a b : Token) : Token := { a with text := a.text ++ b.text }

variable {line : Text} {a b c t u last : Token} {before tokens more : List Token}

theorem forall_mem_concat {α : Type} {p : α → Prop} {xs : List α} {x : α} :
    (∀ y ∈ xs ++ [x], p y) ↔ (∀ y ∈ xs, p y) ∧ p x := by
  rw [List.forall_mem_append, List.forall_mem_singleton]

theorem mergable_iff : a.mergable b = true ↔ a.Continues b := by simp [mergable, Continues]

theorem stop_join (h : a.Continues b) : (a.join b).stop = b.stop := by
  rw [stop, join, Text.byteLength_append, ← Nat.add_assoc]
  show a.stop + _ = _
  rw [h.2]
  rfl

theorem IsSliceOf.join (ha : a.IsSliceOf line) (hb : b.IsSliceOf line) (h : a.Continues b) :
    (a.join b).IsSliceOf line := by
  rw [IsSliceOf, stop_join h]
  rw [IsSliceOf, h.2] at ha
  exact Text.slice?_join ha hb

theorem merge?_of_continues (ha : a.IsSliceOf line) (hb : b.IsSliceOf line)
    (h : a.Continues b) : merge? line a b = some (a.join b) := by
  have hjoin := ha.join hb h
  rw [IsSliceOf, stop_join h] at hjoin
  have hslice : line.slice? a.start b.stop = some (a.join b).text := hjoin
  rw [merge?, if_pos (mergable_iff.mpr h), hslice]
  rfl

theorem merge?_of_not_continues (h : ¬ a.Continues b) : merge? line a b = none := by
  rw [merge?, if_neg (mt mergable_iff.mp h)]

/-! ### One token more -/

/-- A token that goes on where the last one stops makes it longer. -/
theorem pushMerged_of_continues (hu : u.IsSliceOf line) (ht : t.IsSliceOf line)
    (h : u.Continues t) : pushMerged line (before ++ [u]) t = before ++ [u.join t] := by
  simp only [pushMerged, List.getLast?_concat, merge?_of_continues hu ht h, List.dropLast_concat]

/-- Any other token is added by itself. -/
theorem pushMerged_of_not_continues (h : ∀ u ∈ before.getLast?, ¬ u.Continues t) :
    pushMerged line before t = before ++ [t] := by
  unfold pushMerged
  split
  · rename_i hnone
    rw [List.getLast?_eq_none_iff.mp hnone, List.nil_append]
  · rename_i u hlast
    rw [merge?_of_not_continues (h u hlast)]

/-- **One step of coalescing**: the new token goes on where the last one drawn stops, or it does
not. -/
theorem pushMerged_cases (hbefore : ∀ u ∈ before, u.IsSliceOf line) (ht : t.IsSliceOf line) :
    (∃ earlier u, before = earlier ++ [u] ∧ u.Continues t ∧
        pushMerged line before t = earlier ++ [u.join t]) ∨
      (∀ u ∈ before.getLast?, ¬ u.Continues t) ∧ pushMerged line before t = before ++ [t] := by
  by_cases h : ∃ u ∈ before.getLast?, u.Continues t
  · obtain ⟨u, hlast, hcontinues⟩ := h
    obtain ⟨earlier, rfl⟩ := List.getLast?_eq_some_iff.mp hlast
    have hu := (forall_mem_concat.mp hbefore).2
    exact Or.inl ⟨earlier, u, rfl, hcontinues, pushMerged_of_continues hu ht hcontinues⟩
  · have hnot : ∀ u ∈ before.getLast?, ¬ u.Continues t :=
      fun u hu hcontinues => h ⟨u, hu, hcontinues⟩
    exact Or.inr ⟨hnot, pushMerged_of_not_continues hnot⟩

/-- What is drawn are slices of the line. -/
theorem isSliceOf_pushMerged (hbefore : ∀ u ∈ before, u.IsSliceOf line) (ht : t.IsSliceOf line) :
    ∀ u ∈ pushMerged line before t, u.IsSliceOf line := by
  rcases pushMerged_cases hbefore ht with ⟨earlier, u, rfl, hcontinues, hpush⟩ | ⟨-, hpush⟩
  · obtain ⟨hearlier, hu⟩ := forall_mem_concat.mp hbefore
    rw [hpush, forall_mem_concat]
    exact ⟨hearlier, hu.join ht hcontinues⟩
  · rw [hpush, forall_mem_concat]
    exact ⟨hbefore, ht⟩

/-- No two neighbours of what is drawn go on where the other stops. -/
theorem apart_pushMerged (hbefore : ∀ u ∈ before, u.IsSliceOf line) (ht : t.IsSliceOf line)
    (h : before.IsChain fun a b => ¬ a.Continues b) :
    (pushMerged line before t).IsChain fun a b => ¬ a.Continues b := by
  rcases pushMerged_cases hbefore ht with ⟨earlier, u, rfl, hcontinues, hpush⟩ | ⟨hnot, hpush⟩
  · -- The longer token starts where the last one did.
    rw [List.isChain_append] at h
    rw [hpush, List.isChain_append]
    refine ⟨h.1, List.isChain_singleton _, ?_⟩
    intro a ha b hb
    obtain rfl := Option.some.inj hb
    exact h.2.2 a ha u rfl
  · rw [hpush, List.isChain_append]
    refine ⟨h, List.isChain_singleton _, ?_⟩
    intro a ha b hb
    obtain rfl := Option.some.inj hb
    exact hnot a ha

/-- **Drawing a token made of two is drawing the two.** -/
theorem pushMerged_join (hbefore : ∀ u ∈ before, u.IsSliceOf line) (hu : u.IsSliceOf line)
    (ht : t.IsSliceOf line) (h : u.Continues t) :
    pushMerged line before (u.join t) = pushMerged line (pushMerged line before u) t := by
  rcases pushMerged_cases hbefore hu with ⟨earlier, v, rfl, hv, hpush⟩ | ⟨hnot, hpush⟩
  · have hslice := (forall_mem_concat.mp hbefore).2
    have hcontinues : (v.join u).Continues t := ⟨hv.1.trans h.1, (stop_join hv).trans h.2⟩
    have hjoin : v.join (u.join t) = (v.join u).join t := by simp [join]
    rw [hpush, pushMerged_of_continues (hslice.join hu hv) ht hcontinues, ← hjoin]
    exact pushMerged_of_continues hslice (hu.join ht h) hv
  · rw [hpush, pushMerged_of_continues hu ht h]
    exact pushMerged_of_not_continues hnot

/-! ### All tokens -/

theorem coalesce_concat (line : Text) (tokens : List Token) (t : Token) :
    coalesce line (tokens ++ [t]) = pushMerged line (coalesce line tokens) t :=
  List.foldl_concat _ _ _ _

theorem isSliceOf_foldl (hbefore : ∀ u ∈ before, u.IsSliceOf line)
    (h : ∀ t ∈ tokens, t.IsSliceOf line) :
    ∀ u ∈ tokens.foldl (pushMerged line) before, u.IsSliceOf line := by
  induction tokens generalizing before with
  | nil => exact hbefore
  | cons t tokens ih =>
      obtain ⟨ht, htokens⟩ := List.forall_mem_cons.mp h
      exact ih (isSliceOf_pushMerged hbefore ht) htokens

theorem isSliceOf_coalesce (h : ∀ t ∈ tokens, t.IsSliceOf line) :
    ∀ u ∈ coalesce line tokens, u.IsSliceOf line :=
  isSliceOf_foldl (List.forall_mem_nil _) h

theorem apart_coalesce (h : ∀ t ∈ tokens, t.IsSliceOf line) :
    (coalesce line tokens).IsChain fun a b => ¬ a.Continues b := by
  induction tokens using List.reverseRecOn with
  | nil => exact List.isChain_nil
  | append_singleton tokens t ih =>
      obtain ⟨htokens, ht⟩ := forall_mem_concat.mp h
      rw [coalesce_concat]
      exact apart_pushMerged (isSliceOf_coalesce htokens) ht (ih htokens)

/-- **After whatever was drawn, coalesced tokens are drawn like the tokens themselves.** -/
theorem foldl_coalesce (hbefore : ∀ u ∈ before, u.IsSliceOf line)
    (h : ∀ t ∈ tokens, t.IsSliceOf line) :
    (coalesce line tokens).foldl (pushMerged line) before =
      tokens.foldl (pushMerged line) before := by
  induction tokens using List.reverseRecOn with
  | nil => rfl
  | append_singleton tokens t ih =>
      obtain ⟨htokens, ht⟩ := forall_mem_concat.mp h
      have hslices := isSliceOf_coalesce htokens
      rw [coalesce_concat, List.foldl_concat, ← ih htokens]
      rcases pushMerged_cases hslices ht with ⟨earlier, u, hdrawn, hu, hpush⟩ | ⟨-, hpush⟩
      · rw [hdrawn] at hslices
        obtain ⟨hearlier, hslice⟩ := forall_mem_concat.mp hslices
        rw [hpush, hdrawn, List.foldl_concat, List.foldl_concat]
        exact pushMerged_join (isSliceOf_foldl hbefore hearlier) hslice ht hu
      · rw [hpush, List.foldl_concat]

/-! ### Maximal runs -/

theorem mapM_concat_eq_some_iff {α β : Type} {f : α → Option β} {xs : List α} {x : α}
    {ys : List β} :
    (xs ++ [x]).mapM f = some ys ↔
      ∃ zs y, xs.mapM f = some zs ∧ f x = some y ∧ ys = zs ++ [y] := by
  simp only [List.mapM_append, List.mapM_cons, List.mapM_nil, Option.bind_eq_bind,
    Option.bind_eq_some_iff, Option.pure_def, Option.some.injEq]
  constructor
  · rintro ⟨zs, hzs, _, ⟨y, hy, _, rfl, rfl⟩, rfl⟩
    exact ⟨zs, y, hzs, hy, rfl⟩
  · rintro ⟨zs, y, hzs, hy, rfl⟩
    exact ⟨zs, hzs, [y], ⟨y, hy, [], rfl, rfl⟩, rfl⟩

/-- The maximal runs of tokens each of which goes on where the one before it stops. -/
def runs (tokens : List Token) : List (List Token) :=
  tokens.splitBy fun a b => decide (a.Continues b)

/-- The one token for a run: the category and the start of its first token, and what the line holds
from there to where its last token stops. -/
def ofRun? (line : Text) (run : List Token) : Option Token := do
  let first ← run.head?
  let last ← run.getLast?
  let text ← line.slice? first.start last.stop
  return ⟨first.category, first.start, text⟩

theorem ofRun?_eq_some_iff {run : List Token} :
    ofRun? line run = some u ↔
      ∃ first last, run.head? = some first ∧ run.getLast? = some last ∧
        u.category = first.category ∧ u.start = first.start ∧
          line.slice? first.start last.stop = some u.text := by
  simp only [ofRun?, Option.bind_eq_bind, Option.bind_eq_some_iff, Option.pure_def,
    Option.some.injEq]
  constructor
  · rintro ⟨first, hfirst, last, hlast, text, htext, rfl⟩
    exact ⟨first, last, hfirst, hlast, rfl, rfl, htext⟩
  · rintro ⟨first, last, hfirst, hlast, hcategory, hstart, htext⟩
    exact ⟨first, hfirst, last, hlast, u.text, htext, by rw [← hcategory, ← hstart]⟩

/-- A list of tokens with a last one has a last run, which ends with that token and has its category
throughout. -/
theorem exists_last_run (hlast : tokens.getLast? = some last) :
    ∃ earlier run, runs tokens = earlier ++ [run] ∧ run.getLast? = some last ∧
      ∀ a ∈ run, a.category = last.category := by
  obtain ⟨init, rfl⟩ := List.getLast?_eq_some_iff.mp hlast
  have hne : runs (init ++ [last]) ≠ [] := List.splitBy_ne_nil.mpr (by simp)
  obtain ⟨earlier, run, hruns⟩ := (List.eq_nil_or_concat' _).resolve_left hne
  obtain ⟨hflatten, hnil, hchain, -⟩ := List.splitBy_eq_iff.mp hruns
  have hrun : run ≠ [] := fun hempty => hnil (by simp [hempty])
  have hlastRun : run.getLast? = some last := by
    have htokens := congrArg List.getLast? hflatten
    rw [List.flatten_append, List.flatten_singleton, List.getLast?_concat,
      List.getLast?_append_of_ne_nil _ hrun] at htokens
    exact htokens.symm
  refine ⟨earlier, run, hruns, hlastRun, ?_⟩
  obtain ⟨front, rfl⟩ := List.getLast?_eq_some_iff.mp hlastRun
  have hcategories : (front ++ [last]).IsChain fun a b => a.category = b.category :=
    (hchain _ (by simp)).imp fun a b hab => (of_decide_eq_true hab).1
  have htrans : IsTrans Token fun a b => a.category = b.category := ⟨fun _ _ _ => Eq.trans⟩
  have hpairwise := List.isChain_iff_pairwise.mp hcategories
  intro a ha
  rcases List.mem_append.mp ha with hfront | hlast
  · exact (List.pairwise_append.mp hpairwise).2.2 a hfront last (by simp)
  · rw [List.mem_singleton.mp hlast]

/-- A token that goes on where the last one stops makes the last run longer. -/
theorem runs_concat_of_continues {earlier : List (List Token)} {run : List Token}
    (hruns : runs tokens = earlier ++ [run]) (hlast : run.getLast? = some last)
    (h : last.Continues t) : runs (tokens ++ [t]) = earlier ++ [run ++ [t]] := by
  obtain ⟨hflatten, hnil, hchain, happart⟩ := List.splitBy_eq_iff.mp hruns
  obtain ⟨front, rfl⟩ := List.getLast?_eq_some_iff.mp hlast
  refine List.splitBy_eq_iff.mpr ⟨?_, ?_, ?_, ?_⟩
  · simp [hflatten]
  · simpa using hnil
  · intro run hrun
    rcases List.mem_append.mp hrun with hearlier | hrun
    · exact hchain run (List.mem_append_left _ hearlier)
    · obtain rfl := List.mem_singleton.mp hrun
      rw [List.isChain_append]
      refine ⟨hchain _ (by simp), List.isChain_singleton _, ?_⟩
      intro a ha b hb
      rw [List.getLast?_concat] at ha
      obtain rfl := Option.some.inj ha
      obtain rfl := Option.some.inj hb
      exact decide_eq_true h
  · rw [List.isChain_append] at happart ⊢
    refine ⟨happart.1, List.isChain_singleton _, ?_⟩
    intro a ha b hb
    obtain rfl := Option.some.inj hb
    obtain ⟨hne, hne', hnot⟩ := happart.2.2 a ha _ rfl
    exact ⟨hne, by simp, by rwa [List.head_append_of_ne_nil hne']⟩

/-- Any other token is a run by itself. -/
theorem runs_concat_of_not_continues (h : ∀ last ∈ tokens.getLast?, ¬ last.Continues t) :
    runs (tokens ++ [t]) = runs tokens ++ [[t]] :=
  List.splitBy_append_cons [] fun last hlast => decide_eq_false (h last hlast)

section Run

variable {run : List Token}

theorem ofRun?_singleton (ht : t.IsSliceOf line) : ofRun? line [t] = some t :=
  ofRun?_eq_some_iff.mpr ⟨t, t, rfl, rfl, rfl, rfl, ht⟩

/-- The token for a run stops where its last token does. -/
theorem stop_ofRun? (hu : ofRun? line run = some u) (hlast : run.getLast? = some last) :
    u.stop = last.stop := by
  obtain ⟨first, last', -, hlast', -, hstart, htext⟩ := ofRun?_eq_some_iff.mp hu
  obtain rfl := Option.some.inj (hlast'.symm.trans hlast)
  obtain ⟨-, -, -, -, hstop⟩ := Text.slice?_eq_some_iff.mp htext
  rw [stop, hstart, hstop]

/-- To be compared with the token for a run is to be compared with its last token. -/
theorem continues_ofRun?_iff (hu : ofRun? line run = some u) (hlast : run.getLast? = some last)
    (hcategory : ∀ a ∈ run, a.category = last.category) :
    u.Continues t ↔ last.Continues t := by
  obtain ⟨first, -, hfirst, -, hfirstCategory, -, -⟩ := ofRun?_eq_some_iff.mp hu
  have hsame : u.category = last.category :=
    hfirstCategory.trans (hcategory first (List.mem_of_mem_head? hfirst))
  rw [Continues, Continues, hsame, stop_ofRun? hu hlast]

theorem ofRun?_concat (hu : ofRun? line run = some u) (hslice : u.IsSliceOf line)
    (ht : t.IsSliceOf line) (h : u.Continues t) :
    ofRun? line (run ++ [t]) = some (u.join t) := by
  obtain ⟨first, last, hfirst, hlast, hcategory, hstart, htext⟩ := ofRun?_eq_some_iff.mp hu
  refine ofRun?_eq_some_iff.mpr ⟨first, t, ?_, List.getLast?_concat, hcategory, hstart, ?_⟩
  · rw [List.head?_append, hfirst]
    rfl
  · have hjoin := hslice.join ht h
    rw [IsSliceOf, stop_join h] at hjoin
    rwa [← hstart]

end Run

/-- **Coalescing draws one token for each maximal run.** -/
theorem mapM_runs (h : ∀ t ∈ tokens, t.IsSliceOf line) :
    (runs tokens).mapM (ofRun? line) = some (coalesce line tokens) := by
  induction tokens using List.reverseRecOn with
  | nil => rfl
  | append_singleton tokens t ih =>
      obtain ⟨htokens, ht⟩ := forall_mem_concat.mp h
      rw [coalesce_concat]
      cases hlast : tokens.getLast? with
      | none =>
          obtain rfl := List.getLast?_eq_none_iff.mp hlast
          rw [runs_concat_of_not_continues (by simp), pushMerged_of_not_continues (by simp [coalesce])]
          exact mapM_concat_eq_some_iff.mpr ⟨_, t, ih htokens, ofRun?_singleton ht, rfl⟩
      | some last =>
          obtain ⟨earlier, run, hruns, hrunLast, hcategory⟩ := exists_last_run hlast
          have hall := ih htokens
          rw [hruns] at hall
          obtain ⟨drawn, u, hearlier, hu, hdrawn⟩ := mapM_concat_eq_some_iff.mp hall
          have hslice : u.IsSliceOf line := isSliceOf_coalesce htokens u (by simp [hdrawn])
          have hiff := continues_ofRun?_iff (t := t) hu hrunLast hcategory
          by_cases hcontinues : last.Continues t
          · have hcontinuesDrawn := hiff.mpr hcontinues
            rw [runs_concat_of_continues hruns hrunLast hcontinues, hdrawn,
              pushMerged_of_continues hslice ht hcontinuesDrawn]
            exact mapM_concat_eq_some_iff.mpr
              ⟨drawn, _, hearlier, ofRun?_concat hu hslice ht hcontinuesDrawn, rfl⟩
          · rw [runs_concat_of_not_continues (by simpa [hlast] using hcontinues),
              pushMerged_of_not_continues (by simpa [hdrawn, hiff] using hcontinues)]
            exact mapM_concat_eq_some_iff.mpr
              ⟨_, t, ih htokens, ofRun?_singleton ht, rfl⟩

/-! ### What coalescing means -/

/-- How the tokens of a line are coalesced. -/
structure CoalescesByRuns (line : Text) (tokens : List Token) : Prop where
  /-- Each maximal run becomes one token. -/
  drawn : (runs tokens).mapM (ofRun? line) = some (coalesce line tokens)
  /-- No two neighbours could be merged further. -/
  apart : (coalesce line tokens).IsChain fun a b => a.mergable b = false
  slices : ∀ u ∈ coalesce line tokens, u.IsSliceOf line
  again : coalesce line (coalesce line tokens) = coalesce line tokens
  /-- A list may be coalesced in two pieces, and then as a whole. -/
  pieces : ∀ more, (∀ t ∈ more, t.IsSliceOf line) →
    coalesce line (tokens ++ more) = coalesce line (coalesce line tokens ++ coalesce line more)

/-- **Coalescing the slices of a line merges their maximal runs.** -/
theorem coalescesByRuns_of_slices (h : ∀ t ∈ tokens, t.IsSliceOf line) :
    CoalescesByRuns line tokens := by
  have hagain : coalesce line (coalesce line tokens) = coalesce line tokens :=
    foldl_coalesce (List.forall_mem_nil _) h
  refine ⟨mapM_runs h, ?_, isSliceOf_coalesce h, hagain, ?_⟩
  · refine (apart_coalesce h).imp fun a b hnot => ?_
    rwa [← Bool.not_eq_true, mergable_iff]
  · intro more hmore
    have hfold : ∀ xs ys : List Token,
        coalesce line (xs ++ ys) = ys.foldl (pushMerged line) (coalesce line xs) :=
      fun _ _ => List.foldl_append
    rw [hfold, hfold, hagain, foldl_coalesce (isSliceOf_coalesce h) hmore]

/-- A run with an empty token in it, one with a character of two bytes, and a gap. -/
theorem coalescesByRuns_quoted :
    ∃ tokens : List Token,
      tokens = [⟨.string, 0, ['\'']⟩, ⟨.string, 1, []⟩, ⟨.string, 1, ['é']⟩, ⟨.escape, 3, ['b']⟩,
        ⟨.escape, 5, ['c']⟩] ∧
      (∀ t ∈ tokens, t.IsSliceOf "'éb c".toList) ∧
      coalesce "'éb c".toList tokens =
        [⟨.string, 0, ['\'', 'é']⟩, ⟨.escape, 3, ['b']⟩, ⟨.escape, 5, ['c']⟩] ∧
      CoalescesByRuns "'éb c".toList tokens := by
  have hslices : ∀ t ∈ [⟨.string, 0, ['\'']⟩, ⟨.string, 1, []⟩, ⟨.string, 1, ['é']⟩,
      ⟨.escape, 3, ['b']⟩, (⟨.escape, 5, ['c']⟩ : Token)], t.IsSliceOf "'éb c".toList := by
    decide
  exact ⟨_, rfl, hslices, by decide, coalescesByRuns_of_slices hslices⟩

end Token

end LineLexer
