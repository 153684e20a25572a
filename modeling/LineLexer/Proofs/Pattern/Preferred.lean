/-
Which match the search finds.

`Node.Reads` leaves out which of several readings is preferred, so it says what a match
cannot be and not what it is.  `Node.Leads` says the latter: if what follows can go on
from the stop, the search goes there first.  It is built up along the node, one lemma for
each kind of part, and a lead of a whole pattern is its match (`matchAt?_of_leads`).

A greedy repetition over a set leads to the end of the run of that set.  That it could
also have stopped earlier does not matter, because what follows already succeeded.
-/
import LineLexer.Proofs.Pattern.Starts

namespace LineLexer

/-- If what follows goes on at `stop`, after the groups `closed`, then the search of the node at
`start` comes back with that. -/
def Node.Leads (node : Node) (start : Cursor) (closed : Captures) (stop : Cursor) : Prop :=
  ∀ (α : Type) (k : Cursor → Captures → Option α) (caps : Captures) (result : α),
    k stop (closed ++ caps) = some result → node.run k start caps = some result

namespace Node

variable {node first second : Node} {start mid stop : Cursor} {closed later : Captures}
  {set : CharSet} {demand : Look} {c : Char} {passed w tail rest : Text}

/-- The search of a whole pattern ends where the pattern leads. -/
theorem matchAt?_of_leads (h : node.Leads start closed stop) :
    node.matchAt? start = some ⟨stop, closed⟩ :=
  h _ _ [] _ (by simp)

/-! ### One character of a set -/

section Chars

variable {α : Type} {k : Cursor → Captures → Option α} {caps : Captures}

theorem run_chars_of_contains (h : set.contains c = true) :
    (Node.chars set).run k (.between passed (c :: rest)) caps =
      k (.between (passed ++ [c]) rest) caps := by
  simp only [run, Cursor.rest_between, if_pos h, Cursor.pass_between]

theorem run_chars_of_head (h : ∀ c ∈ tail.head?, set.contains c = false) :
    (Node.chars set).run k (.between passed tail) caps = none := by
  cases tail with
  | nil => rfl
  | cons c tail => simp [run, h c rfl]

end Chars

namespace Leads

theorem chars (passed : Text) (hmem : set.contains c = true) :
    (Node.chars set).Leads (.between passed (c :: rest)) [] (.between (passed ++ [c]) rest) := by
  intro α k caps result h
  rw [run_chars_of_contains hmem]
  exact h

theorem empty (cur : Cursor) : Node.empty.Leads cur [] cur := fun _ _ _ _ h => h

theorem look (h : demand.holds start = true) : (Node.look demand).Leads start [] start := by
  intro α k caps result hk
  simp only [run, if_pos h]
  exact hk

theorem seq (h : first.Leads start closed mid) (h' : second.Leads mid later stop) :
    (Node.seq first second).Leads start (later ++ closed) stop := by
  intro α k caps result hk
  exact h _ _ _ _ (h' _ _ _ _ (by rw [← List.append_assoc]; exact hk))

/-- The first choice is preferred. -/
theorem altFirst (h : first.Leads start closed stop) :
    (Node.alt first second).Leads start closed stop := by
  intro α k caps result hk
  show (first.run k start caps).orElse _ = some result
  rw [h _ _ _ _ hk]
  rfl

/-- The second choice is preferred where the first cannot begin. -/
theorem altSecond (hne : first.mayBeEmpty = false)
    (hstarts : ∀ c ∈ start.rest.head?, first.starts.contains c = false)
    (h : second.Leads start closed stop) : (Node.alt first second).Leads start closed stop := by
  intro α k caps result hk
  show (first.run k start caps).orElse _ = some result
  rw [run_eq_none_of_starts hne hstarts]
  exact h _ _ _ _ hk

/-- So it is before a character with which the first never begins. -/
theorem altSecond_of_apart (set : CharSet) (hhead : ∀ c ∈ start.rest.head?, set.contains c = true)
    (hne : first.mayBeEmpty = false) (hapart : first.starts.Apart set)
    (h : second.Leads start closed stop) : (Node.alt first second).Leads start closed stop :=
  altSecond hne (fun c hc => hapart.contains_left (hhead c hc)) h

theorem group {index : Nat} (h : node.Leads start closed stop) :
    (Node.group index node).Leads start ((index, ⟨start, stop⟩) :: closed) stop := by
  intro α k caps result hk
  exact h _ _ _ _ hk

/-! ### Repetitions -/

/-- An optional part is preferred where it can be. -/
theorem optional (h : node.Leads start closed stop) :
    (Node.repeat node 0 (some 1) true).Leads start closed stop := by
  intro α k caps result hk
  simp only [run, Matcher.times, Matcher.atMost, Matcher.prefer, if_true]
  rw [h _ _ _ _ hk]
  rfl

/-- An optional part that cannot begin is left out. -/
theorem optional_of_starts (hne : node.mayBeEmpty = false)
    (hstarts : ∀ c ∈ start.rest.head?, node.starts.contains c = false) :
    (Node.repeat node 0 (some 1) true).Leads start [] start := by
  intro α k caps result hk
  simp only [run, Matcher.times, Matcher.atMost, Matcher.prefer, if_true,
    run_eq_none_of_starts hne hstarts]
  exact hk

theorem further_run {α : Type} {k : Cursor → Captures → Option α} {caps : Captures} {result : α}
    (hw : ∀ c ∈ w, set.contains c = true) (htail : ∀ c ∈ tail.head?, set.contains c = false)
    (hk : k (.between (passed ++ w) tail) caps = some result) :
    Matcher.further (Node.chars set).run true k (.between passed (w ++ tail)) caps =
      some result := by
  induction w generalizing passed with
  | nil =>
      rw [List.append_nil] at hk
      -- No further round is possible at the end of the run.
      rw [Matcher.further, Matcher.prefer, if_pos rfl, List.nil_append, run_chars_of_head htail, hk]
      rfl
  | cons c w ih =>
      have hrest : Matcher.further (Node.chars set).run true k
          (.between (passed ++ [c]) (w ++ tail)) caps = some result :=
        ih (fun d hd => hw d (List.mem_cons_of_mem _ hd)) (by simpa using hk)
      rw [Matcher.further, Matcher.prefer, if_pos rfl, List.cons_append,
        run_chars_of_contains (hw c List.mem_cons_self), if_pos (by simp [Cursor.remaining]), hrest]
      rfl

theorem many_succ (passed : Text) (hw : ∀ c ∈ w, set.contains c = true) (hne : w ≠ [])
    (htail : ∀ c ∈ tail.head?, set.contains c = false) :
    (Node.repeat (.chars set) 1 none true).Leads (.between passed (w ++ tail)) []
      (.between (passed ++ w) tail) := by
  intro α k caps result hk
  cases w with
  | nil => exact absurd rfl hne
  | cons c w =>
      have hrest : Matcher.further (Node.chars set).run true k
          (.between (passed ++ [c]) (w ++ tail)) caps = some result :=
        further_run (fun d hd => hw d (List.mem_cons_of_mem _ hd)) htail (by simpa using hk)
      rw [run]
      simp only [Matcher.atLeast, Matcher.times]
      rw [Matcher.onceOrMore, List.cons_append, run_chars_of_contains (hw c List.mem_cons_self),
        if_pos (by simp [Cursor.remaining]), hrest]

/-- **A greedy repetition over a set leads to the end of the run.** -/
theorem many (passed : Text) (hw : ∀ c ∈ w, set.contains c = true)
    (htail : ∀ c ∈ tail.head?, set.contains c = false) :
    (Node.repeat (.chars set) 0 none true).Leads (.between passed (w ++ tail)) []
      (.between (passed ++ w) tail) := by
  intro α k caps result hk
  show (Matcher.onceOrMore (Node.chars set).run true k _ caps).orElse (fun _ => k _ caps) =
    some result
  by_cases hne : w = []
  · subst hne
    rw [Matcher.onceOrMore, List.nil_append, run_chars_of_head htail]
    simpa using hk
  · have hrun : Matcher.onceOrMore (Node.chars set).run true k (.between passed (w ++ tail)) caps =
        some result := many_succ passed hw hne htail _ k caps result hk
    rw [hrun]
    rfl

end Leads

end Node

end LineLexer
