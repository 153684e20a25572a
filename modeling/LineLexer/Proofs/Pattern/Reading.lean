/-
What a match means.

The matcher searches: it tries one way after another and hands each end position to a
continuation, so what it did to get there is nowhere to be seen.  `Node.Reads` says it:
a node reads some text from a cursor, stops at another and closes some groups on the
way, one rule for each kind of node.  Preference is left out, because none of what a
match may never do depends on which of the possible readings is preferred.

`run_reads` is the link: whatever the search comes back with is a reading.  Everything
else about matches is then an induction over readings, and the search is not opened
again.
-/
import LineLexer.Pattern.Run
import LineLexer.Proofs.Cursor

namespace LineLexer

/-- The node reads `read` from `start`, closes the groups `closed` on the way, the latest first,
and stops at `stop`. -/
inductive Node.Reads : Node → Cursor → Text → Captures → Cursor → Prop
  | empty {cur : Cursor} : Reads .empty cur [] [] cur
  | chars {set : CharSet} {cur : Cursor} {c : Char} {rest : Text}
      (hrest : cur.rest = c :: rest) (hmem : set.contains c = true) :
      Reads (.chars set) cur [c] [] (cur.pass c rest)
  | look {demand : Look} {cur : Cursor} (h : demand.holds cur = true) :
      Reads (.look demand) cur [] [] cur
  | seq {first second : Node} {start mid stop : Cursor} {read more : Text} {closed later : Captures}
      (h : Reads first start read closed mid) (h' : Reads second mid more later stop) :
      Reads (.seq first second) start (read ++ more) (later ++ closed) stop
  | altFirst {first second : Node} {start stop : Cursor} {read : Text} {closed : Captures}
      (h : Reads first start read closed stop) : Reads (.alt first second) start read closed stop
  | altSecond {first second : Node} {start stop : Cursor} {read : Text} {closed : Captures}
      (h : Reads second start read closed stop) : Reads (.alt first second) start read closed stop
  /-- A repetition may end once its least number of rounds is used up. -/
  | done {body : Node} {max : Option Nat} {greedy : Bool} {cur : Cursor} :
      Reads (.repeat body 0 max greedy) cur [] [] cur
  /-- A round leaves one round less to be done, and one less that may be. -/
  | round {body : Node} {min : Nat} {max : Option Nat} {greedy : Bool} {start mid stop : Cursor}
      {read more : Text} {closed later : Captures} (hleft : 0 < min ∨ max ≠ some 0)
      (h : Reads body start read closed mid)
      (h' : Reads (.repeat body (min - 1) (max.map (· - 1)) greedy) mid more later stop) :
      Reads (.repeat body min max greedy) start (read ++ more) (later ++ closed) stop
  | group {index : Nat} {body : Node} {start stop : Cursor} {read : Text} {closed : Captures}
      (h : Reads body start read closed stop) :
      Reads (.group index body) start read ((index, ⟨start, stop⟩) :: closed) stop

/-- A reading passes exactly the text it reads. -/
theorem Node.Reads.passes {node : Node} {start stop : Cursor} {read : Text} {closed : Captures}
    (h : node.Reads start read closed stop) : start.Passes read stop := by
  induction h with
  | empty | look _ | done => exact Cursor.Passes.refl _
  | chars hrest _ => exact Cursor.Passes.pass hrest
  | seq _ _ ih ih' => exact ih.trans ih'
  | altFirst _ ih | altSecond _ ih | group _ ih => exact ih
  | round _ _ _ ih ih' => exact ih.trans ih'

/-! ### The search finds readings -/

namespace Matcher

variable {α : Type}

/-- Whatever the matcher succeeds with, the continuation succeeded with after one of the readings
in `R`. -/
def Follows (m : Matcher α) (R : Cursor → Text → Captures → Cursor → Prop) : Prop :=
  ∀ (k : Cursor → Captures → Option α) (start : Cursor) (caps : Captures) (result : α),
    m k start caps = some result →
      ∃ read closed stop, R start read closed stop ∧ k stop (closed ++ caps) = some result

theorem orElse_eq_some {a : Option α} {b : Unit → Option α} {result : α}
    (h : a.orElse b = some result) : a = some result ∨ b () = some result := by
  cases a with
  | none => exact Or.inr h
  | some _ => exact Or.inl h

theorem prefer_eq_some {first : Bool} {a b : Unit → Option α} {result : α}
    (h : prefer first a b = some result) : a () = some result ∨ b () = some result := by
  cases first with
  | true => exact orElse_eq_some h
  | false => exact (orElse_eq_some h).symm

section Repeat

variable {body : Node} {greedy : Bool}

/-- Rounds that must be made, before a tail that makes the rest of them. -/
theorem times_follows (hbody : (body.run (α := α)).Follows body.Reads) {tail : Matcher α}
    (m : Nat) : ∀ (n : Nat) (max : Option Nat),
      tail.Follows (Node.Reads (.repeat body m (max.map (· - n)) greedy)) →
      Matcher.Follows (fun k => times body.run n (tail k))
        (Node.Reads (.repeat body (n + m) max greedy)) := by
  intro n
  induction n with
  | zero =>
      intro max htail
      simpa [times] using htail
  | succ n ih =>
      intro max htail k start caps result h
      obtain ⟨read, closed, mid, hread, hk⟩ := hbody _ _ _ _ h
      have htail' : tail.Follows
          (Node.Reads (.repeat body m ((max.map (· - 1)).map (· - n)) greedy)) := by
        have hsub : (max.map (· - 1)).map (· - n) = max.map (· - (n + 1)) := by
          cases max with
          | none => rfl
          | some b => simp [Nat.sub_sub, Nat.add_comm]
        rw [hsub]
        exact htail
      obtain ⟨more, later, stop, hmore, hend⟩ := ih _ htail' _ _ _ _ hk
      refine ⟨read ++ more, later ++ closed, stop, ?_, by rw [List.append_assoc]; exact hend⟩
      have hone : n + 1 + m - 1 = n + m := by omega
      exact Node.Reads.round (Or.inl (by omega)) hread (by rw [hone]; exact hmore)

theorem atMost_follows (hbody : (body.run (α := α)).Follows body.Reads) :
    ∀ n : Nat, Matcher.Follows (atMost (α := α) body.run greedy n)
      (Node.Reads (.repeat body 0 (some n) greedy)) := by
  intro n
  induction n with
  | zero =>
      intro k start caps result h
      exact ⟨[], [], start, Node.Reads.done, h⟩
  | succ n ih =>
      intro k start caps result h
      rw [atMost] at h
      rcases prefer_eq_some h with h | h
      · obtain ⟨read, closed, mid, hread, hk⟩ := hbody _ _ _ _ h
        obtain ⟨more, later, stop, hmore, hend⟩ := ih _ _ _ _ hk
        exact ⟨read ++ more, later ++ closed, stop,
          Node.Reads.round (Or.inr (by simp)) hread hmore, by rw [List.append_assoc]; exact hend⟩
      · exact ⟨[], [], start, Node.Reads.done, h⟩

theorem further_follows (hbody : (body.run (α := α)).Follows body.Reads) :
    Matcher.Follows (further (α := α) body.run greedy)
      (Node.Reads (.repeat body 0 none greedy)) := by
  intro k start
  -- Each further round starts closer to the end of the line.
  induction hn : start.remaining using Nat.strongRecOn generalizing start with
  | ind n ih =>
      intro caps result h
      rw [further] at h
      rcases prefer_eq_some h with h | h
      · obtain ⟨read, closed, mid, hread, hk⟩ := hbody _ _ _ _ h
        by_cases hlt : mid.remaining < start.remaining
        · rw [if_pos hlt] at hk
          obtain ⟨more, later, stop, hmore, hend⟩ := ih _ (hn ▸ hlt) mid rfl _ _ hk
          exact ⟨read ++ more, later ++ closed, stop,
            Node.Reads.round (Or.inr (by simp)) hread hmore,
            by rw [List.append_assoc]; exact hend⟩
        · rw [if_neg hlt] at hk
          exact absurd hk (by simp)
      · exact ⟨[], [], start, Node.Reads.done, h⟩

theorem onceOrMore_follows (hbody : (body.run (α := α)).Follows body.Reads) :
    Matcher.Follows (onceOrMore (α := α) body.run greedy)
      (Node.Reads (.repeat body 1 none greedy)) := by
  intro k start caps result h
  obtain ⟨read, closed, mid, hread, hk⟩ := hbody _ _ _ _ h
  by_cases hlt : mid.remaining < start.remaining
  · rw [if_pos hlt] at hk
    obtain ⟨more, later, stop, hmore, hend⟩ := further_follows hbody _ _ _ _ hk
    exact ⟨read ++ more, later ++ closed, stop, Node.Reads.round (Or.inl (by simp)) hread hmore,
      by rw [List.append_assoc]; exact hend⟩
  · rw [if_neg hlt] at hk
    refine ⟨read ++ [], [] ++ closed, mid, ?_, hk⟩
    exact Node.Reads.round (Or.inl (by simp)) hread Node.Reads.done

theorem atLeast_follows (hbody : (body.run (α := α)).Follows body.Reads) (n : Nat) :
    Matcher.Follows (atLeast (α := α) body.run greedy n)
      (Node.Reads (.repeat body n none greedy)) := by
  cases n with
  | zero =>
      intro k start caps result h
      rw [atLeast] at h
      rcases prefer_eq_some h with h | h
      · obtain ⟨read, closed, stop, hread, hk⟩ := onceOrMore_follows hbody _ _ _ _ h
        cases hread with
        | round _ hread hmore =>
            exact ⟨_, _, stop, Node.Reads.round (Or.inr (by simp)) hread hmore, hk⟩
      · exact ⟨[], [], start, Node.Reads.done, h⟩
  | succ n => exact times_follows hbody 1 n none (onceOrMore_follows hbody)

end Repeat

end Matcher

/-- **Whatever the search of a node comes back with is a reading of the node.** -/
theorem Node.run_reads {α : Type} (node : Node) : (node.run (α := α)).Follows node.Reads := by
  induction node with
  | empty =>
      intro k start caps result h
      exact ⟨[], [], start, Reads.empty, h⟩
  | chars set =>
      intro k start caps result h
      simp only [run] at h
      split at h
      · exact absurd h (by simp)
      · rename_i c rest hrest
        split at h
        · rename_i hmem
          exact ⟨[c], [], _, Reads.chars hrest hmem, h⟩
        · exact absurd h (by simp)
  | look demand =>
      intro k start caps result h
      simp only [run] at h
      split at h
      · rename_i hholds
        exact ⟨[], [], start, Reads.look hholds, h⟩
      · exact absurd h (by simp)
  | seq first second ih ih' =>
      intro k start caps result h
      obtain ⟨read, closed, mid, hread, hk⟩ := ih _ _ _ _ h
      obtain ⟨more, later, stop, hmore, hend⟩ := ih' _ _ _ _ hk
      exact ⟨read ++ more, later ++ closed, stop, Reads.seq hread hmore,
        by rw [List.append_assoc]; exact hend⟩
  | alt first second ih ih' =>
      intro k start caps result h
      rw [run] at h
      rcases Matcher.orElse_eq_some h with h | h
      · obtain ⟨read, closed, stop, hread, hk⟩ := ih _ _ _ _ h
        exact ⟨read, closed, stop, Reads.altFirst hread, hk⟩
      · obtain ⟨read, closed, stop, hread, hk⟩ := ih' _ _ _ _ h
        exact ⟨read, closed, stop, Reads.altSecond hread, hk⟩
  | «repeat» body min max greedy ih =>
      cases max with
      | none => exact Matcher.atLeast_follows ih min
      | some max => exact Matcher.times_follows ih 0 min (some max) (Matcher.atMost_follows ih _)
  | group index body ih =>
      intro k start caps result h
      obtain ⟨read, closed, stop, hread, hk⟩ := ih _ _ _ _ h
      exact ⟨read, (index, ⟨start, stop⟩) :: closed, stop, Reads.group hread, hk⟩

/-- A match of a node is a reading of it, with the groups it closed. -/
theorem Node.matchAt?_reads {node : Node} {cur : Cursor} {found : Match}
    (h : node.matchAt? cur = some found) :
    ∃ read, node.Reads cur read found.captures found.stop := by
  obtain ⟨read, closed, stop, hread, hfound⟩ := node.run_reads _ _ _ _ h
  obtain rfl : (⟨stop, closed ++ []⟩ : Match) = found := Option.some.inj hfound
  exact ⟨read, by simpa using hread⟩

end LineLexer
