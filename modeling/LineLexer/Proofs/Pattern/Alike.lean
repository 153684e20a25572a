/-
Places that a pattern cannot tell apart.

A search sees little of a cursor: how many characters are left, which one is next, and
what its assertions say.  So lines may differ, in the case of their letters or in what
was passed before, without any pattern of a language taking notice.  A `Likeness` is such
a difference, a relation between cursors that is kept when both pass a character.

A pattern keeps a likeness if its sets and assertions do not tell apart what is alike, and
that is a matter of its tree alone (`Keeps`).  From places that are alike it then finds
matches that are alike (`matchAt?_alike`): each part of a search that continues alike
comes back with results that are related, whatever the relation is.
-/
import LineLexer.Proofs.Pattern.Alphabet
import Mathlib.Data.List.Forall2
import Mathlib.Data.Option.Defs

namespace LineLexer

/-- The assertions of a node. -/
def Node.looks : Node → List Look
  | .empty | .chars _ => []
  | .look demand => [demand]
  | .seq first second | .alt first second => first.looks ++ second.looks
  | .repeat body _ _ _ | .group _ body => body.looks

/-- A way in which the places of two lines can correspond. -/
structure Likeness where
  /-- The characters correspond. -/
  Same : Char → Char → Prop
  /-- The places correspond. -/
  Alike : Cursor → Cursor → Prop
  /-- The characters to come do so one by one. -/
  rest {cur cur' : Cursor} : Alike cur cur' → List.Forall₂ Same cur.rest cur'.rest
  /-- Passing one of them leads to places that correspond again. -/
  pass {cur cur' : Cursor} {c c' : Char} {rest rest' : Text} : Alike cur cur' →
    cur.rest = c :: rest → cur'.rest = c' :: rest' → Alike (cur.pass c rest) (cur'.pass c' rest')

namespace Likeness

variable (l : Likeness)

/-- The stretches start and stop at places that are alike. -/
def SpanAlike (s s' : Span) : Prop := l.Alike s.start s'.start ∧ l.Alike s.stop s'.stop

/-- The same groups were closed, in the same order. -/
def CapturesAlike (caps caps' : Captures) : Prop :=
  List.Forall₂ (fun capture capture' => capture.1 = capture'.1 ∧ l.SpanAlike capture.2 capture'.2)
    caps caps'

/-- The matches stop at places that are alike, with the same groups. -/
structure MatchAlike (found found' : Match) : Prop where
  stop : l.Alike found.stop found'.stop
  captures : l.CapturesAlike found.captures found'.captures

/-- The pattern does not tell apart what is alike. -/
structure Keeps (node : Node) : Prop where
  sets : ∀ set ∈ node.sets, ∀ c c', l.Same c c' → set.contains c = set.contains c'
  looks : ∀ demand ∈ node.looks, ∀ cur cur', l.Alike cur cur' →
    demand.holds cur = demand.holds cur'

variable {l} {cur cur' : Cursor} {s s' : Span} {caps caps' : Captures}

theorem remaining (h : l.Alike cur cur') : cur.remaining = cur'.remaining :=
  (l.rest h).length_eq

theorem SpanAlike.text (h : l.SpanAlike s s') : List.Forall₂ l.Same s.text s'.text := by
  rw [Span.text, Span.text, ← remaining h.1, ← remaining h.2]
  exact List.forall₂_take _ (l.rest h.1)

theorem SpanAlike.isEmpty (h : l.SpanAlike s s') : s.isEmpty = s'.isEmpty := by
  rw [Span.isEmpty, Span.isEmpty, remaining h.1, remaining h.2]

theorem CapturesAlike.lookup (h : l.CapturesAlike caps caps') (index : Nat) :
    Option.Rel l.SpanAlike (caps.lookup index) (caps'.lookup index) := by
  induction h with
  | nil => exact .none
  | @cons capture capture' caps caps' hcapture _ ih =>
      obtain ⟨hindex, hspan⟩ := hcapture
      rw [List.lookup_cons, List.lookup_cons, ← hindex]
      by_cases h : index == capture.1
      · simpa [h] using Option.Rel.some hspan
      · simpa [h] using ih

/-! ### Keeping a likeness, part by part -/

namespace Keeps

variable {first second body : Node}

theorem seq (h : l.Keeps (.seq first second)) : l.Keeps first ∧ l.Keeps second :=
  ⟨⟨fun set hset => h.sets set (List.mem_append_left _ hset),
    fun demand hdemand => h.looks demand (List.mem_append_left _ hdemand)⟩,
    ⟨fun set hset => h.sets set (List.mem_append_right _ hset),
    fun demand hdemand => h.looks demand (List.mem_append_right _ hdemand)⟩⟩

theorem alt (h : l.Keeps (.alt first second)) : l.Keeps first ∧ l.Keeps second :=
  Keeps.seq ⟨h.sets, h.looks⟩

end Keeps

/-! ### Searches -/

section Search

variable (l) {α β : Type} (R : α → β → Prop)

/-- From places that are alike, with groups that are alike, the results are related. -/
def Continues (k : Cursor → Captures → Option α) (k' : Cursor → Captures → Option β) : Prop :=
  ∀ cur cur' caps caps', l.Alike cur cur' → l.CapturesAlike caps caps' →
    Option.Rel R (k cur caps) (k' cur' caps')

/-- The searches come back with related results when what follows them does. -/
def Searches (m : Matcher α) (m' : Matcher β) : Prop :=
  ∀ k k', l.Continues R k k' → l.Continues R (m k) (m' k')

variable {l R} {m : Matcher α} {m' : Matcher β}

theorem orElse_rel {a : Option α} {a' : Option β} {b : Unit → Option α} {b' : Unit → Option β}
    (ha : Option.Rel R a a') (hb : Option.Rel R (b ()) (b' ())) :
    Option.Rel R (a.orElse b) (a'.orElse b') := by
  cases ha with
  | none => exact hb
  | some ha => exact .some ha

theorem prefer_rel (first : Bool) {a b : Unit → Option α} {a' b' : Unit → Option β}
    (ha : Option.Rel R (a ()) (a' ())) (hb : Option.Rel R (b ()) (b' ())) :
    Option.Rel R (Matcher.prefer first a b) (Matcher.prefer first a' b') := by
  cases first with
  | true => exact orElse_rel ha hb
  | false => exact orElse_rel hb ha

/-- Going on one way from places closer to the end of the line, and another way elsewhere. -/
theorem continues_closer (n : Nat) {k next : Cursor → Captures → Option α}
    {k' next' : Cursor → Captures → Option β}
    (h : ∀ cur cur' caps caps', cur.remaining < n → l.Alike cur cur' → l.CapturesAlike caps caps' →
      Option.Rel R (next cur caps) (next' cur' caps')) (hk : l.Continues R k k') :
    l.Continues R (fun cur caps => if cur.remaining < n then next cur caps else k cur caps)
      (fun cur caps => if cur.remaining < n then next' cur caps else k' cur caps) := by
  intro cur cur' caps caps' halike hcaps
  simp only [← remaining halike]
  split
  · exact h _ _ _ _ ‹_› halike hcaps
  · exact hk _ _ _ _ halike hcaps

namespace Searches

theorem times (h : l.Searches R m m') (n : Nat) :
    l.Searches R (Matcher.times m n) (Matcher.times m' n) := by
  intro k k' hk
  induction n with
  | zero => exact hk
  | succ n ih => exact h _ _ ih

theorem atMost (h : l.Searches R m m') (greedy : Bool) (n : Nat) :
    l.Searches R (Matcher.atMost m greedy n) (Matcher.atMost m' greedy n) := by
  intro k k' hk
  induction n with
  | zero => exact hk
  | succ n ih =>
      intro cur cur' caps caps' halike hcaps
      rw [Matcher.atMost, Matcher.atMost]
      refine prefer_rel greedy ?_ ?_
      · exact h _ _ ih _ _ _ _ halike hcaps
      · exact hk _ _ _ _ halike hcaps

theorem further (h : l.Searches R m m') (greedy : Bool) :
    l.Searches R (Matcher.further m greedy) (Matcher.further m' greedy) := by
  intro k k' hk cur cur'
  -- Each further round starts closer to the end of the line, on both sides.
  induction hn : cur.remaining using Nat.strongRecOn generalizing cur cur' with
  | ind n ih =>
      intro caps caps' halike hcaps
      rw [Matcher.further, Matcher.further, ← remaining halike, hn]
      refine prefer_rel greedy (h _ _ ?_ _ _ _ _ halike hcaps) ?_
      · refine continues_closer n ?_ fun _ _ _ _ _ _ => .none
        intro next next' caps caps' hlt hnext hcaps
        exact ih _ hlt next next' rfl _ _ hnext hcaps
      · exact hk _ _ _ _ halike hcaps

theorem onceOrMore (h : l.Searches R m m') (greedy : Bool) :
    l.Searches R (Matcher.onceOrMore m greedy) (Matcher.onceOrMore m' greedy) := by
  intro k k' hk cur cur' caps caps' halike hcaps
  rw [Matcher.onceOrMore, Matcher.onceOrMore, ← remaining halike]
  refine h _ _ (continues_closer _ ?_ hk) _ _ _ _ halike hcaps
  intro next next' caps caps' _ hnext hcaps
  exact h.further greedy _ _ hk _ _ _ _ hnext hcaps

theorem atLeast (h : l.Searches R m m') (greedy : Bool) (n : Nat) :
    l.Searches R (Matcher.atLeast m greedy n) (Matcher.atLeast m' greedy n) := by
  intro k k' hk
  cases n with
  | zero =>
      intro cur cur' caps caps' halike hcaps
      rw [Matcher.atLeast, Matcher.atLeast]
      refine prefer_rel greedy ?_ ?_
      · exact h.onceOrMore greedy _ _ hk _ _ _ _ halike hcaps
      · exact hk _ _ _ _ halike hcaps
  | succ n => exact h.times n _ _ (h.onceOrMore greedy _ _ hk)

end Searches

/-- **A pattern that keeps a likeness searches alike from places that are alike.** -/
theorem run_alike {node : Node} (hkeeps : l.Keeps node) : l.Searches R node.run node.run := by
  induction node with
  | empty => exact fun k k' hk => hk
  | chars set =>
      intro k k' hk cur cur' caps caps' halike hcaps
      have hrest := l.rest halike
      simp only [Node.run]
      cases hcur : cur.rest with
      | nil =>
          rw [hcur] at hrest
          rw [List.forall₂_nil_left_iff.mp hrest]
          exact .none
      | cons c rest =>
          rw [hcur] at hrest
          obtain ⟨c', rest', hsame, -, hcur'⟩ := List.forall₂_cons_left_iff.mp hrest
          simp only [hcur', ← hkeeps.sets set (List.mem_singleton_self set) c c' hsame]
          split
          · exact hk _ _ _ _ (l.pass halike hcur hcur') hcaps
          · exact .none
  | look demand =>
      intro k k' hk cur cur' caps caps' halike hcaps
      simp only [Node.run, ← hkeeps.looks demand (List.mem_singleton_self demand) _ _ halike]
      split
      · exact hk _ _ _ _ halike hcaps
      · exact .none
  | seq first second ih ih' =>
      intro k k' hk
      exact ih hkeeps.seq.1 _ _ (ih' hkeeps.seq.2 _ _ hk)
  | alt first second ih ih' =>
      intro k k' hk cur cur' caps caps' halike hcaps
      exact orElse_rel (ih hkeeps.alt.1 _ _ hk _ _ _ _ halike hcaps)
        (ih' hkeeps.alt.2 _ _ hk _ _ _ _ halike hcaps)
  | «repeat» body min max greedy ih =>
      have hbody := ih ⟨hkeeps.sets, hkeeps.looks⟩
      cases max with
      | none => exact hbody.atLeast greedy min
      | some max =>
          intro k k' hk
          exact hbody.times min _ _ (hbody.atMost greedy (max - min) _ _ hk)
  | group index body ih =>
      intro k k' hk cur cur' caps caps' halike hcaps
      refine ih ⟨hkeeps.sets, hkeeps.looks⟩ _ _ ?_ _ _ _ _ halike hcaps
      intro stop stop' caps caps' hstop hcaps
      exact hk _ _ _ _ hstop (.cons ⟨rfl, halike, hstop⟩ hcaps)

end Search

/-- **From places that are alike, it finds matches that are alike.** -/
theorem matchAt?_alike {node : Node} (hkeeps : l.Keeps node) (h : l.Alike cur cur') :
    Option.Rel l.MatchAlike (node.matchAt? cur) (node.matchAt? cur') := by
  refine run_alike hkeeps _ _ ?_ _ _ _ _ h .nil
  intro stop stop' caps caps' hstop hcaps
  exact .some ⟨hstop, hcaps⟩

end Likeness

end LineLexer
