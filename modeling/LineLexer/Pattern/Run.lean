/-
Matching a pattern at a cursor.

`Node.run` tries the ways a node can match in order of preference and hands each end
position to a continuation; the first continuation that succeeds decides.  So the first
alternative wins over a longer one, and a lazy repetition stops as soon as the rest can
match.  A repetition goes on only from positions where the last round consumed
something, which both ends the search and keeps an empty round from being counted
twice.
-/
import LineLexer.Pattern.Node

namespace LineLexer

/-- The spans of the groups closed so far, the latest first. -/
abbrev Captures := List (Nat × Span)

/-- A way to match: given what is to happen at the end position, do all of it at a cursor. -/
abbrev Matcher (α : Type) :=
  (Cursor → Captures → Option α) → Cursor → Captures → Option α

namespace Matcher

variable {α : Type}

/-- The preferred one of two attempts, or the other if it fails. -/
def prefer (first : Bool) (a b : Unit → Option α) : Option α :=
  if first then (a ()).orElse b else (b ()).orElse a

/-- Exactly `n` times. -/
def times (body : Matcher α) : Nat → Matcher α
  | 0, k => k
  | n + 1, k => body (times body n k)

/-- At most `n` times. -/
def atMost (body : Matcher α) (greedy : Bool) : Nat → Matcher α
  | 0, k => k
  | n + 1, k => fun cur caps =>
    prefer greedy (fun _ => body (atMost body greedy n k) cur caps) (fun _ => k cur caps)

/-- Any number of further times, each of which consumes something. -/
def further (body : Matcher α) (greedy : Bool) (k : Cursor → Captures → Option α)
    (cur : Cursor) (caps : Captures) : Option α :=
  prefer greedy
    (fun _ => body
      (fun cur' caps' =>
        if cur'.remaining < cur.remaining then further body greedy k cur' caps' else none)
      cur caps)
    (fun _ => k cur caps)
termination_by cur.remaining

/-- Once, then any number of further times if that consumed something. -/
def onceOrMore (body : Matcher α) (greedy : Bool) : Matcher α := fun k cur caps =>
  body
    (fun cur' caps' =>
      if cur'.remaining < cur.remaining then further body greedy k cur' caps' else k cur' caps')
    cur caps

/-- At least `n` times. -/
def atLeast (body : Matcher α) (greedy : Bool) : Nat → Matcher α
  | 0 => fun k cur caps =>
    prefer greedy (fun _ => onceOrMore body greedy k cur caps) (fun _ => k cur caps)
  | n + 1 => fun k => times body n (onceOrMore body greedy k)

end Matcher

namespace Node

variable {α : Type}

/-- Matches the node at a cursor and continues from each end position until one succeeds. -/
def run : Node → Matcher α
  | empty => fun k => k
  | chars set => fun k cur caps =>
    match cur.rest with
    | [] => none
    | c :: rest => if set.contains c then k (cur.pass c rest) caps else none
  | .look demand => fun k cur caps => if demand.holds cur then k cur caps else none
  | seq first second => fun k => first.run (second.run k)
  | alt first second => fun k cur caps =>
    (first.run k cur caps).orElse fun _ => second.run k cur caps
  | .repeat body min (some max) greedy => fun k =>
    Matcher.times body.run min (Matcher.atMost body.run greedy (max - min) k)
  | .repeat body min none greedy => Matcher.atLeast body.run greedy min
  | group index body => fun k cur caps =>
    body.run (fun stop caps' => k stop ((index, ⟨cur, stop⟩) :: caps')) cur caps

end Node

/-- A successful match: where it stops and what its groups matched. -/
structure Match where
  /-- The position after the match. -/
  stop : Cursor
  /-- The spans of the groups that took part, the latest first. -/
  captures : Captures
deriving Repr

/-- The span of a group, if it took part; a repeated group has the span of its last round. -/
def Match.group? (m : Match) (index : Nat) : Option Span := m.captures.lookup index

/-- The preferred match of a node at a cursor. -/
def Node.matchAt? (node : Node) (cur : Cursor) : Option Match :=
  node.run (fun stop captures => some ⟨stop, captures⟩) cur []

end LineLexer
