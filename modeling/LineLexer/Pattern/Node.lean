/-
Patterns as trees.

A node is what the pattern text means once flags, classes and case are resolved: sets
of characters, assertions, sequences, ordered choices, repetitions and groups.
`minWidth` bounds from below what a match consumes; a rule's pattern must not have
width zero, which is what keeps the lexer moving.

The builders keep trees flat: a row holds no rows, a choice between sets is a set, and
what all branches of a choice start with alike is matched before the choice.
-/
import LineLexer.Pattern.Look

namespace LineLexer

/-- What a pattern matches, in order of preference. -/
inductive Node where
  /-- Nothing, anywhere. -/
  | empty
  /-- One character of a set. -/
  | chars (set : CharSet)
  /-- Nothing, at a position that meets a demand. -/
  | look (demand : Look)
  /-- The first, then the second. -/
  | seq (first second : Node)
  /-- The first or, failing that, the second. -/
  | alt (first second : Node)
  /-- From `min` up to `max` times in a row, without limit when `max` is none; `greedy` prefers
  more. -/
  | repeat (body : Node) (min : Nat) (max : Option Nat) (greedy : Bool)
  /-- The body, whose span is remembered under a number from one up. -/
  | group (index : Nat) (body : Node)
deriving DecidableEq, Repr

namespace Node

/-- The fewest characters a match consumes; none when a part that would have to match never does. -/
def minWidth : Node → Option Nat
  | empty => some 0
  | chars set => if set.isEmpty then none else some 1
  | look _ => some 0
  | seq first second =>
    match first.minWidth, second.minWidth with
    | some m, some n => some (m + n)
    | _, _ => none
  | alt first second =>
    match first.minWidth, second.minWidth with
    | some m, some n => some (min m n)
    | _, _ => none
  | .repeat body min _ _ => body.minWidth.map (· * min)
  | group _ body => body.minWidth

/-- The highest number of a group in the pattern. -/
def groupCount : Node → Nat
  | empty | chars _ | look _ => 0
  | seq first second | alt first second => max first.groupCount second.groupCount
  | .repeat body _ _ _ => body.groupCount
  | group index body => max index body.groupCount

/-! ### Building nodes -/

/-- The nodes of a row, one after the other. -/
def parts : Node → List Node
  | empty => []
  | seq first second => first.parts ++ second.parts
  | node => [node]

/-- The row of some parts. -/
def ofParts : List Node → Node
  | [] => empty
  | [node] => node
  | node :: rest => seq node (ofParts rest)

/-- Nodes in a row, one long row where some of them are rows. -/
def concat (nodes : List Node) : Node := ofParts (nodes.flatMap parts)

/-- The set a node is, if it is one character of a set. -/
def set? : Node → Option CharSet
  | chars set => some set
  | _ => none

/-- The parts two rows start with alike. -/
def shared : List Node → List Node → List Node
  | a :: as, b :: bs => if a = b then a :: shared as bs else []
  | _, _ => []

/-- The parts all branches start with alike; none when some branch is not a row. -/
def sharedParts : List Node → List Node
  | [] => []
  | first :: rest =>
    if (first :: rest).all fun node => 1 < node.parts.length then
      (rest.map parts).foldl shared first.parts
    else []

/-- A choice, branch by branch; a choice between sets is a set. -/
def alternatives (branches : List Node) : Node :=
  match branches.mapM set? with
  | some (s :: rest) => chars (rest.foldl .union s)
  | _ => go branches
where
  /-- The choice, branch by branch. -/
  go : List Node → Node
    | [] => chars .empty
    | [node] => node
    | node :: rest => alt node (go rest)

/-- An ordered choice.  What its branches start with alike comes before it, so a preference among
the ways to match that start outranks the order of the branches. -/
def choice (branches : List Node) : Node :=
  match branches, sharedParts branches with
  | _ :: _ :: _, start :: more =>
    let tails := branches.map fun node => ofParts (node.parts.drop (more.length + 1))
    concat (start :: more ++ [alternatives tails])
  | _, _ => alternatives branches

/-- A repetition; no repetition at all matches nothing, and one repetition is the body. -/
def repeated (body : Node) (min : Nat) (max : Option Nat) (greedy : Bool) : Node :=
  if max = some 0 then empty
  else if min = 1 ∧ max = some 1 then body
  else .repeat body min max greedy

end Node

end LineLexer
