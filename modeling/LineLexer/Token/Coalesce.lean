/-
Coalescing of adjacent tokens.

Characters that no rule matches arrive one token each, so the body of a string is a
run of one-character tokens.  Coalescing draws such a run as a single token.  Two
tokens merge when they share a category and the second starts where the first stops;
a skipped character between them keeps them apart, since the merged token would claim
text that no rule matched.  The merged text is cut from the line again, so tokens that
do not fit the line stay as they are.
-/
import LineLexer.Token

namespace LineLexer

namespace Token

/-- Same category, and `b` starts where `a` stops. -/
def mergable (a b : Token) : Bool := a.category = b.category && a.stop = b.start

/-- The one token that covers both, with its text cut from the line; none if they do not merge. -/
def merge? (line : Text) (a b : Token) : Option Token :=
  if a.mergable b then
    (line.slice? a.start b.stop).map fun text => { a with text }
  else none

/-- Adds a token after `before`, merging it into the last one where that is possible. -/
def pushMerged (line : Text) (before : List Token) (t : Token) : List Token :=
  match before.getLast? with
  | none => [t]
  | some last =>
    match merge? line last t with
    | some merged => before.dropLast ++ [merged]
    | none => before ++ [t]

/-- Merges runs of adjacent tokens of one category cut from `line`. -/
def coalesce (line : Text) (tokens : List Token) : List Token :=
  tokens.foldl (pushMerged line) []

end Token

end LineLexer
