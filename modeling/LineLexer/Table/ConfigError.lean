/-
Defects of a configuration.

A table or keyword list with a defect is refused as a whole.  Each defect names the
place it was found at; `message` words it and `diagnostic` adds what a host shows
beside it.
-/
import LineLexer.Diagnostic
import LineLexer.Keyword
import LineLexer.Pattern

namespace LineLexer

/-- Where a rule stands. -/
structure RulePlace where
  /-- The name of its state. -/
  state : String
  /-- Its index in the state. -/
  rule : Nat
deriving DecidableEq, Repr

/-- A defect of a rule table or of keyword lists. -/
inductive ConfigError where
  /-- A word is listed under two categories. -/
  | duplicateKeyword (word : DuplicateKeyword)
  /-- Two states share a name. -/
  | duplicateState (name : String)
  /-- A rule leads to a state that is not declared. -/
  | unknownState (place : RulePlace) (next : String)
  /-- A rule has more or fewer labels than its pattern has groups. -/
  | labelCount (place : RulePlace) (pattern : String) (labels groups : Nat)
  /-- A rule's pattern cannot be used. -/
  | invalidPattern (place : RulePlace) (pattern : String) (problem : PatternProblem)
  /-- The state to start in is not declared. -/
  | missingStartState (name : String)
  /-- There are more states than a table may have. -/
  | tooManyStates (count : Nat)
deriving DecidableEq, Repr

/-- The largest number of states a table may have. -/
def maxStates : Nat := 256

/-- The beginning of every message about a rule. -/
def RulePlace.describe (place : RulePlace) : String :=
  "rule " ++ toString place.rule ++ " of state `" ++ place.state ++ "`"

namespace DuplicateKeyword

/-- The text shown for a word listed twice. -/
def message (e : DuplicateKeyword) : String :=
  "keyword `" ++ String.ofList e.keyword ++ "` is listed as both `" ++ e.first.label ++ "` and `" ++
    e.second.label ++ "`"

end DuplicateKeyword

namespace ConfigError

/-- The text shown for a defect. -/
def message : ConfigError → String
  | duplicateKeyword word => word.message
  | duplicateState name => "state `" ++ name ++ "` is declared more than once"
  | unknownState place next =>
    place.describe ++ " transitions to undeclared state `" ++ next ++ "`"
  | labelCount place _ labels groups =>
    place.describe ++ " has " ++ toString labels ++ " labels for " ++ toString groups ++
      " capture groups"
  | invalidPattern place _ (.malformed defect) =>
    place.describe ++ " has an invalid pattern: " ++ defect.message
  | invalidPattern place _ .matchesEmpty => place.describe ++ " can match the empty string"
  | missingStartState name => "start state `" ++ name ++ "` is not declared"
  | tooManyStates count =>
    toString count ++ " states declared, at most " ++ toString maxStates ++ " are supported"

/-- The remarks a host shows below the message. -/
def notes : ConfigError → List String
  | duplicateKeyword _ => ["a keyword must belong to exactly one category"]
  | labelCount _ pattern _ _ | invalidPattern _ pattern _ => ["pattern: " ++ pattern]
  | _ => []

/-- The defect as a host reports it. -/
def diagnostic (e : ConfigError) : Diagnostic := ⟨.error, e.message, e.notes, []⟩

end ConfigError

end LineLexer
