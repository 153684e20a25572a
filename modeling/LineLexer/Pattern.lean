/-
Patterns that a rule may use.

A rule that could match nothing would let the lexer stand still, so a pattern is a node
together with the proof that its least width is not zero.  A node that never matches
has no least width and is accepted.

Which texts are patterns is a matter of their form alone, with two differences from the
engines that read the same notation:

  * a class given by a Unicode property is malformed here even inside a Unicode group
    (`(?u:\pL)`), where an engine has a set for it;
  * no pattern is too large or nested too deeply.  An engine refuses parts that are nested
    more than 250 deep, and repetitions such as `(?:a{1000}){1000}` that outgrow its limit
    of ten megabytes when they are unfolded.
-/
import LineLexer.Pattern.Reader
import LineLexer.Pattern.Run

namespace LineLexer

/-- Why a pattern text makes no pattern. -/
inductive PatternProblem where
  /-- The text cannot be read. -/
  | malformed (defect : PatternDefect)
  /-- The pattern can match without consuming anything. -/
  | matchesEmpty
deriving DecidableEq, Repr

/-- A pattern every match of which consumes something. -/
structure Pattern where
  /-- What the pattern matches. -/
  node : Node
  /-- Nothing is not among it. -/
  minWidth_ne_zero : node.minWidth ≠ some 0

namespace Pattern

/-- Reads a pattern text, whatever its size. -/
def compile (caseInsensitive : Bool) (source : Text) : Except PatternProblem Pattern :=
  match Node.read caseInsensitive source with
  | .error defect => .error (.malformed defect)
  | .ok node => if h : node.minWidth = some 0 then .error .matchesEmpty else .ok ⟨node, h⟩

/-- The number of groups of the pattern. -/
def groupCount (p : Pattern) : Nat := p.node.groupCount

/-- The preferred match at a cursor. -/
def matchAt? (p : Pattern) (cur : Cursor) : Option Match := p.node.matchAt? cur

end Pattern

end LineLexer
