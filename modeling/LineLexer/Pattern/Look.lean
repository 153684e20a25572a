/-
Assertions: what a pattern may demand of a position without consuming anything.
-/
import LineLexer.CharSet
import LineLexer.Pattern.Cursor

namespace LineLexer

/-- Which change between word characters and others a position must show. -/
inductive WordEdge where
  /-- A word starts or stops here. -/
  | boundary
  /-- No word starts or stops here. -/
  | noBoundary
  /-- A word starts here. -/
  | start
  /-- A word stops here. -/
  | stop
  /-- No word character comes before. -/
  | startHalf
  /-- No word character comes after. -/
  | stopHalf
deriving DecidableEq, Repr

/-- A demand on a position. -/
inductive Look where
  /-- The start of the whole text. -/
  | textStart
  /-- The end of the whole text. -/
  | textEnd
  /-- The start of a line; `crlf` also ends lines at carriage returns. -/
  | lineStart (crlf : Bool)
  /-- The end of a line; `crlf` also ends lines at carriage returns. -/
  | lineEnd (crlf : Bool)
  /-- A change at a word's edge, where `unicode` says which characters make words. -/
  | word (edge : WordEdge) (unicode : Bool)
deriving DecidableEq, Repr

namespace WordEdge

/-- Whether the edge is there, from what stands before and after. -/
def holds (before after : Bool) : WordEdge → Bool
  | boundary => before != after
  | noBoundary => before == after
  | start => !before && after
  | stop => before && !after
  | startHalf => !before
  | stopHalf => !after

end WordEdge

namespace Look

/-- Whether a position meets the demand. -/
def holds (look : Look) (cur : Cursor) : Bool :=
  match look with
  | textStart => cur.before.isNone
  | textEnd => cur.rest.isEmpty
  | lineStart crlf =>
    match cur.before with
    | none => true
    | some c => c == '\n' || crlf && c == '\r' && cur.rest.head? != some '\n'
  | lineEnd crlf =>
    match cur.rest with
    | [] => true
    | c :: _ => if crlf then c == '\r' || c == '\n' && cur.before != some '\r' else c == '\n'
  | word edge unicode =>
    let isWord := (if unicode then CharSet.unicodeWord else CharSet.asciiWord).contains
    edge.holds (cur.before.any isWord) (cur.rest.head?.any isWord)

end Look

end LineLexer
