/-
Positions in a line.

A cursor stands between two characters and knows both: the one before it, which the
assertions `^` and `\b` look at, and the text after it, which a match consumes.  Its
offset counts the bytes already passed.
-/
import LineLexer.Text.Basic

namespace LineLexer

/-- A position between two characters of a line. -/
structure Cursor where
  /-- The character just passed; none at the start of the line. -/
  before : Option Char
  /-- The bytes passed so far. -/
  offset : Nat
  /-- The characters still to come. -/
  rest : Text
deriving DecidableEq, Repr

namespace Cursor

/-- The position before the first character of a line. -/
def start (line : Text) : Cursor := ⟨none, 0, line⟩

/-- The position after passing `c`, with `rest` still to come. -/
def pass (cur : Cursor) (c : Char) (rest : Text) : Cursor :=
  ⟨some c, cur.offset + c.utf8Size, rest⟩

@[simp] theorem rest_pass (cur : Cursor) (c : Char) (rest : Text) :
    (cur.pass c rest).rest = rest := rfl

/-- The characters left. -/
def remaining (cur : Cursor) : Nat := cur.rest.length

end Cursor

/-- The stretch of a line between two cursors. -/
structure Span where
  /-- Where the stretch starts. -/
  start : Cursor
  /-- Where it stops. -/
  stop : Cursor
deriving DecidableEq, Repr

namespace Span

/-- The characters between the cursors. -/
def text (s : Span) : Text := s.start.rest.take (s.start.remaining - s.stop.remaining)

/-- Whether there are none. -/
def isEmpty (s : Span) : Bool := s.start.remaining ≤ s.stop.remaining

end Span

end LineLexer
