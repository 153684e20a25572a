/-
Tokens: categorized slices of one line.
-/
import LineLexer.Category
import LineLexer.Text.Basic

namespace LineLexer

/-- A categorized slice of one line. -/
structure Token where
  /-- What the slice is. -/
  category : Category
  /-- Byte offset of the slice within the line. -/
  start : Nat
  /-- The characters of the slice. -/
  text : Text
deriving DecidableEq, Repr

namespace Token

/-- Byte offset one past the last byte of the token. -/
def stop (t : Token) : Nat := t.start + t.text.byteLength

/-- The token is exactly what the line holds at its offset. -/
def IsSliceOf (t : Token) (line : Text) : Prop := line.slice? t.start t.stop = some t.text

instance (t : Token) (line : Text) : Decidable (t.IsSliceOf line) :=
  inferInstanceAs (Decidable (_ = _))

end Token

end LineLexer
