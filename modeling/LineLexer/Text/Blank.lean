/-
Blanks: the characters that separate words and surround cells.

The set is Unicode's `White_Space` property, which is wider than the blanks a
pattern's `\s` knows: a no-break space is trimmed from a cell and never matched by
a rule.
-/
import LineLexer.Text.Basic

namespace LineLexer

/-- Inclusive ranges of the property `White_Space`, ascending. -/
def blankRanges : List (Nat × Nat) := [
  (0x09, 0x0D), (0x20, 0x20), (0x85, 0x85), (0xA0, 0xA0), (0x1680, 0x1680), (0x2000, 0x200A),
  (0x2028, 0x2029), (0x202F, 0x202F), (0x205F, 0x205F), (0x3000, 0x3000)]

/-- The characters with the property `White_Space`. -/
def isBlank (c : Char) : Bool := blankRanges.any fun (lo, hi) => lo ≤ c.toNat && c.toNat ≤ hi

namespace Text

/-! ### Trimming and splitting -/

/-- Without the leading blanks. -/
def trimStart (t : Text) : Text := t.dropWhile isBlank

/-- Without the trailing blanks. -/
def trimEnd (t : Text) : Text := (t.reverse.dropWhile isBlank).reverse

/-- Without the blanks at either end. -/
def trim (t : Text) : Text := t.trimStart.trimEnd

/-- Whether there is nothing but blanks. -/
def allBlank (t : Text) : Bool := t.all isBlank

/-- The maximal runs of characters that are not blank, in order. -/
def words (t : Text) : List Text := (t.splitOnP isBlank).filter (· ≠ [])

/-- Without the leading and trailing `c`s. -/
def trimChar (c : Char) (t : Text) : Text :=
  ((t.dropWhile (· == c)).reverse.dropWhile (· == c)).reverse

/-! ### Lines -/

/-- A line without the carriage return at its end, if there is one. -/
def stripReturn (line : Text) : Text :=
  if line.getLast? = some '\r' then line.dropLast else line

/-- The pieces between line feeds, one more than there are line feeds. -/
def rawLines (t : Text) : List Text := t.splitOn '\n'

/-- The lines of a file: a line feed ends a line, so nothing follows the last one, and a carriage
return before a line feed is not part of a line.  What no line feed ends is a line as it stands,
if there is anything of it. -/
def lines (t : Text) : List Text :=
  t.rawLines.dropLast.map stripReturn ++ t.rawLines.getLast?.toList.filter (· ≠ [])

/-! ### ASCII case -/

/-- Equal up to the case of ASCII letters. -/
def eqIgnoreCase (s t : Text) : Bool := s.map Char.toLower == t.map Char.toLower

end Text

/-! ### Words of the command language -/

/-- An ASCII letter, digit or underscore. -/
def isWordChar (c : Char) : Bool := c.isAlphanum || c == '_'

/-- A non-empty run of word characters. -/
def Text.isWord (t : Text) : Bool := t ≠ [] && t.all isWordChar

end LineLexer
