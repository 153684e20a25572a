/-
How a number is written.

Both layouts use the shortest digits.  The plain one never has an exponent and writes a
whole number without a point.  The marked one always shows that the number is not whole
by kind: it writes `1.0`, and turns to an exponent below 1e-4 and from 1e16 up.
-/
import LineLexer.Numeral.Shortest

namespace LineLexer

namespace Digits

/-- Zeros in a row. -/
def zeros (n : Int) : Text := List.replicate n.toNat '0'

/-- The digits with the point in its place; a whole number ends in `whole`. -/
def positional (d : Digits) (whole : Text) : Text :=
  if d.point ≤ 0 then ['0', '.'] ++ zeros (-d.point) ++ d.digits
  else if d.digits.length ≤ d.point then d.digits ++ zeros (d.point - d.digits.length) ++ whole
  else d.digits.take d.point.toNat ++ ['.'] ++ d.digits.drop d.point.toNat

/-- One digit before the point, and the power of ten after an `e`. -/
def scientific (d : Digits) : Text :=
  d.digits.take 1 ++ (if 1 < d.digits.length then '.' :: d.digits.drop 1 else []) ++ ['e'] ++
    (toString (d.point - 1)).toList

end Digits

namespace Binary64

/-- Writes a number, with `magnitude` for the digits of one that is not zero. -/
def layout (zero : Text) (magnitude : Digits → Text) : Binary64 → Text
  | notANumber => "NaN".toList
  | infinite negative => (if negative then ['-'] else []) ++ "inf".toList
  | finite negative units =>
    (if negative then ['-'] else []) ++
      if units = 0 then zero else magnitude (Shortest.digits units)

/-- The number as it is shown by itself: no exponent, and no point in a whole number. -/
def plain : Binary64 → Text := layout ['0'] (·.positional [])

/-- The number as it is shown in a list: with a point or an exponent. -/
def marked : Binary64 → Text :=
  layout "0.0".toList fun d =>
    if d.point ≤ -4 ∨ 16 < d.point then d.scientific else d.positional ".0".toList

end Binary64

end LineLexer
