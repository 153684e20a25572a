/-
Reading a number.

A number is an optional sign followed by a decimal numeral, or by `inf`, `infinity` or
`nan` in any case, with nothing around it.  A numeral has a digit before or after its
optional point, and an optional exponent.  The result is the double nearest to what is
written; numerals beyond the range of doubles read as infinite, or as zero.
-/
import LineLexer.Numeral.Binary64
import LineLexer.Text.Blank

namespace LineLexer

/-- A decimal numeral without its sign. -/
structure Decimal where
  /-- The digits as a whole number, the point left out. -/
  digits : Nat
  /-- The power of ten by which they are to be multiplied. -/
  exponent : Int
deriving DecidableEq, Repr

namespace Decimal

/-- The whole number that digits spell. -/
def ofDigits (t : Text) : Nat := t.foldl (fun n c => 10 * n + (c.toNat - 48)) 0

/-- An exponent after its letter. -/
def readExponent? (t : Text) : Option Int :=
  let (negative, digits) : Bool × Text := match t with
    | '-' :: rest => (true, rest)
    | '+' :: rest => (false, rest)
    | t => (false, t)
  if digits.isEmpty || !digits.all Char.isDigit then none
  else some (if negative then -(ofDigits digits : Int) else ofDigits digits)

/-- Reads a whole text as a numeral. -/
def read? (t : Text) : Option Decimal :=
  let whole := t.takeWhile Char.isDigit
  let t := t.dropWhile Char.isDigit
  let (fraction, t) : Text × Text := match t with
    | '.' :: rest => (rest.takeWhile Char.isDigit, rest.dropWhile Char.isDigit)
    | t => ([], t)
  let digits := ofDigits (whole ++ fraction)
  if whole.isEmpty && fraction.isEmpty then none
  else match t with
    | [] => some ⟨digits, -fraction.length⟩
    | c :: rest =>
      if c = 'e' ∨ c = 'E' then
        (readExponent? rest).map fun e => ⟨digits, e - fraction.length⟩
      else none

/-- The number of decimal digits of a whole number, none for zero. -/
def digitCount (n : Nat) : Nat := if n = 0 then 0 else (Nat.toDigits 10 n).length

/-- The double nearest to the numeral.  A numeral below 10^-400 is nearest to zero and one from
10^400 up is infinite, so neither is worked out. -/
def toBinary64 (d : Decimal) (negative : Bool) : Binary64 :=
  let magnitude := d.exponent + digitCount d.digits
  if d.digits = 0 ∨ magnitude < -400 then .finite negative 0
  else if 400 < magnitude then .infinite negative
  else .ofRatio negative (d.digits * Nat.pow 10 d.exponent.toNat)
      (Nat.pow 10 (-d.exponent).toNat)

end Decimal

namespace Binary64

/-- Reads a number without its sign. -/
def readUnsigned? (negative : Bool) (t : Text) : Option Binary64 :=
  let lower := t.map Char.toLower
  if lower = "inf".toList ∨ lower = "infinity".toList then some (.infinite negative)
  else if lower = "nan".toList then some .notANumber
  else (Decimal.read? t).map (·.toBinary64 negative)

/-- Reads a whole text as a number. -/
def read? (t : Text) : Option Binary64 :=
  match t with
  | '-' :: rest => readUnsigned? true rest
  | '+' :: rest => readUnsigned? false rest
  | t => readUnsigned? false t

end Binary64

end LineLexer
