/-
Double precision numbers as exact values.

Every finite double is a whole number of units of 2^-1074, the least positive one.  A
number is therefore a sign and a count of units, and all arithmetic on it is on natural
numbers.  Counts below 2^53 are all doubles; above, only multiples of the spacing are,
which doubles with each power of two.
-/
namespace LineLexer

/-- A double precision number. -/
inductive Binary64 where
  /-- A finite number of so many units of 2^-1074. -/
  | finite (negative : Bool) (units : Nat)
  /-- Larger than every finite number. -/
  | infinite (negative : Bool)
  /-- No number. -/
  | notANumber
deriving DecidableEq, Repr

namespace Binary64

/-- The binary places of the unit. -/
def unitPlaces : Nat := 1074

/-- The first count of units that is too large for a finite number. -/
def overflow : Nat := Nat.pow 2 (1024 + unitPlaces)

/-- The distance between neighbouring doubles just above a count of units. -/
def spacing (units : Nat) : Nat := Nat.pow 2 (units.log2 - 52)

/-- `num / den` to the nearest whole number, a half to the even neighbour. -/
def roundHalfEven (num den : Nat) : Nat :=
  let q := num / den
  let r := num % den
  if 2 * r < den then q
  else if den < 2 * r then q + 1
  else if q % 2 = 0 then q else q + 1

/-- The double nearest to `num / den`. -/
def ofRatio (negative : Bool) (num den : Nat) : Binary64 :=
  let scaled := num * Nat.pow 2 unitPlaces
  let step := spacing (scaled / den)
  let units := roundHalfEven scaled (den * step) * step
  if overflow ≤ units then infinite negative else finite negative units

end Binary64

end LineLexer
