/-
The shortest decimal that reads back to the same double.

The reals that round to a double form an interval around it, half way to its neighbours,
whose ends belong to it when the double's significand is even.  For one digit, two
digits and so on, the decimal grid with that many digits has two points next to the
double; the first grid with one of them inside the interval gives the digits, the
nearer point if both are inside and the upper one if they are equally near.  Seventeen
digits always suffice.
-/
import LineLexer.Numeral.Read

namespace LineLexer

/-- A positive decimal: its digits, with the point so many places after the first of them. -/
structure Digits where
  /-- The significant digits, the last of them not zero. -/
  digits : List Char
  /-- How many of them stand before the point; beyond the last one, or before the first, there are
  zeros. -/
  point : Int
deriving DecidableEq, Repr

namespace Shortest

/-- The decimal exponent of the place before the first digit of `num / den`: the least `k` with
`num / den < 10 ^ k`. -/
def pointOf (num den : Nat) : Int :=
  if den ≤ num then Decimal.digitCount (num / den)
  else 1 - (Decimal.digitCount ((den - 1) / num) : Int)

/-- Compares `a * 10 ^ e` with `b / den`, where `e` may be negative. -/
def compareScaled (a : Nat) (e : Int) (b den : Nat) : Ordering :=
  compare (a * Nat.pow 10 e.toNat * den) (b * Nat.pow 10 (-e).toNat)

/-- The reals that round to a double, as counts of quarter units, with the double itself. -/
structure Interval where
  /-- The lower end. -/
  low : Nat
  /-- The double. -/
  value : Nat
  /-- The upper end. -/
  high : Nat
  /-- Whether the ends belong to the interval. -/
  closed : Bool

/-- The interval of a positive double. -/
def interval (units : Nat) : Interval :=
  let step := Binary64.spacing units
  let significand := units / step
  let below := if significand = Nat.pow 2 52 ∧ 1 < step then step else 2 * step
  ⟨4 * units - below, 4 * units, 4 * units + 2 * step, significand % 2 == 0⟩

/-- The number of quarter units in one. -/
def quarters : Nat := Nat.pow 2 (Binary64.unitPlaces + 2)

/-- Whether `a * 10 ^ e` lies in the interval. -/
def Interval.holds (i : Interval) (a : Nat) (e : Int) : Bool :=
  let toLow := compareScaled a e i.low quarters
  let toHigh := compareScaled a e i.high quarters
  (toLow == .gt || i.closed && toLow == .eq) && (toHigh == .lt || i.closed && toHigh == .eq)

/-- The point of the grid of multiples of `10 ^ e` that stands for the interval, if one of the two
next to its double is inside. -/
def onGrid? (i : Interval) (e : Int) : Option Nat :=
  let below := i.value * Nat.pow 10 (-e).toNat / (quarters * Nat.pow 10 e.toNat)
  let above := below + 1
  match i.holds below e, i.holds above e with
  | true, false => some below
  | false, true => some above
  | false, false => none
  | true, true =>
    -- The upper point is nearer, or as near, when twice the double is not below their sum.
    match compareScaled (below + above) e (2 * i.value) quarters with
    | .gt => some below
    | _ => some above

/-- The digits of a whole number without the zeros at its end. -/
def significant (n : Nat) : List Char :=
  ((Nat.toDigits 10 n).reverse.dropWhile (· == '0')).reverse

/-- The shortest digits of a positive count of units. -/
def digits (units : Nat) : Digits :=
  let i := interval units
  let point := pointOf i.value quarters
  let found := (List.range 17).findSome? fun (n : Nat) =>
    let e : Int := point - (n + 1 : Nat)
    (onGrid? i e).map (·, e)
  match found with
  | some (a, e) => ⟨significant a, e + Decimal.digitCount a⟩
  | none => ⟨['0'], 1⟩

end Shortest

end LineLexer
