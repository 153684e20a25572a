/-
Sets of characters, given by ranges of code points.

A pattern's classes are built from ranges by union, intersection and difference, so a
set is a list of ranges, in any order and possibly overlapping.  No normal form is
needed: membership looks at every range, and each operation is stated by what it does
to membership (`contains_union`, `contains_diff`, `contains_inter`).
-/
import LineLexer.Text.Blank
import LineLexer.Unicode.Case
import LineLexer.Unicode.Word

namespace LineLexer

/-- The code points from `lo` to `hi`, both included. -/
structure CharRange where
  /-- The first code point. -/
  lo : Nat
  /-- The last code point. -/
  hi : Nat
deriving DecidableEq, Repr

namespace CharRange

/-- Whether a code point lies in the range. -/
def contains (r : CharRange) (n : Nat) : Bool := r.lo ≤ n && n ≤ r.hi

/-- What is left of `s` outside `r`: up to one piece on either side. -/
def cut (r s : CharRange) : List CharRange :=
  if s.hi < r.lo ∨ r.hi < s.lo then [s]
  else
    (if s.lo < r.lo then [⟨s.lo, r.lo - 1⟩] else []) ++
      (if r.hi < s.hi then [⟨r.hi + 1, s.hi⟩] else [])

/-- The part of `s` inside `r`. -/
def meet (r s : CharRange) : List CharRange :=
  let lo := max r.lo s.lo
  let hi := min r.hi s.hi
  if lo ≤ hi then [⟨lo, hi⟩] else []

/-- Whether the range holds a character: surrogate code points are none. -/
def hasScalar (r : CharRange) : Bool := r.lo ≤ r.hi && !(0xD800 ≤ r.lo && r.hi ≤ 0xDFFF)

theorem any_contains_cut (r s : CharRange) (n : Nat) :
    (r.cut s).any (·.contains n) = (s.contains n && !r.contains n) := by
  unfold cut
  split
  · rename_i h
    rw [Bool.eq_iff_iff]
    simp [contains]
    omega
  · rename_i h
    rw [Bool.eq_iff_iff]
    split <;> split <;> simp [contains] <;> omega

theorem any_contains_meet (r s : CharRange) (n : Nat) :
    (r.meet s).any (·.contains n) = (r.contains n && s.contains n) := by
  rw [Bool.eq_iff_iff]
  unfold meet
  simp only
  split <;> simp [contains] <;> omega

end CharRange

/-- A set of characters. -/
structure CharSet where
  /-- The ranges whose union the set is. -/
  ranges : List CharRange
deriving DecidableEq, Repr

namespace CharSet

/-- Membership by code point. -/
def containsCode (s : CharSet) (n : Nat) : Bool := s.ranges.any (·.contains n)

/-- Membership. -/
def contains (s : CharSet) (c : Char) : Bool := s.containsCode c.toNat

/-! ### Building sets -/

/-- No character. -/
def empty : CharSet := ⟨[]⟩

/-- The characters from `lo` to `hi`. -/
def range (lo hi : Char) : CharSet := ⟨[⟨lo.toNat, hi.toNat⟩]⟩

/-- One character. -/
def single (c : Char) : CharSet := range c c

/-- The code points of a table of inclusive ranges. -/
def ofPairs (pairs : List (Nat × Nat)) : CharSet := ⟨pairs.map fun (lo, hi) => ⟨lo, hi⟩⟩

/-- Every character. -/
def all : CharSet := ofPairs [(0, 0xD7FF), (0xE000, 0x10FFFF)]

/-- The characters of either set. -/
def union (s t : CharSet) : CharSet := ⟨s.ranges ++ t.ranges⟩

/-- The characters of both sets. -/
def inter (s t : CharSet) : CharSet := ⟨s.ranges.flatMap fun r => t.ranges.flatMap r.meet⟩

/-- The characters of `s` that are not in `t`. -/
def diff (s t : CharSet) : CharSet :=
  ⟨t.ranges.foldl (fun kept r => kept.flatMap r.cut) s.ranges⟩

/-- The characters of exactly one of the sets. -/
def symmDiff (s t : CharSet) : CharSet := (s.diff t).union (t.diff s)

/-- The characters that are not in the set. -/
def complement (s : CharSet) : CharSet := all.diff s

/-- Whether the set holds no character. -/
def isEmpty (s : CharSet) : Bool := !s.ranges.any (·.hasScalar)

/-! ### Membership in the sets built -/

@[simp] theorem contains_empty (c : Char) : empty.contains c = false := rfl

@[simp] theorem contains_union (s t : CharSet) (c : Char) :
    (s.union t).contains c = (s.contains c || t.contains c) := by
  simp [union, contains, containsCode]

@[simp] theorem contains_inter (s t : CharSet) (c : Char) :
    (s.inter t).contains c = (s.contains c && t.contains c) := by
  rw [Bool.eq_iff_iff]
  simp only [inter, contains, containsCode, List.any_flatMap, CharRange.any_contains_meet,
    List.any_eq_true, Bool.and_eq_true]
  constructor
  · rintro ⟨r, hr, q, hq, h⟩
    exact ⟨⟨r, hr, h.1⟩, ⟨q, hq, h.2⟩⟩
  · rintro ⟨⟨r, hr, h⟩, ⟨q, hq, h'⟩⟩
    exact ⟨r, hr, q, hq, h, h'⟩

theorem any_contains_foldl_cut (rs kept : List CharRange) (n : Nat) :
    (rs.foldl (fun kept r => kept.flatMap r.cut) kept).any (·.contains n) =
      (kept.any (·.contains n) && !rs.any (·.contains n)) := by
  induction rs generalizing kept with
  | nil => simp
  | cons r rs ih =>
    rw [List.foldl_cons, ih, Bool.eq_iff_iff]
    simp only [List.any_flatMap, CharRange.any_contains_cut, List.any_cons, Bool.not_or,
      Bool.and_eq_true, List.any_eq_true]
    constructor
    · rintro ⟨⟨s, hs, h⟩, hrest⟩
      exact ⟨⟨s, hs, h.1⟩, h.2, hrest⟩
    · rintro ⟨⟨s, hs, h⟩, hr, hrest⟩
      exact ⟨⟨s, hs, h, hr⟩, hrest⟩

@[simp] theorem contains_diff (s t : CharSet) (c : Char) :
    (s.diff t).contains c = (s.contains c && !t.contains c) := by
  simp [diff, contains, containsCode, any_contains_foldl_cut]

/-! ### Closing a set under case -/

/-- The set moved up by `distance` code points. -/
def shiftUp (distance : Nat) (s : CharSet) : CharSet :=
  ⟨s.ranges.map fun r => ⟨r.lo + distance, r.hi + distance⟩⟩

/-- The set moved down by `distance` code points. -/
def shiftDown (distance : Nat) (s : CharSet) : CharSet :=
  ⟨s.ranges.map fun r => ⟨r.lo - distance, r.hi - distance⟩⟩

/-- The set with the other case of each of its ASCII letters. -/
def foldAscii (s : CharSet) : CharSet :=
  s.union <|
    (shiftUp 32 (s.inter (range 'A' 'Z'))).union (shiftDown 32 (s.inter (range 'a' 'z')))

/-- The set with every character that folds to the same character as one of its own. -/
def foldUnicode (s : CharSet) : CharSet :=
  let pairs := Unicode.foldRuns.flatMap (·.pairs)
  let touched := pairs.filter fun (source, target) =>
    s.containsCode source || s.containsCode target
  let targets := touched.map (·.2)
  let sources := (pairs.filter fun (_, target) => targets.contains target).map (·.1)
  s.union ⟨(targets ++ sources).map fun n => ⟨n, n⟩⟩

/-! ### Named sets -/

/-- ASCII decimal digits. -/
def asciiDigit : CharSet := range '0' '9'

/-- ASCII blanks: tab, line feed, vertical tab, form feed, carriage return, space. -/
def asciiSpace : CharSet := ofPairs [(0x09, 0x0D), (0x20, 0x20)]

/-- ASCII letters, digits and the underscore. -/
def asciiWord : CharSet := ofPairs [(0x30, 0x39), (0x41, 0x5A), (0x5F, 0x5F), (0x61, 0x7A)]

/-- Decimal digits of all scripts. -/
def unicodeDigit : CharSet := ofPairs Unicode.digitRanges

/-- Blanks of all scripts. -/
def unicodeSpace : CharSet := ofPairs blankRanges

/-- Word characters of all scripts. -/
def unicodeWord : CharSet := ofPairs Unicode.wordRanges

end CharSet

end LineLexer
