/-
Numbers in small letters.

A numeral holds one letter, that of its exponent, and the names of the other numbers are
compared in small letters, so a number reads the same in either case.
-/
import LineLexer.Numeral.Read
import LineLexer.Proofs.Text.Case
import Mathlib.Data.List.TakeWhile

namespace LineLexer

/-! ### Digits and signs -/

theorem isDigit_comp_toLower : Char.isDigit ∘ Char.toLower = Char.isDigit :=
  comp_toLower (by decide)

/-- Digits have no case. -/
theorem map_toLower_of_isDigit {t : Text} (h : ∀ c ∈ t, c.isDigit = true) :
    t.map Char.toLower = t := by
  have hid : ∀ c ∈ t, c.toLower = id c := by
    intro c hc
    have hdigit := isDigit_iff.mp (h c hc)
    apply Char.toNat_inj.mp
    rw [toNat_toLower, if_neg (by omega)]
    rfl
  rw [List.map_congr_left hid, List.map_id]

theorem takeWhile_isDigit_map_toLower (t : Text) :
    (t.map Char.toLower).takeWhile Char.isDigit = t.takeWhile Char.isDigit := by
  rw [List.takeWhile_map, isDigit_comp_toLower]
  apply map_toLower_of_isDigit
  intro c hc
  exact List.mem_takeWhile_imp hc

theorem dropWhile_isDigit_map_toLower (t : Text) :
    (t.map Char.toLower).dropWhile Char.isDigit = (t.dropWhile Char.isDigit).map Char.toLower := by
  rw [List.dropWhile_map, isDigit_comp_toLower]

/-- Whether there is a minus sign, and what follows the sign. -/
def signed : Text → Bool × Text
  | '-' :: rest => (true, rest)
  | '+' :: rest => (false, rest)
  | t => (false, t)

/-- What does not begin with a sign is not negative. -/
theorem signed_of_ne {t : Text} (hminus : t.head? ≠ some '-') (hplus : t.head? ≠ some '+') :
    signed t = (false, t) := by
  unfold signed
  split
  · exact absurd rfl hminus
  · exact absurd rfl hplus
  · rfl

theorem signed_map_toLower (t : Text) :
    signed (t.map Char.toLower) = ((signed t).1, (signed t).2.map Char.toLower) := by
  cases t with
  | nil => rfl
  | cons c t =>
      by_cases hminus : c = '-'
      · subst hminus
        rfl
      · by_cases hplus : c = '+'
        · subst hplus
          rfl
        · have hlower : ∀ {d : Char}, d.toNat < 65 → c ≠ d → c.toLower ≠ d := by
            intro d hd hne
            exact mt (toLower_eq_iff (Or.inl hd)).mp hne
          rw [signed_of_ne (t := c :: t) (by simpa using hminus) (by simpa using hplus)]
          apply signed_of_ne
          · simpa using hlower (by decide) hminus
          · simpa using hlower (by decide) hplus

/-! ### Numerals -/

namespace Decimal

/-- The whole number that digits spell, if there are digits only. -/
def digits? (t : Text) : Option Nat :=
  if t.isEmpty || !t.all Char.isDigit then none else some (ofDigits t)

theorem digits?_map_toLower (t : Text) : digits? (t.map Char.toLower) = digits? t := by
  unfold digits?
  rw [List.all_map, isDigit_comp_toLower, List.isEmpty_map]
  by_cases h : t.all Char.isDigit = true
  · rw [map_toLower_of_isDigit (List.all_eq_true.mp h)]
  · simp [h]

theorem readExponent?_eq (t : Text) : readExponent? t =
    (digits? (signed t).2).map fun n => if (signed t).1 then -(n : Int) else n := by
  have hread : readExponent? t =
      if (signed t).2.isEmpty || !(signed t).2.all Char.isDigit then none
      else some (if (signed t).1 then -(ofDigits (signed t).2 : Int) else ofDigits (signed t).2) :=
    rfl
  rw [hread, digits?]
  split <;> rfl

theorem readExponent?_map_toLower (t : Text) :
    readExponent? (t.map Char.toLower) = readExponent? t := by
  rw [readExponent?_eq, readExponent?_eq, signed_map_toLower, digits?_map_toLower]

/-- The fraction behind a point, and what follows it. -/
def fraction : Text → Text × Text
  | '.' :: rest => (rest.takeWhile Char.isDigit, rest.dropWhile Char.isDigit)
  | t => ([], t)

theorem fraction_map_toLower (t : Text) :
    fraction (t.map Char.toLower) = ((fraction t).1, (fraction t).2.map Char.toLower) := by
  have hnone : ∀ {c u}, c ≠ '.' → fraction (c :: u) = ([], c :: u) := by
    intro c u hpoint
    unfold fraction
    split
    · rename_i h
      exact absurd (List.cons.inj h).1 hpoint
    · rfl
  cases t with
  | nil => rfl
  | cons c t =>
      by_cases hpoint : c = '.'
      · subst hpoint
        show (List.takeWhile Char.isDigit (t.map Char.toLower),
          List.dropWhile Char.isDigit (t.map Char.toLower)) = _
        rw [takeWhile_isDigit_map_toLower, dropWhile_isDigit_map_toLower]
        rfl
      · have hlower : c.toLower ≠ '.' := mt (toLower_eq_iff (by decide)).mp hpoint
        rw [List.map_cons, hnone hpoint, hnone hlower]
        rfl

/-- The power of ten after the digits; none if something else follows them. -/
def power? : Text → Option Int
  | [] => some 0
  | c :: rest => if c = 'e' ∨ c = 'E' then readExponent? rest else none

theorem power?_map_toLower (t : Text) : power? (t.map Char.toLower) = power? t := by
  cases t with
  | nil => rfl
  | cons c t =>
      have hletter : (c.toLower = 'e' ∨ c.toLower = 'E') ↔ (c = 'e' ∨ c = 'E') := by
        simp only [← Char.toNat_inj, toNat_toLower]
        have he : 'e'.toNat = 101 := rfl
        have hE : 'E'.toNat = 69 := rfl
        split <;> omega
      rw [List.map_cons, power?, power?, readExponent?_map_toLower]
      simp only [hletter]

/-- A numeral is taken apart into digits, a fraction and a power of ten. -/
theorem read?_eq (t : Text) : read? t =
    if (t.takeWhile Char.isDigit).isEmpty && (fraction (t.dropWhile Char.isDigit)).1.isEmpty
    then none
    else (power? (fraction (t.dropWhile Char.isDigit)).2).map fun e =>
      ⟨ofDigits (t.takeWhile Char.isDigit ++ (fraction (t.dropWhile Char.isDigit)).1),
        e - (fraction (t.dropWhile Char.isDigit)).1.length⟩ := by
  have hread : read? t =
      if (t.takeWhile Char.isDigit).isEmpty && (fraction (t.dropWhile Char.isDigit)).1.isEmpty
      then none
      else match (fraction (t.dropWhile Char.isDigit)).2 with
        | [] => some ⟨ofDigits (t.takeWhile Char.isDigit ++
            (fraction (t.dropWhile Char.isDigit)).1),
            -(fraction (t.dropWhile Char.isDigit)).1.length⟩
        | c :: rest =>
          if c = 'e' ∨ c = 'E' then
            (readExponent? rest).map fun e => ⟨ofDigits (t.takeWhile Char.isDigit ++
              (fraction (t.dropWhile Char.isDigit)).1),
              e - (fraction (t.dropWhile Char.isDigit)).1.length⟩
          else none := rfl
  rw [hread]
  congr 1
  cases (fraction (t.dropWhile Char.isDigit)).2 with
  | nil => simp [power?]
  | cons c rest =>
      by_cases hletter : c = 'e' ∨ c = 'E'
      · simp [power?, hletter]
      · simp [power?, hletter]

theorem read?_map_toLower (t : Text) : read? (t.map Char.toLower) = read? t := by
  rw [read?_eq, read?_eq, takeWhile_isDigit_map_toLower, dropWhile_isDigit_map_toLower,
    fraction_map_toLower, power?_map_toLower]

end Decimal

namespace Binary64

theorem readUnsigned?_map_toLower (negative : Bool) (t : Text) :
    readUnsigned? negative (t.map Char.toLower) = readUnsigned? negative t := by
  unfold readUnsigned?
  rw [Text.map_toLower_map_toLower, Decimal.read?_map_toLower]

theorem read?_eq (t : Text) : read? t = readUnsigned? (signed t).1 (signed t).2 := by
  unfold read?
  split
  · rfl
  · rfl
  · rename_i hminus hplus
    rw [signed_of_ne]
    · intro hhead
      obtain ⟨rest, ht⟩ := List.head?_eq_some_iff.mp hhead
      exact hminus rest ht
    · intro hhead
      obtain ⟨rest, ht⟩ := List.head?_eq_some_iff.mp hhead
      exact hplus rest ht

/-- **A number reads the same in either case.** -/
theorem read?_map_toLower (t : Text) : read? (t.map Char.toLower) = read? t := by
  rw [read?_eq, read?_eq, signed_map_toLower, readUnsigned?_map_toLower]

end Binary64

end LineLexer
