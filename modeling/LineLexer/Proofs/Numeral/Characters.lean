/-
The characters of a number.

Whatever reads as a number is written with letters, digits, a point and signs, so it holds
no separator, no quote and no blank, and a file that holds numbers can be taken apart at
its separators without looking at them.
-/
import LineLexer.Numeral.Read
import LineLexer.Proofs.Text.Visible
import Mathlib.Data.List.TakeWhile

namespace LineLexer

/-- A letter, a digit, a point or a sign, by its code point. -/
def IsNumberChar (c : Char) : Prop :=
  (48 ≤ c.toNat ∧ c.toNat ≤ 57) ∨ (65 ≤ c.toNat ∧ c.toNat ≤ 90) ∨
    (97 ≤ c.toNat ∧ c.toNat ≤ 122) ∨ c.toNat = 43 ∨ c.toNat = 45 ∨ c.toNat = 46

instance (c : Char) : Decidable (IsNumberChar c) := inferInstanceAs (Decidable (_ ∨ _))

theorem isNumberChar_of_isDigit {c : Char} (h : c.isDigit = true) : IsNumberChar c :=
  Or.inl (isDigit_iff.mp h)

/-- A character whose lower case is a small letter is a letter. -/
theorem isNumberChar_of_toLower {c : Char} (hlo : 97 ≤ c.toLower.toNat)
    (hhi : c.toLower.toNat ≤ 122) : IsNumberChar c := by
  rw [toNat_toLower] at hlo hhi
  unfold IsNumberChar
  split at hlo
  · omega
  · split at hhi <;> omega

theorem isNumberChar_of_mem_takeWhile {t : Text} :
    ∀ c ∈ t.takeWhile Char.isDigit, IsNumberChar c :=
  fun _ hc => isNumberChar_of_isDigit (List.mem_takeWhile_imp hc)

namespace Decimal

theorem isNumberChar_of_readExponent? {t : Text} {e : Int} (h : readExponent? t = some e) :
    ∀ c ∈ t, IsNumberChar c := by
  unfold readExponent? at h
  split at h
  rename_i negative digits hsign
  split at h
  · exact absurd h (by simp)
  · rename_i hall
    simp only [Bool.or_eq_true, Bool.not_eq_true', not_or, Bool.not_eq_false,
      List.all_eq_true] at hall
    have hdigits : ∀ c ∈ digits, IsNumberChar c :=
      fun c hc => isNumberChar_of_isDigit (hall.2 c hc)
    split at hsign
    · obtain ⟨-, rfl⟩ := Prod.mk.inj hsign
      exact List.forall_mem_cons.mpr ⟨by decide, hdigits⟩
    · obtain ⟨-, rfl⟩ := Prod.mk.inj hsign
      exact List.forall_mem_cons.mpr ⟨by decide, hdigits⟩
    · obtain ⟨-, rfl⟩ := Prod.mk.inj hsign
      exact hdigits

/-- What follows the digits of a numeral is nothing or an exponent. -/
theorem isNumberChar_of_tail {t : Text} {whole : Decimal} {scaled : Int → Decimal} {d : Decimal}
    (h : (match t with
      | [] => some whole
      | c :: rest => if c = 'e' ∨ c = 'E' then (readExponent? rest).map scaled else none) =
        some d) : ∀ c ∈ t, IsNumberChar c := by
  cases t with
  | nil => simp
  | cons c rest =>
      simp only at h
      split at h
      · rename_i hletter
        obtain ⟨e, he, -⟩ := Option.map_eq_some_iff.mp h
        refine List.forall_mem_cons.mpr ⟨?_, isNumberChar_of_readExponent? he⟩
        rcases hletter with rfl | rfl <;> decide
      · exact absurd h (by simp)

theorem isNumberChar_of_read? {t : Text} {d : Decimal} (h : read? t = some d) :
    ∀ c ∈ t, IsNumberChar c := by
  have hsplit : ∀ u : Text, (∀ c ∈ u.dropWhile Char.isDigit, IsNumberChar c) →
      ∀ c ∈ u, IsNumberChar c := by
    intro u htail c hc
    rw [← List.takeWhile_append_dropWhile (p := Char.isDigit) (l := u)] at hc
    exact (List.mem_append.mp hc).elim (isNumberChar_of_mem_takeWhile c) (htail c)
  refine hsplit t ?_
  unfold read? at h
  simp only at h
  split at h
  · rename_i rest hpoint
    split at h
    · exact absurd h (by simp)
    · rw [hpoint]
      exact List.forall_mem_cons.mpr ⟨by decide, hsplit rest (isNumberChar_of_tail h)⟩
  · split at h
    · exact absurd h (by simp)
    · exact isNumberChar_of_tail h

end Decimal

namespace Binary64

theorem isNumberChar_of_readUnsigned? {negative : Bool} {t : Text} {v : Binary64}
    (h : readUnsigned? negative t = some v) : ∀ c ∈ t, IsNumberChar c := by
  have hletters : ∀ word : Text, word.all (fun c => 97 ≤ c.toNat && c.toNat ≤ 122) = true →
      t.map Char.toLower = word → ∀ c ∈ t, IsNumberChar c := by
    intro word hword heq c hc
    have hmem : c.toLower ∈ word := by
      rw [← heq]
      exact List.mem_map_of_mem hc
    obtain ⟨hlo, hhi⟩ : 97 ≤ c.toLower.toNat ∧ c.toLower.toNat ≤ 122 := by
      simpa using List.all_eq_true.mp hword c.toLower hmem
    exact isNumberChar_of_toLower hlo hhi
  unfold readUnsigned? at h
  simp only at h
  split at h
  · rename_i hname
    rcases hname with hname | hname
    · exact hletters _ (by decide) hname
    · exact hletters _ (by decide) hname
  · split at h
    · rename_i hname
      exact hletters _ (by decide) hname
    · obtain ⟨d, hd, -⟩ := Option.map_eq_some_iff.mp h
      exact Decimal.isNumberChar_of_read? hd

/-- **A number is written with letters, digits, points and signs.** -/
theorem isNumberChar_of_read? {t : Text} {v : Binary64} (h : read? t = some v) :
    ∀ c ∈ t, IsNumberChar c := by
  unfold read? at h
  split at h
  · exact List.forall_mem_cons.mpr ⟨by decide, isNumberChar_of_readUnsigned? h⟩
  · exact List.forall_mem_cons.mpr ⟨by decide, isNumberChar_of_readUnsigned? h⟩
  · exact isNumberChar_of_readUnsigned? h

theorem read?_nil : read? [] = none := by decide

theorem read?_get {t : Text} (h : (read? t).isSome = true) : read? t = some ((read? t).get h) :=
  (Option.some_get h).symm

end Binary64

end LineLexer
