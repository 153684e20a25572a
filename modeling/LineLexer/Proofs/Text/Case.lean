/-
Texts that differ in the case of ASCII letters.

An ASCII letter has one byte in either case, and neither case of one is a line feed or a
carriage return.  So texts that differ in nothing but the case of such letters have the
same length, and are cut into lines at the same places.  Their uppercase forms, under which
keywords are kept, are one text.
-/
import LineLexer.Proofs.Text.Lines
import LineLexer.Proofs.Text.Visible
import LineLexer.Unicode.Case
import Mathlib.Data.List.Forall2

namespace LineLexer

/-- The characters are the same, up to the case of an ASCII letter. -/
def SameLetter (c c' : Char) : Prop := c.toLower = c'.toLower

namespace SameLetter

variable {c c' : Char}

/-- Either the characters are equal, or they are a capital and its small letter. -/
theorem eq_or (h : SameLetter c c') :
    c = c' ∨ (∃ i < 26, c.toNat = 65 + i ∧ c'.toNat = 97 + i) ∨
      ∃ i < 26, c.toNat = 97 + i ∧ c'.toNat = 65 + i := by
  have hcode := congrArg Char.toNat h
  rw [toNat_toLower, toNat_toLower] at hcode
  split at hcode <;> split at hcode
  · exact Or.inl (Char.toNat_inj.mp (by omega))
  · exact Or.inr (Or.inl ⟨c.toNat - 65, by omega, by omega, by omega⟩)
  · exact Or.inr (Or.inr ⟨c'.toNat - 65, by omega, by omega, by omega⟩)
  · exact Or.inl (Char.toNat_inj.mp (by omega))

/-- A function of characters that gives a capital and its small letter the same gives characters
that differ in case the same. -/
theorem congr {α : Type} {f : Char → α} (h : SameLetter c c')
    (hletters : ∀ i < 26, f (Char.ofNat (65 + i)) = f (Char.ofNat (97 + i))) : f c = f c' := by
  rcases h.eq_or with rfl | ⟨i, hi, hc, hc'⟩ | ⟨i, hi, hc, hc'⟩
  · rfl
  · rw [← Char.ofNat_toNat c, ← Char.ofNat_toNat c', hc, hc']
    exact hletters i hi
  · rw [← Char.ofNat_toNat c, ← Char.ofNat_toNat c', hc, hc']
    exact (hletters i hi).symm

theorem utf8Size (h : SameLetter c c') : c.utf8Size = c'.utf8Size := h.congr (by decide)

theorem uppercase (h : SameLetter c c') : Unicode.uppercase c = Unicode.uppercase c' :=
  h.congr (by decide)

/-- Neither case of a letter is a line feed. -/
theorem eq_lineFeed (h : SameLetter c c') : (c == '\n') = (c' == '\n') :=
  h.congr (f := (· == '\n')) (by decide)

/-- Neither case of a letter is a carriage return. -/
theorem eq_return (h : SameLetter c c') : (c == '\r') = (c' == '\r') :=
  h.congr (f := (· == '\r')) (by decide)

end SameLetter

/-! ### Small letters -/

theorem toLower_toLower (c : Char) : c.toLower.toLower = c.toLower := by
  apply Char.toNat_inj.mp
  rw [toNat_toLower, toNat_toLower]
  by_cases h : 65 ≤ c.toNat ∧ c.toNat ≤ 90
  · rw [if_pos h, if_neg (by omega)]
  · rw [if_neg h, if_neg h]

/-- Only a letter is written differently in small letters. -/
theorem toLower_eq_iff {c d : Char} (hd : d.toNat < 65 ∨ 122 < d.toNat) :
    c.toLower = d ↔ c = d := by
  rw [← Char.toNat_inj, ← Char.toNat_inj, toNat_toLower]
  split <;> omega

/-- A class that holds both cases of each letter, or neither, is not changed by small letters. -/
theorem comp_toLower {p : Char → Bool}
    (hletters : ∀ i < 26, p (Char.ofNat (65 + i)) = p (Char.ofNat (97 + i))) :
    p ∘ Char.toLower = p := by
  funext c
  exact SameLetter.congr (toLower_toLower c) hletters

namespace Text

theorem map_toLower_map_toLower (t : Text) :
    (t.map Char.toLower).map Char.toLower = t.map Char.toLower := by
  rw [List.map_map]
  congr 1
  funext c
  exact toLower_toLower c

/-- The texts are the same, up to the case of ASCII letters. -/
def SameLetters (t t' : Text) : Prop := List.Forall₂ SameLetter t t'

theorem sameLetters_iff {t t' : Text} : SameLetters t t' ↔ eqIgnoreCase t t' = true := by
  rw [eqIgnoreCase, beq_iff_eq, ← List.forall₂_eq_eq_eq, List.forall₂_map_left_iff,
    List.forall₂_map_right_iff]
  rfl

namespace SameLetters

variable {t t' : Text}

theorem byteLength (h : SameLetters t t') : t.byteLength = t'.byteLength := by
  induction h with
  | nil => rfl
  | cons hc _ ih => rw [byteLength_cons, byteLength_cons, hc.utf8Size, ih]

theorem toUppercase (h : SameLetters t t') : t.toUppercase = t'.toUppercase := by
  induction h with
  | nil => rfl
  | cons hc _ ih =>
      simp only [Text.toUppercase, List.flatMap_cons] at ih ⊢
      rw [hc.uppercase, ih]

/-- The texts are cut into lines at the same places. -/
theorem rawLines (h : SameLetters t t') : List.Forall₂ SameLetters t.rawLines t'.rawLines := by
  induction h with
  | nil => exact .cons .nil .nil
  | @cons c c' t t' hc _ ih =>
      rw [rawLines_cons, rawLines_cons]
      have hfeed := hc.eq_lineFeed
      by_cases h : c = '\n'
      · have h' : c' = '\n' := by simpa [h] using hfeed
        rw [if_pos h, if_pos h']
        exact .cons .nil ih
      · have h' : c' ≠ '\n' := by simpa [h] using hfeed
        rw [if_neg h, if_neg h']
        generalize Text.rawLines t = raws, Text.rawLines t' = raws' at ih
        cases ih with
        | nil => exact .nil
        | cons hraw hraws => exact .cons (.cons hc hraw) hraws

theorem stripReturn (h : SameLetters t t') : SameLetters t.stripReturn t'.stripReturn := by
  have hlast : t.getLast? = some '\r' ↔ t'.getLast? = some '\r' := by
    have hback := List.rel_reverse h
    rw [List.getLast?_eq_head?_reverse, List.getLast?_eq_head?_reverse]
    generalize t.reverse = back, t'.reverse = back' at hback
    cases hback with
    | nil => rfl
    | cons hc _ =>
        rw [List.head?_cons, List.head?_cons, Option.some_inj, Option.some_inj, ← beq_iff_eq,
          hc.eq_return, beq_iff_eq]
  unfold Text.stripReturn
  simp only [hlast]
  split
  · rw [List.dropLast_eq_take, List.dropLast_eq_take, h.length_eq]
    exact List.forall₂_take _ h
  · exact h

end SameLetters

end Text

end LineLexer
