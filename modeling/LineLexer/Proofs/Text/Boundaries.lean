/-
Where the bytes of a text stand in those of another.

A host that searches a text byte by byte could stop inside a character.  It does not where
what it searches for is a text itself: its first byte begins a character, and no byte that
begins a character stands inside another one, so the bytes of a text stand in those of
another only where its characters do (`exists_of_isPrefix_drop`).

Letters change their case byte by byte, as all ASCII letters are one byte and no other
character has a byte of one.
-/
import LineLexer.Proofs.Text.Bytes
import LineLexer.Proofs.Text.Visible

namespace LineLexer

/-- The byte of the small letter for that of a capital, and any other byte as it is. -/
def lowerByte (b : UInt8) : UInt8 := if 65 ≤ b ∧ b ≤ 90 then b + 32 else b

namespace Text

variable {s t : Text}

theorem bytes_append (s t : Text) : bytes (s ++ t) = bytes s ++ bytes t := List.flatMap_append

theorem length_bytes (t : Text) : t.bytes.length = t.byteLength := by
  induction t with
  | nil => rfl
  | cons c t ih =>
      rw [bytes_cons, List.length_append, String.length_utf8EncodeChar, ih, byteLength_cons]

/-! ### Places of characters -/

/-- The first byte of a text begins a character. -/
theorem exists_firstByte (hne : s ≠ []) : ∃ b more, s.bytes = b :: more ∧ b.IsUTF8FirstByte := by
  obtain ⟨c, s, rfl⟩ := List.exists_cons_of_ne_nil hne
  obtain ⟨b, more, hc⟩ := List.exists_cons_of_ne_nil (String.utf8EncodeChar_ne_nil (c := c))
  refine ⟨b, more ++ bytes s, ?_, ?_⟩
  · rw [bytes_cons, hc, List.cons_append]
  · have hlength : 0 < (String.utf8EncodeChar c).length := by
      rw [hc]
      exact Nat.zero_lt_succ _
    have hfirst : ((String.utf8EncodeChar c)[0]).IsUTF8FirstByte :=
      UInt8.isUTF8FirstByte_getElem_utf8EncodeChar.mpr rfl
    simpa only [hc, List.getElem_cons_zero] using hfirst

/-- Inside a character there is no place for a text. -/
theorem not_isPrefix_drop_utf8EncodeChar {c : Char} {k : Nat} (hne : s ≠ []) (hpos : 0 < k)
    (hk : k < c.utf8Size) : ¬ s.bytes <+: (bytes (c :: t)).drop k := by
  intro hprefix
  obtain ⟨b, more, hbytes, hfirst⟩ := exists_firstByte hne
  have hlength : k < (String.utf8EncodeChar c).length := by
    rwa [String.length_utf8EncodeChar]
  have hbyte : (bytes (c :: t))[k]? = some b := by
    obtain ⟨rest, hrest⟩ := hprefix
    rw [← List.head?_drop, ← hrest, hbytes, List.cons_append, List.head?_cons]
  rw [bytes_cons, List.getElem?_append_left hlength, List.getElem?_eq_getElem hlength] at hbyte
  rw [← Option.some.inj hbyte, UInt8.isUTF8FirstByte_getElem_utf8EncodeChar] at hfirst
  omega

/-- **The bytes of a text stand in those of another only where its characters do.** -/
theorem exists_of_isPrefix_drop {k : Nat} (hne : s ≠ []) (h : s.bytes <+: t.bytes.drop k) :
    ∃ before rest, t = before ++ (s ++ rest) ∧ before.byteLength = k := by
  induction t generalizing k with
  | nil =>
      rw [show bytes [] = [] from rfl, List.drop_nil] at h
      obtain ⟨b, more, hbytes, -⟩ := exists_firstByte hne
      rw [hbytes] at h
      exact absurd (List.prefix_nil.mp h) (by simp)
  | cons c t ih =>
      by_cases hzero : k = 0
      · subst hzero
        obtain ⟨rest, hrest⟩ := isPrefix_bytes_iff.mp h
        exact ⟨[], rest, hrest.symm, rfl⟩
      by_cases hk : k < c.utf8Size
      · exact absurd h (not_isPrefix_drop_utf8EncodeChar hne (Nat.pos_of_ne_zero hzero) hk)
      · have hlength : (String.utf8EncodeChar c).length ≤ k := by
          rw [String.length_utf8EncodeChar]
          omega
        rw [bytes_cons, List.drop_append, List.drop_eq_nil_of_le hlength, List.nil_append] at h
        obtain ⟨before, rest, rfl, hbefore⟩ := ih h
        refine ⟨c :: before, rest, rfl, ?_⟩
        rw [String.length_utf8EncodeChar] at hbefore
        rw [byteLength_cons, hbefore]
        omega

/-! ### Letters -/

theorem lowerByte_ofNat : ∀ n < 128, lowerByte (UInt8.ofNat n) =
    UInt8.ofNat (if 65 ≤ n ∧ n ≤ 90 then n + 32 else n) := by decide

/-- All bytes of a character that is not ASCII are past the ASCII ones. -/
theorem le_of_mem_utf8EncodeChar {c : Char} (hc : 128 ≤ c.toNat) :
    ∀ b ∈ String.utf8EncodeChar c, 128 ≤ b := by
  intro b hb
  have hcode : 128 ≤ c.val.toNat := hc
  unfold String.utf8EncodeChar at hb
  generalize c.val.toNat = n at hcode hb
  dsimp only at hb
  rw [if_neg (by omega)] at hb
  have hbound : ∀ m, 128 ≤ m → m < 256 → (128 : UInt8) ≤ UInt8.ofNat m := by
    intro m hlo hhi
    rw [UInt8.le_iff_toNat_le, UInt8.toNat_ofNat', Nat.mod_eq_of_lt hhi]
    exact hlo
  split_ifs at hb <;> simp only [List.mem_cons, List.not_mem_nil, or_false] at hb
  · rcases hb with rfl | rfl <;> exact hbound _ (by omega) (by omega)
  · rcases hb with rfl | rfl | rfl <;> exact hbound _ (by omega) (by omega)
  · rcases hb with rfl | rfl | rfl | rfl <;> exact hbound _ (by omega) (by omega)

theorem utf8EncodeChar_toLower (c : Char) :
    String.utf8EncodeChar c.toLower = (String.utf8EncodeChar c).map lowerByte := by
  by_cases hc : c.toNat < 128
  · have hone : ∀ d : Char, d.toNat < 128 → String.utf8EncodeChar d = [UInt8.ofNat d.toNat] := by
      intro d hd
      have hcode : d.val.toNat < 128 := hd
      unfold String.utf8EncodeChar
      rw [if_pos (by omega)]
      rfl
    have hlower := toNat_toLower c
    have hlt : c.toLower.toNat < 128 := by
      split at hlower <;> omega
    rw [hone c hc, hone _ hlt, List.map_singleton, lowerByte_ofNat _ hc, hlower]
  · have hsame : c.toLower = c := by
      apply Char.toNat_inj.mp
      rw [toNat_toLower, if_neg (by omega)]
    have hkeep : ∀ b ∈ String.utf8EncodeChar c, lowerByte b = b := by
      intro b hb
      have hlo := UInt8.le_iff_toNat_le.mp (le_of_mem_utf8EncodeChar (by omega) b hb)
      unfold lowerByte
      apply if_neg
      intro hletter
      have hhi := UInt8.le_iff_toNat_le.mp hletter.2
      exact absurd (Nat.le_trans hlo hhi) (by decide)
    rw [hsame, List.map_congr_left hkeep, List.map_id']

theorem bytes_map_toLower (t : Text) : bytes (t.map Char.toLower) = t.bytes.map lowerByte := by
  induction t with
  | nil => rfl
  | cons c t ih =>
      rw [List.map_cons, bytes_cons, bytes_cons, List.map_append, ih, utf8EncodeChar_toLower]

theorem byteLength_map_toLower (t : Text) : byteLength (t.map Char.toLower) = t.byteLength := by
  rw [← length_bytes, bytes_map_toLower, List.length_map, length_bytes]

end Text

end LineLexer
