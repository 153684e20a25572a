/-
Characters that are seen.

Names, numerals and punctuation are made of the visible ASCII characters, and none of
these is a blank.  So trimming leaves such a text alone, and everything that is said here
of a class of characters is said by its code points, where `omega` can decide it.
-/
import LineLexer.Text.Blank

namespace LineLexer

theorem isDigit_iff {c : Char} : c.isDigit = true ↔ 48 ≤ c.toNat ∧ c.toNat ≤ 57 := by
  simp only [Char.isDigit, Bool.and_eq_true, decide_eq_true_eq, ge_iff_le,
    UInt32.le_iff_toNat_le]
  rfl

theorem isUpper_iff {c : Char} : c.isUpper = true ↔ 65 ≤ c.toNat ∧ c.toNat ≤ 90 :=
  decide_eq_true_iff

theorem isLower_iff {c : Char} : c.isLower = true ↔ 97 ≤ c.toNat ∧ c.toNat ≤ 122 := by
  have hrange : c.isLower = (decide (c.val ≥ 97) && decide (c.val ≤ 122)) := rfl
  rw [hrange, Bool.and_eq_true, decide_eq_true_iff, decide_eq_true_iff]
  exact Iff.rfl

/-- The word characters by their code points. -/
theorem isWordChar_iff {c : Char} : isWordChar c = true ↔
    (48 ≤ c.toNat ∧ c.toNat ≤ 57) ∨ (65 ≤ c.toNat ∧ c.toNat ≤ 90) ∨ c.toNat = 95 ∨
      (97 ≤ c.toNat ∧ c.toNat ≤ 122) := by
  have hunderscore : c = '_' ↔ c.toNat = 95 := Char.toNat_inj.symm
  have hclasses : isWordChar c = (c.isUpper || c.isLower || c.isDigit || c == '_') := rfl
  simp only [hclasses, Bool.or_eq_true, isUpper_iff, isLower_iff, isDigit_iff, beq_iff_eq,
    hunderscore]
  omega

theorem toNat_toLower (c : Char) :
    c.toLower.toNat = if 65 ≤ c.toNat ∧ c.toNat ≤ 90 then c.toNat + 32 else c.toNat := by
  have hupper : (c.val ≥ 'A'.val ∧ c.val ≤ 'Z'.val) ↔ 65 ≤ c.toNat ∧ c.toNat ≤ 90 := by
    simp only [ge_iff_le, UInt32.le_iff_toNat_le]
    rfl
  unfold Char.toLower
  split
  · rename_i h
    rw [if_pos (hupper.mp h)]
    have hbound : c.val.toNat + 32 < 2 ^ 32 := by
      have : c.val.toNat ≤ 90 := (hupper.mp h).2
      omega
    show (c.val + 32).toNat = c.val.toNat + 32
    rw [UInt32.toNat_add, Nat.mod_eq_of_lt]
    · rfl
    · exact hbound
  · rename_i h
    rw [if_neg fun h' => h (hupper.mpr h')]

/-- The case of a letter does not matter to words. -/
theorem isWordChar_toLower (c : Char) : isWordChar c.toLower = isWordChar c := by
  rw [Bool.eq_iff_iff, isWordChar_iff, isWordChar_iff, toNat_toLower]
  split <;> omega

/-- A visible ASCII character is no blank. -/
theorem isBlank_of_visible {c : Char} (hlo : 33 ≤ c.toNat) (hhi : c.toNat ≤ 126) :
    isBlank c = false := by
  simp [isBlank, blankRanges]
  omega

theorem isBlank_of_isWordChar {c : Char} (h : isWordChar c = true) : isBlank c = false := by
  rw [isWordChar_iff] at h
  exact isBlank_of_visible (by omega) (by omega)

namespace Text

theorem isWord_iff {t : Text} : t.isWord = true ↔ t ≠ [] ∧ ∀ c ∈ t, isWordChar c = true := by
  simp [isWord]

/-- A text of one class of characters holds no other. -/
theorem not_mem_of_forall {p : Char → Bool} {t : Text} {c : Char} (h : ∀ d ∈ t, p d = true)
    (hc : p c = false) : c ∉ t := by
  intro hmem
  rw [h c hmem] at hc
  exact Bool.noConfusion hc

theorem not_mem_of_isWord {t : Text} {c : Char} (h : t.isWord = true) (hc : isWordChar c = false) :
    c ∉ t :=
  not_mem_of_forall (isWord_iff.mp h).2 hc

theorem not_mem_of_allBlank {t : Text} {c : Char} (h : t.allBlank = true)
    (hc : isBlank c = false) : c ∉ t :=
  not_mem_of_forall (List.all_eq_true.mp h) hc

theorem trimStart_of_head {c : Char} {t : Text} (h : isBlank c = false) :
    trimStart (c :: t) = c :: t := by
  simp [trimStart, h]

theorem dropWhile_of_forall {p : Char → Bool} {t : Text} (h : ∀ c ∈ t, p c = false) :
    t.dropWhile p = t := by
  cases t with
  | nil => rfl
  | cons c t => rw [List.dropWhile_cons, if_neg (by simp [h c List.mem_cons_self])]

theorem reverse_dropWhile_of_forall {p : Char → Bool} {t : Text} (h : ∀ c ∈ t, p c = false) :
    (t.reverse.dropWhile p).reverse = t := by
  rw [dropWhile_of_forall fun c hc => h c (List.mem_reverse.mp hc), List.reverse_reverse]

/-- A text without blanks has none to trim. -/
theorem trim_of_forall {t : Text} (h : ∀ c ∈ t, isBlank c = false) : t.trim = t := by
  rw [trim, trimEnd, trimStart, dropWhile_of_forall h, reverse_dropWhile_of_forall h]

/-- The blanks around a text without blanks are trimmed. -/
theorem trim_between {i t s : Text} (hi : i.allBlank = true) (ht : ∀ c ∈ t, isBlank c = false)
    (hne : t ≠ []) (hs : s.allBlank = true) : trim (i ++ t ++ s) = t := by
  obtain ⟨c, more, rfl⟩ := List.exists_cons_of_ne_nil hne
  have hstart : trimStart (i ++ (c :: more ++ s)) = c :: more ++ s := by
    rw [trimStart, List.dropWhile_append_of_pos (List.all_eq_true.mp hi)]
    exact trimStart_of_head (ht c List.mem_cons_self)
  have hend : (s.reverse ++ (c :: more).reverse).dropWhile isBlank = (c :: more).reverse := by
    rw [List.dropWhile_append_of_pos]
    · exact dropWhile_of_forall fun d hd => ht d (List.mem_reverse.mp hd)
    · intro d hd
      exact List.all_eq_true.mp hs d (List.mem_reverse.mp hd)
  rw [List.append_assoc, trim, hstart, trimEnd, List.reverse_append, hend, List.reverse_reverse]

/-- Nothing is left of blanks. -/
theorem trim_of_allBlank {t : Text} (h : t.allBlank = true) : t.trim = [] := by
  rw [trim, trimStart, ← List.append_nil t, List.dropWhile_append_of_pos (List.all_eq_true.mp h)]
  rfl

/-- What is trimmed off a text are blanks. -/
theorem exists_of_trim (t : Text) : ∃ before after : Text,
    t = before ++ t.trim ++ after ∧ before.allBlank = true ∧ after.allBlank = true := by
  have hstart : t.takeWhile isBlank ++ t.trimStart = t := List.takeWhile_append_dropWhile
  have hend : t.trim ++ (t.trimStart.reverse.takeWhile isBlank).reverse = t.trimStart := by
    have hsplit := congrArg List.reverse
      (List.takeWhile_append_dropWhile (p := isBlank) (l := t.trimStart.reverse))
    rwa [List.reverse_append, List.reverse_reverse] at hsplit
  refine ⟨t.takeWhile isBlank, (t.trimStart.reverse.takeWhile isBlank).reverse, ?_, ?_, ?_⟩
  · rw [List.append_assoc, hend, hstart]
  · exact List.all_takeWhile
  · rw [allBlank, List.all_reverse]
    exact List.all_takeWhile

/-- A text is trimmed to one character if it is that character between blanks. -/
theorem trim_eq_singleton_iff {c : Char} {t : Text} (hc : isBlank c = false) :
    t.trim = [c] ↔ ∃ before after : Text,
      t = before ++ c :: after ∧ before.allBlank = true ∧ after.allBlank = true := by
  constructor
  · intro h
    obtain ⟨before, after, hsplit, hbefore, hafter⟩ := exists_of_trim t
    refine ⟨before, after, ?_, hbefore, hafter⟩
    rw [h] at hsplit
    simpa using hsplit
  · rintro ⟨before, after, rfl, hbefore, hafter⟩
    have htrim := trim_between hbefore (t := [c]) (by simpa using hc) (by simp) hafter
    simpa using htrim

theorem trimChar_of_not_mem {d : Char} {t : Text} (h : d ∉ t) : t.trimChar d = t := by
  have hne : ∀ c ∈ t, (c == d) = false := by
    intro c hc
    rw [beq_eq_false_iff_ne]
    rintro rfl
    exact h hc
  rw [trimChar, dropWhile_of_forall hne, reverse_dropWhile_of_forall hne]

/-- A word that does not begin with a digit. -/
def isIdentifier (t : Text) : Bool := t.isWord && !t.head?.any Char.isDigit

theorem isWord_of_isIdentifier {t : Text} (h : t.isIdentifier = true) : t.isWord = true :=
  (Bool.and_eq_true_iff.mp h).1

end Text

end LineLexer
