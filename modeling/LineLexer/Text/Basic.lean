/-
Source text as a list of characters.

Every offset the library reports counts bytes of the UTF-8 encoding, while every
recursion runs over characters.  This file holds the bridge: the byte length of a
text, and cutting a text at a byte offset, which fails inside a character.  A cut
gives back both halves, so nothing is lost (`splitBytes?_append`), and a slice is what
stands between two cuts (`slice?_eq_some_iff`).
-/
namespace LineLexer

/-- A line, a word or a whole document, character by character. -/
abbrev Text := List Char

namespace Text

/-! ### Byte offsets -/

/-- Bytes of the UTF-8 encoding. -/
def byteLength : Text → Nat
  | [] => 0
  | c :: rest => c.utf8Size + byteLength rest

@[simp] theorem byteLength_nil : byteLength [] = 0 := rfl

@[simp] theorem byteLength_cons (c : Char) (t : Text) :
    byteLength (c :: t) = c.utf8Size + byteLength t := rfl

@[simp] theorem byteLength_append (s t : Text) :
    byteLength (s ++ t) = byteLength s + byteLength t := by
  induction s with
  | nil => simp
  | cons c s ih => simp [ih, Nat.add_assoc]

/-- Only the empty text has no bytes. -/
theorem byteLength_eq_zero {t : Text} : byteLength t = 0 ↔ t = [] := by
  cases t with
  | nil => simp
  | cons c t => have := c.utf8Size_pos; simp; omega

theorem byteLength_pos {t : Text} (h : t ≠ []) : 0 < byteLength t :=
  Nat.pos_of_ne_zero (mt byteLength_eq_zero.mp h)

/-- The first `n` bytes and the rest; none when byte `n` is past the end or inside a character. -/
def splitBytes? : Nat → Text → Option (Text × Text)
  | 0, t => some ([], t)
  | _ + 1, [] => none
  | n + 1, c :: rest =>
    if c.utf8Size ≤ n + 1 then
      (splitBytes? (n + 1 - c.utf8Size) rest).map fun (head, tail) => (c :: head, tail)
    else none

/-- Cutting a joined text where its parts meet gives the parts back. -/
theorem splitBytes?_append (s t : Text) : splitBytes? s.byteLength (s ++ t) = some (s, t) := by
  induction s with
  | nil => simp [splitBytes?]
  | cons c s ih =>
    have hpos := c.utf8Size_pos
    obtain ⟨n, hn⟩ : ∃ n, byteLength (c :: s) = n + 1 :=
      ⟨byteLength (c :: s) - 1, by simp; omega⟩
    have hle : c.utf8Size ≤ n + 1 := by rw [← hn]; simp
    have hrest : n + 1 - c.utf8Size = byteLength s := by rw [← hn]; simp
    rw [hn, List.cons_append, splitBytes?, if_pos hle, hrest, ih]
    rfl

/-- A text is cut at a byte offset in one way only. -/
theorem append_inj_of_byteLength {s s' t t' : Text} (h : s ++ t = s' ++ t')
    (hlength : s.byteLength = s'.byteLength) : s = s' ∧ t = t' := by
  have hcut := splitBytes?_append s t
  rw [h, hlength, splitBytes?_append] at hcut
  obtain ⟨hs, ht⟩ := Prod.mk.inj (Option.some.inj hcut)
  exact ⟨hs.symm, ht.symm⟩

/-- Whatever a cut returns, its halves make up the text and the first has `n` bytes. -/
theorem append_of_splitBytes? {n : Nat} {t head tail : Text}
    (h : splitBytes? n t = some (head, tail)) : head ++ tail = t ∧ head.byteLength = n := by
  induction n, t using splitBytes?.induct generalizing head tail with
  | case1 t =>
    obtain ⟨rfl, rfl⟩ : head = [] ∧ t = tail := by simpa [splitBytes?] using h
    simp
  | case2 n => simp [splitBytes?] at h
  | case3 n c rest hle ih =>
    rw [splitBytes?, if_pos hle] at h
    obtain ⟨⟨u, v⟩, huv, heq⟩ := Option.map_eq_some_iff.1 h
    obtain ⟨rfl, rfl⟩ : c :: u = head ∧ v = tail := by simpa using heq
    obtain ⟨happ, hlen⟩ := ih huv
    refine ⟨by simp [happ], ?_⟩
    simp [hlen]; omega
  | case4 n c rest hle => rw [splitBytes?, if_neg hle] at h; simp at h

/-- The bytes from `start` up to `stop`; none unless both are character boundaries in order. -/
def slice? (t : Text) (start stop : Nat) : Option Text :=
  if start ≤ stop then
    (splitBytes? start t).bind fun (_, tail) => (splitBytes? (stop - start) tail).map (·.1)
  else none

/-- A slice is what stands between two stretches of the text. -/
theorem slice?_eq_some_iff {t s : Text} {start stop : Nat} :
    t.slice? start stop = some s ↔
      ∃ before after, t = before ++ (s ++ after) ∧ before.byteLength = start ∧
        start + s.byteLength = stop := by
  constructor
  · intro h
    unfold slice? at h
    split at h
    · obtain ⟨⟨before, tail⟩, hbefore, h⟩ := Option.bind_eq_some_iff.mp h
      obtain ⟨⟨s', after⟩, hslice, rfl⟩ := Option.map_eq_some_iff.mp h
      obtain ⟨rfl, hstart⟩ := append_of_splitBytes? hbefore
      obtain ⟨rfl, hlength⟩ := append_of_splitBytes? hslice
      refine ⟨before, after, rfl, hstart, ?_⟩
      show start + s'.byteLength = stop
      omega
    · exact absurd h (by simp)
  · rintro ⟨before, after, rfl, rfl, rfl⟩
    rw [slice?, if_pos (Nat.le_add_right _ _), splitBytes?_append, Option.bind_some,
      Nat.add_sub_cancel_left]
    show (splitBytes? s.byteLength (s ++ after)).map (·.1) = some s
    rw [splitBytes?_append]
    rfl

/-- Two slices of which the second starts where the first stops make one slice. -/
theorem slice?_join {t s s' : Text} {start mid stop : Nat}
    (h : t.slice? start mid = some s) (h' : t.slice? mid stop = some s') :
    t.slice? start stop = some (s ++ s') := by
  obtain ⟨before, after, ht, hstart, hmid⟩ := slice?_eq_some_iff.mp h
  obtain ⟨before', after', ht', hmid', hstop⟩ := slice?_eq_some_iff.mp h'
  rw [slice?_eq_some_iff]
  have hjoined : before' ++ (s' ++ after') = (before ++ s) ++ after := by
    rw [← ht', ht, List.append_assoc]
  have hlength : before'.byteLength = (before ++ s).byteLength := by
    rw [hmid', byteLength_append, hstart, hmid]
  obtain ⟨hbefore, -⟩ := append_inj_of_byteLength hjoined hlength
  refine ⟨before, after', ?_, hstart, ?_⟩
  · rw [ht', hbefore, List.append_assoc, List.append_assoc]
  · rw [byteLength_append]
    omega

/-- The character whose last byte comes just before byte `n`, if `n` is a boundary past the start. -/
def charBefore? (t : Text) (n : Nat) : Option Char :=
  (splitBytes? n t).bind fun (head, _) => head.getLast?

end Text

end LineLexer
