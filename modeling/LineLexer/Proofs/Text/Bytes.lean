/-
Texts as bytes.

Words are kept and compared character by character, while a host that sorts them or looks
for a beginning goes by the bytes of their UTF-8 encoding.  Both come to the same, because
the encodings of two characters differ at some byte, and there the smaller character has
the smaller byte (`below_utf8EncodeChar`).  So a text comes before another exactly where
its bytes do, and begins another exactly if its bytes do.
-/
import LineLexer.Text.Basic
import Mathlib.Data.List.Basic

namespace LineLexer

/-- The lists agree up to a place where the first has the smaller byte. -/
inductive Below : List UInt8 → List UInt8 → Prop
  | here {b b' : UInt8} {more more' : List UInt8} (h : b < b') : Below (b :: more) (b' :: more')
  | next {b : UInt8} {bytes bytes' : List UInt8} (h : Below bytes bytes') :
      Below (b :: bytes) (b :: bytes')

namespace Below

variable {bytes bytes' : List UInt8}

/-- What comes after that place does not matter. -/
theorem append (h : Below bytes bytes') (more more' : List UInt8) :
    Below (bytes ++ more) (bytes' ++ more') := by
  induction h with
  | here h => exact .here h
  | next _ ih => exact .next ih

theorem lt (h : Below bytes bytes') : bytes < bytes' := by
  induction h with
  | here h => exact List.cons_lt_cons_iff.mpr (Or.inl h)
  | next _ ih => exact List.cons_lt_cons_iff.mpr (Or.inr ⟨rfl, ih⟩)

/-- Neither list begins the other. -/
theorem not_isPrefix (h : Below bytes bytes') : ¬ bytes <+: bytes' ∧ ¬ bytes' <+: bytes := by
  induction h with
  | here h =>
      refine ⟨fun hbegins => ?_, fun hbegins => ?_⟩
      · exact UInt8.ne_of_lt h (List.cons_prefix_cons.mp hbegins).1
      · exact UInt8.ne_of_lt h (List.cons_prefix_cons.mp hbegins).1.symm
  | next _ ih =>
      refine ⟨fun hbegins => ?_, fun hbegins => ?_⟩
      · exact ih.1 (List.cons_prefix_cons.mp hbegins).2
      · exact ih.2 (List.cons_prefix_cons.mp hbegins).2

/-- Bytes given by their numbers, with what follows if these are equal. -/
theorem ofNat {n n' : Nat} {more more' : List UInt8} (hle : n ≤ n') (hlt : n' < 256)
    (heq : n = n' → Below more more') :
    Below (UInt8.ofNat n :: more) (UInt8.ofNat n' :: more') := by
  rcases Nat.lt_or_eq_of_le hle with h | rfl
  · exact .here ((UInt8.ofNat_lt_iff_lt (Nat.lt_trans h hlt) hlt).mpr h)
  · exact .next (heq rfl)

end Below

/-- **The smaller character has the smaller byte where the encodings differ.** -/
theorem below_utf8EncodeChar {c c' : Char} (h : c.toNat < c'.toNat) :
    Below (String.utf8EncodeChar c) (String.utf8EncodeChar c') := by
  have hvalid : c'.toNat < 0xD800 ∨ 0xDFFF < c'.toNat ∧ c'.toNat < 0x110000 := c'.valid
  have hcode : c.val.toNat < c'.val.toNat := h
  have hmax : c'.val.toNat < 0x110000 := by
    show c'.toNat < 0x110000
    omega
  unfold String.utf8EncodeChar
  generalize c.val.toNat = n, c'.val.toNat = n' at hcode hmax
  dsimp only
  -- The smaller character has the shorter encoding, or one as long: ten of the cases are left.
  split_ifs <;> try omega
  · exact .ofNat (by omega) (by omega) (by omega)
  · exact .ofNat (by omega) (by omega) (by omega)
  · exact .ofNat (by omega) (by omega) (by omega)
  · exact .ofNat (by omega) (by omega) (by omega)
  · exact .ofNat (by omega) (by omega) fun _ => .ofNat (by omega) (by omega) (by omega)
  · exact .ofNat (by omega) (by omega) (by omega)
  · exact .ofNat (by omega) (by omega) (by omega)
  · refine .ofNat (by omega) (by omega) fun _ => .ofNat (by omega) (by omega) fun _ => ?_
    exact .ofNat (by omega) (by omega) (by omega)
  · exact .ofNat (by omega) (by omega) (by omega)
  · refine .ofNat (by omega) (by omega) fun _ => .ofNat (by omega) (by omega) fun _ => ?_
    exact .ofNat (by omega) (by omega) fun _ => .ofNat (by omega) (by omega) (by omega)

namespace Text

/-- The bytes of the UTF-8 encoding. -/
def bytes (t : Text) : List UInt8 := t.flatMap String.utf8EncodeChar

theorem bytes_cons (c : Char) (t : Text) : bytes (c :: t) = String.utf8EncodeChar c ++ bytes t := rfl

theorem bytes_cons_ne_nil (c : Char) (t : Text) : bytes (c :: t) ≠ [] :=
  List.append_ne_nil_of_left_ne_nil String.utf8EncodeChar_ne_nil _

/-- Texts in the order of their characters are in that of their bytes. -/
theorem bytes_lt_of_compare {s t : Text} (h : compare s t = .lt) : s.bytes < t.bytes := by
  induction s generalizing t with
  | nil =>
      cases t with
      | nil => exact absurd h (by decide)
      | cons c t =>
          obtain ⟨b, more, hbytes⟩ := List.exists_cons_of_ne_nil (bytes_cons_ne_nil c t)
          rw [hbytes]
          exact List.nil_lt_cons b more
  | cons c s ih =>
      cases t with
      | nil => exact nomatch h
      | cons c' t =>
          rw [List.compare_eq_compareLex, List.compareLex_cons_cons, Ordering.then_eq_lt] at h
          rw [bytes_cons, bytes_cons]
          rcases h with hlt | ⟨heq, hrest⟩
          · have hcode : c < c' := compareOfLessAndEq_eq_lt.mp hlt
            exact ((below_utf8EncodeChar hcode).append _ _).lt
          · obtain rfl := Std.LawfulEqOrd.eq_of_compare heq
            exact List.append_left_lt (ih hrest)

/-- A text begins another exactly if its bytes do. -/
theorem isPrefix_bytes_iff {s t : Text} : s.bytes <+: t.bytes ↔ s <+: t := by
  constructor
  · intro h
    induction s generalizing t with
    | nil => exact List.nil_prefix
    | cons c s ih =>
        cases t with
        | nil => exact absurd (List.prefix_nil.mp h) (bytes_cons_ne_nil c s)
        | cons c' t =>
            rw [bytes_cons, bytes_cons] at h
            rcases Nat.lt_trichotomy c.toNat c'.toNat with hlt | heq | hlt
            · exact absurd h ((below_utf8EncodeChar hlt).append _ _).not_isPrefix.1
            · obtain rfl := Char.toNat_inj.mp heq
              exact List.cons_prefix_cons.mpr
                ⟨rfl, ih ((List.prefix_append_right_inj _).mp h)⟩
            · exact absurd h ((below_utf8EncodeChar hlt).append _ _).not_isPrefix.2
  · rintro ⟨rest, rfl⟩
    rw [bytes, bytes, List.flatMap_append]
    exact List.prefix_append _ _

end Text

end LineLexer
