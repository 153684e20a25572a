/-
Uppercase forms stay as they are.

Keywords are kept in uppercase and looked up in uppercase, and a word that comes out of the
table goes in again when a host asks for its category.  That works because putting a text
into uppercase a second time changes nothing: no image of a case table is a source of it.

The tables have some 1400 sources, but most stand in runs.  Two runs are compared by
their ends, and where one lies among the sources of the other, by parity (`misses`).
-/
import LineLexer.Unicode.Case
import Mathlib.Data.List.Basic

namespace LineLexer

namespace Unicode

namespace CaseRun

/-- No image of the run is a source of the other: all are below or above its sources, or it takes
every second code point and the images are of the other parity. -/
def misses (run other : CaseRun) : Bool :=
  Nat.blt (run.target + (run.last - run.first)) other.first || Nat.blt other.last run.target ||
    (other.step == 2 && (run.step == 2 || run.first == run.last) &&
      run.target % 2 != other.first % 2)

theorem map?_eq_some_iff {run : CaseRun} {code image : Nat} :
    run.map? code = some image ↔
      (run.first ≤ code ∧ code ≤ run.last ∧ (code - run.first) % run.step = 0) ∧
        run.target + (code - run.first) = image := by
  unfold map?
  split <;> simp_all

/-- An image of a run that misses another is not mapped by it. -/
theorem map?_eq_none_of_misses {run other : CaseRun} (h : run.misses other = true)
    {code image : Nat} (himage : run.map? code = some image) : other.map? image = none := by
  obtain ⟨⟨hfirst, hlast, hstep⟩, rfl⟩ := map?_eq_some_iff.mp himage
  rw [Option.eq_none_iff_forall_ne_some]
  intro image' himage'
  obtain ⟨⟨hfirst', hlast', hstep'⟩, -⟩ := map?_eq_some_iff.mp himage'
  simp only [misses, Bool.or_eq_true, Bool.and_eq_true, Nat.blt_eq, beq_iff_eq, bne_iff_ne] at h
  rcases h with (hbelow | habove) | ⟨⟨htwo', htwo | hsingle⟩, hparity⟩
  · omega
  · omega
  · rw [htwo] at hstep
    rw [htwo'] at hstep'
    omega
  · rw [htwo'] at hstep'
    omega

end CaseRun

/-! ### The tables -/

theorem uppercase_toUpper {c : Char} (h : c.toNat < 0x80) : uppercase c.toUpper = [c.toUpper] := by
  have hall : ∀ code < 0x80,
      uppercase (Char.ofNat code).toUpper = [(Char.ofNat code).toUpper] := by decide
  have hcode := hall c.toNat h
  rwa [Char.ofNat_toNat] at hcode

/-- No character of a longer form has an uppercase form other than itself. -/
theorem uppercase_sequences : ∀ entry ∈ uppercaseSequences, ∀ code ∈ entry.2,
    uppercase (Char.ofNat code) = [Char.ofNat code] := by decide +kernel

theorem runs_miss_runs :
    (uppercaseRuns.all fun run => uppercaseRuns.all run.misses) = true := by decide +kernel

theorem runs_miss_sequences :
    (uppercaseRuns.all fun run => uppercaseSequences.all fun entry =>
      run.misses ⟨entry.1, entry.1, 1, entry.1⟩) = true := by decide +kernel

/-- An image in ASCII is a capital letter. -/
theorem capital_of_run : ∀ run ∈ uppercaseRuns, run.target < 0x80 →
    0x41 ≤ run.target ∧ run.target + (run.last - run.first) ≤ 0x5A := by decide +kernel

/-! ### Uppercase twice -/

/-- A character outside ASCII that no table maps is its own uppercase form. -/
theorem uppercase_eq_self {c : Char} (hascii : ¬ c.toNat < 0x80)
    (hsequences : uppercaseSequences.lookup c.toNat = none)
    (hruns : uppercaseRuns.findSome? (·.map? c.toNat) = none) : uppercase c = [c] := by
  unfold uppercase
  rw [if_neg hascii, hsequences, hruns]

/-- The image of a run has no uppercase form other than itself. -/
theorem uppercase_of_map? {run : CaseRun} (hrun : run ∈ uppercaseRuns) {code image : Nat}
    (himage : run.map? code = some image) :
    uppercase (Char.ofNat image) = [Char.ofNat image] := by
  by_cases hvalid : image.isValidChar
  · have hcode : (Char.ofNat image).toNat = image := by
      rw [Char.ofNat, dif_pos hvalid]
      rfl
    by_cases hascii : image < 0x80
    · obtain ⟨⟨hfirst, hlast, -⟩, hsum⟩ := CaseRun.map?_eq_some_iff.mp himage
      obtain ⟨hlow, hhigh⟩ := capital_of_run run hrun (by omega)
      have hcapitals : ∀ i < 26,
          uppercase (Char.ofNat (0x41 + i)) = [Char.ofNat (0x41 + i)] := by decide
      have hcapital := hcapitals (image - 0x41) (by omega)
      rwa [show 0x41 + (image - 0x41) = image by omega] at hcapital
    · refine uppercase_eq_self (by rwa [hcode]) ?_ ?_
      · rw [hcode, List.lookup_eq_none_iff]
        intro entry hentry
        have hmisses := List.all_eq_true.mp (List.all_eq_true.mp runs_miss_sequences run hrun)
          entry hentry
        have hnone := CaseRun.map?_eq_none_of_misses hmisses himage
        rw [bne_iff_ne]
        rintro rfl
        simp [CaseRun.map?] at hnone
      · rw [hcode, List.findSome?_eq_none_iff]
        intro other hother
        have hmisses := List.all_eq_true.mp (List.all_eq_true.mp runs_miss_runs run hrun)
          other hother
        exact CaseRun.map?_eq_none_of_misses hmisses himage
  · -- What is no code point stands for the null character.
    have hnull : Char.ofNat image = '\x00' := by
      rw [Char.ofNat, dif_neg hvalid]
      rfl
    rw [hnull]
    rfl

/-- **No uppercase form has another uppercase form.** -/
theorem uppercase_uppercase (c : Char) : ∀ d ∈ uppercase c, uppercase d = [d] := by
  intro d hd
  rw [uppercase] at hd
  split at hd
  · rename_i hascii
    obtain rfl := List.mem_singleton.mp hd
    exact uppercase_toUpper hascii
  · rename_i hascii
    split at hd
    · rename_i codes hlookup
      obtain ⟨code, hcode, rfl⟩ := List.mem_map.mp hd
      obtain ⟨before, after, hsplit, -⟩ := List.lookup_eq_some_iff.mp hlookup
      exact uppercase_sequences (c.toNat, codes) (by simp [hsplit]) code hcode
    · rename_i hlookup
      split at hd
      · rename_i image himage
        obtain rfl := List.mem_singleton.mp hd
        obtain ⟨run, hrun, hmap⟩ := List.exists_of_findSome?_eq_some himage
        exact uppercase_of_map? hrun hmap
      · rename_i hruns
        obtain rfl := List.mem_singleton.mp hd
        exact uppercase_eq_self hascii hlookup hruns

end Unicode

/-- **Putting a text into uppercase twice is putting it into uppercase.** -/
theorem Text.toUppercase_toUppercase (t : Text) : t.toUppercase.toUppercase = t.toUppercase := by
  induction t with
  | nil => rfl
  | cons c t ih =>
      have hform : (Unicode.uppercase c).flatMap Unicode.uppercase = Unicode.uppercase c := by
        rw [List.flatMap_congr (Unicode.uppercase_uppercase c), List.flatMap_singleton']
      simp only [Text.toUppercase, List.flatMap_cons, List.flatMap_append] at ih ⊢
      rw [hform, ih]

end LineLexer
