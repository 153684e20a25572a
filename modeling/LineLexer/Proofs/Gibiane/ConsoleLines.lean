/-
Console text line by line.

The search for a printed value asks each line for itself: the first line that gives a value
decides (`lookForScalar_eq_head?`).  A line is looked at up to its first semicolon, and not
at all if it echoes the script.

A carriage return at the end of a line is not seen: it is a blank, and no number holds one
(`lineCandidate?_concat_return`).  So it makes no difference whether one is left there, and
the lines may be taken without it (`lookForScalar_eq_findSome?`).
-/
import LineLexer.Gibiane.Console
import LineLexer.Proofs.Text.Edited
import LineLexer.Proofs.Text.Visible
import Mathlib.Data.List.TakeWhile

namespace LineLexer.Gibiane

/-! ### One place -/

theorem length_eq_of_eqIgnoreCase {s t : Text} (h : Text.eqIgnoreCase s t = true) :
    s.length = t.length := by
  have hmap : s.map Char.toLower = t.map Char.toLower := by simpa [Text.eqIgnoreCase] using h
  simpa using congrArg List.length hmap

theorem afterName?_eq_some_iff {name t after : Text} : afterName? name t = some after ↔
    ∃ key, t = key ++ '=' :: after ∧ Text.eqIgnoreCase key name = true := by
  constructor
  · intro h
    unfold afterName? at h
    split at h
    · rename_i rest hdrop
      obtain ⟨hcase, hrest⟩ := Option.ite_none_right_eq_some.mp h
      obtain rfl := Option.some.inj hrest
      exact ⟨t.take name.length, by rw [← hdrop, List.take_append_drop], hcase⟩
    · exact absurd h (by simp)
  · rintro ⟨key, rfl, hcase⟩
    rw [afterName?, ← length_eq_of_eqIgnoreCase hcase, List.drop_left, List.take_left]
    exact if_pos hcase

/-- The run behind blanks. -/
def runOf (after : Text) : Text := (Text.trimStart after).takeWhile isNumeralChar

/-- A run that is empty is no candidate. -/
theorem candidate?_eq (name t : Text) :
    candidate? name t = ((afterName? name t).map runOf).toList.find? (· ≠ []) := by
  unfold candidate?
  cases afterName? name t with
  | none => rfl
  | some after =>
      show _ = [runOf after].find? (· ≠ [])
      rw [Option.bind_some]
      unfold runOf
      split
      · rename_i hrun
        rw [hrun]
        rfl
      · rename_i hrun
        rw [List.find?_cons_of_pos (by simpa using hrun)]

theorem lineCandidate?_cons (name rest : Text) (c : Char) : lineCandidate? name (c :: rest) =
    (candidate? name (c :: rest)).or (lineCandidate? name rest) := by
  rw [lineCandidate?]
  cases candidate? name (c :: rest) with
  | none => rfl
  | some run => rfl

/-! ### What a line says -/

/-- The value a line gives for a name. -/
def lineValue? (name line : Text) : Option Binary64 :=
  (codeOf? line).bind fun code => (lineCandidate? name code).bind Binary64.read?

/-- The value is that of the first line that gives one. -/
theorem lookForScalar_eq_head? {name : Text} (hname : name ≠ []) (text : Text) :
    lookForScalar text name = (text.lines.filterMap (lineValue? name)).head? := by
  rw [lookForScalar, if_neg (by simpa using hname), List.head?_filterMap]
  rfl

theorem lookForScalar_nil (text : Text) : lookForScalar text [] = none := rfl

theorem lineValue?_nil (name : Text) : lineValue? name [] = none := rfl

/-! ### Carriage returns -/

section Returns

variable {name code line : Text}

theorem takeWhile_concat_of_neg {p : Char → Bool} {c : Char} (hc : p c = false) (t : Text) :
    (t ++ [c]).takeWhile p = t.takeWhile p := by
  induction t with
  | nil => simp [hc]
  | cons d t ih => simp [List.takeWhile_cons, ih]

theorem runOf_concat_return (after : Text) : runOf (after ++ ['\r']) = runOf after := by
  induction after with
  | nil => decide
  | cons c after ih =>
      by_cases hc : isBlank c = true
      · have hskip : ∀ t : Text, runOf (c :: t) = runOf t := by
          intro t
          rw [runOf, Text.trimStart, List.dropWhile_cons_of_pos hc]
          rfl
        rw [List.cons_append, hskip, hskip, ih]
      · rw [Bool.not_eq_true] at hc
        rw [runOf, runOf, List.cons_append, Text.trimStart_of_head hc, Text.trimStart_of_head hc,
          ← List.cons_append, takeWhile_concat_of_neg (by decide)]

theorem afterName?_concat_return (t : Text) :
    afterName? name (t ++ ['\r']) = (afterName? name t).map (· ++ ['\r']) := by
  apply Option.ext
  intro after
  rw [Option.map_eq_some_iff, afterName?_eq_some_iff]
  constructor
  · intro h
    obtain ⟨key, hsplit, hcase⟩ := h
    rcases List.append_eq_append_iff.mp hsplit with ⟨more, -, hreturn⟩ | ⟨more, rfl, hafter⟩
    · -- The sign would be the carriage return.
      have hmem : '=' ∈ ['\r'] := by
        rw [hreturn]
        simp
      exact absurd hmem (by decide)
    · cases more with
      | nil => exact absurd (List.cons.inj hafter).1 (by decide)
      | cons sign body =>
          obtain ⟨rfl, rfl⟩ := List.cons.inj hafter
          exact ⟨body, afterName?_eq_some_iff.mpr ⟨key, rfl, hcase⟩, rfl⟩
  · intro h
    obtain ⟨body, hbody, rfl⟩ := h
    obtain ⟨key, rfl, hcase⟩ := afterName?_eq_some_iff.mp hbody
    exact ⟨key, by simp, hcase⟩

theorem candidate?_concat_return (t : Text) :
    candidate? name (t ++ ['\r']) = candidate? name t := by
  rw [candidate?_eq, candidate?_eq, afterName?_concat_return, Option.map_map]
  have hrun : runOf ∘ (· ++ ['\r']) = runOf := by
    funext after
    exact runOf_concat_return after
  rw [hrun]

/-- **A carriage return at the end of a line is not seen.** -/
theorem lineCandidate?_concat_return (name code : Text) :
    lineCandidate? name (code ++ ['\r']) = lineCandidate? name code := by
  induction code with
  | nil =>
      have hnone : candidate? name ['\r'] = none := by
        rw [← List.nil_append ['\r'], candidate?_concat_return]
        simp [candidate?, afterName?]
      rw [List.nil_append, lineCandidate?_cons, hnone]
      rfl
  | cons c code ih =>
      rw [List.cons_append, lineCandidate?_cons, lineCandidate?_cons, ih, ← List.cons_append,
        candidate?_concat_return]

/-! ### Remarks -/

/-- What stands behind the first semicolon is a remark. -/
theorem codeOf?_append_remark (hcode : ';' ∉ code) (remark : Text) :
    codeOf? (code ++ ';' :: remark) = codeOf? code := by
  have htake : (code ++ ';' :: remark).takeWhile (· ≠ ';') = code.takeWhile (· ≠ ';') := by
    have hall : ∀ c ∈ code, decide (c ≠ ';') = true := by
      intro c hc
      rw [decide_eq_true_iff]
      intro heq
      exact hcode (heq ▸ hc)
    rw [List.takeWhile_append_of_pos hall, List.takeWhile_cons_of_neg (by simp), List.append_nil,
      List.takeWhile_eq_self_iff.mpr hall]
  have hhead : (code ++ ';' :: remark).head? = some '$' ↔ code.head? = some '$' := by
    cases code with
    | nil => simp
    | cons c code => simp
  unfold codeOf?
  simp only [htake, hhead]

theorem codeOf?_of_not_mem (hcode : ';' ∉ code) :
    codeOf? code = if code.head? = some '$' then none else some code := by
  unfold codeOf?
  rw [List.takeWhile_eq_self_iff.mpr]
  intro c hc
  rw [decide_eq_true_iff]
  intro heq
  exact hcode (heq ▸ hc)

theorem lineValue?_append_remark (hcode : ';' ∉ code) (remark : Text) :
    lineValue? name (code ++ ';' :: remark) = lineValue? name code := by
  rw [lineValue?, codeOf?_append_remark hcode]
  rfl

theorem lineValue?_ignoresReturn (name : Text) : Text.IgnoresReturn (lineValue? name) := by
  intro line
  by_cases hremark : ';' ∈ line
  · obtain ⟨code, remark, rfl, hcode⟩ := List.eq_append_cons_of_mem hremark
    rw [List.append_assoc, List.cons_append, lineValue?_append_remark hcode,
      lineValue?_append_remark hcode]
  · have hremark' : ';' ∉ line ++ ['\r'] := by simpa using hremark
    have hhead : (line ++ ['\r']).head? = some '$' ↔ line.head? = some '$' := by
      cases line with
      | nil => simp
      | cons c line => simp
    rw [lineValue?, lineValue?, codeOf?_of_not_mem hremark, codeOf?_of_not_mem hremark']
    simp only [hhead]
    split
    · rfl
    · rw [Option.bind_some, Option.bind_some, lineCandidate?_concat_return]

end Returns

/-- **The lines may be taken without what ends them.** -/
theorem lookForScalar_eq_findSome? {name : Text} (hname : name ≠ []) (text : Text) :
    lookForScalar text name = text.bareLines.findSome? (lineValue? name) := by
  rw [lookForScalar_eq_head? hname, ← Text.filterMap_bareLines (lineValue?_nil name)
    (lineValue?_ignoresReturn name), List.head?_filterMap]

end LineLexer.Gibiane
