/-
Console text with noise in it.

The search for a printed value looks at each line by itself, at no more of it than what comes
before the first semicolon, and not at all at a line that echoes the script.  So lines of
echo may come and go, remarks behind a semicolon may say anything, and neither does the case
of a letter matter, since names are compared in small letters and numbers read the same in
either case (`Numeral/Case`).

A remark may take the carriage return of its line with it or leave one behind.  That is not
seen either (`lineValue?_ignoresReturn`).
-/
import LineLexer.Proofs.Gibiane.ConsoleLines
import LineLexer.Proofs.Numeral.Case
import LineLexer.Proofs.Text.Case

namespace LineLexer.Gibiane

/-! ### Letters -/

section Letters

variable (name : Text)

theorem afterName?_eq (t : Text) : afterName? name t =
    if (t.drop name.length).head? = some '=' ∧
        Text.eqIgnoreCase (t.take name.length) name = true then
      some (t.drop name.length).tail
    else none := by
  unfold afterName?
  split
  · rename_i rest hdrop
    simp [hdrop]
  · rename_i hdrop
    rw [if_neg]
    intro h
    obtain ⟨rest, hrest⟩ := List.head?_eq_some_iff.mp h.1
    exact hdrop rest hrest

theorem afterName?_map_toLower (t : Text) :
    afterName? (name.map Char.toLower) (t.map Char.toLower) =
      (afterName? name t).map (List.map Char.toLower) := by
  have hcase : Text.eqIgnoreCase ((t.map Char.toLower).take name.length)
      (name.map Char.toLower) = Text.eqIgnoreCase (t.take name.length) name := by
    rw [Text.eqIgnoreCase, Text.eqIgnoreCase, List.map_take, Text.map_toLower_map_toLower,
      Text.map_toLower_map_toLower, List.map_take]
  have hsign : ((t.drop name.length).map Char.toLower).head? = some '=' ↔
      (t.drop name.length).head? = some '=' := by
    cases t.drop name.length with
    | nil => rfl
    | cons c rest =>
        rw [List.map_cons, List.head?_cons, List.head?_cons, Option.some_inj, Option.some_inj]
        exact toLower_eq_iff (by decide)
  rw [afterName?_eq, afterName?_eq, List.length_map, ← List.map_drop, hcase]
  simp only [hsign]
  split
  · rw [← List.map_tail]
    rfl
  · rfl

theorem runOf_map_toLower (after : Text) :
    runOf (after.map Char.toLower) = (runOf after).map Char.toLower := by
  have hblank : isBlank ∘ Char.toLower = isBlank := comp_toLower (by decide)
  have hnumeral : isNumeralChar ∘ Char.toLower = isNumeralChar := comp_toLower (by decide)
  unfold runOf Text.trimStart
  rw [List.dropWhile_map, hblank, List.takeWhile_map, hnumeral]

theorem candidate?_map_toLower (t : Text) :
    candidate? (name.map Char.toLower) (t.map Char.toLower) =
      (candidate? name t).map (List.map Char.toLower) := by
  rw [candidate?_eq, candidate?_eq, afterName?_map_toLower]
  cases afterName? name t with
  | none => rfl
  | some after =>
      simp only [Option.map_some, Option.toList_some, runOf_map_toLower, List.find?_singleton]
      by_cases hempty : runOf after = []
      · simp [hempty]
      · simp [hempty]

theorem lineCandidate?_map_toLower (code : Text) :
    lineCandidate? (name.map Char.toLower) (code.map Char.toLower) =
      (lineCandidate? name code).map (List.map Char.toLower) := by
  induction code with
  | nil => rfl
  | cons c code ih =>
      rw [List.map_cons, lineCandidate?_cons, lineCandidate?_cons, ih, ← List.map_cons,
        candidate?_map_toLower, Option.map_or]

theorem codeOf?_map_toLower (line : Text) :
    codeOf? (line.map Char.toLower) = (codeOf? line).map (List.map Char.toLower) := by
  have hcode : (fun c => decide (c ≠ ';')) ∘ Char.toLower = fun c => decide (c ≠ ';') :=
    comp_toLower (by decide)
  have hecho : (line.map Char.toLower).head? = some '$' ↔ line.head? = some '$' := by
    cases line with
    | nil => rfl
    | cons c line =>
        rw [List.map_cons, List.head?_cons, List.head?_cons, Option.some_inj, Option.some_inj]
        exact toLower_eq_iff (by decide)
  unfold codeOf?
  simp only [hecho, List.takeWhile_map, hcode]
  split <;> rfl

/-- **A line gives the same value in either case.** -/
theorem lineValue?_map_toLower (line : Text) :
    lineValue? (name.map Char.toLower) (line.map Char.toLower) = lineValue? name line := by
  rw [lineValue?, lineValue?, codeOf?_map_toLower, Option.bind_map]
  congr 1
  funext code
  rw [Function.comp_apply, lineCandidate?_map_toLower, Option.bind_map]
  congr 1
  funext run
  exact Binary64.read?_map_toLower run

end Letters

theorem lineValue?_sameLetters {name name' line line' : Text}
    (hname : Text.eqIgnoreCase name name' = true) (hline : line.SameLetters line') :
    lineValue? name line = lineValue? name' line' := by
  have hname' : name.map Char.toLower = name'.map Char.toLower := beq_iff_eq.mp hname
  have hline' : line.map Char.toLower = line'.map Char.toLower :=
    beq_iff_eq.mp (Text.sameLetters_iff.mp hline)
  rw [← lineValue?_map_toLower, hname', hline', lineValue?_map_toLower]

/-! ### Noise -/

/-- A line that repeats what the script says. -/
def Echo (line : Text) : Prop := line.head? = some '$'

/-- What stands behind the first semicolon of a line is taken away, or replaced by something
else. -/
inductive Remark : Text → Text → Prop where
  /-- Nothing is left of it. -/
  | dropped {code ending : Text} (remark : Text) (hcode : ';' ∉ code)
      (hending : Text.IsEnding ending) :
      Remark (code ++ ';' :: (remark ++ ending)) (code ++ ending)
  /-- Something else stands in its place. -/
  | replaced {code : Text} (remark remark' : Text) (hcode : ';' ∉ code) :
      Remark (code ++ ';' :: remark) (code ++ ';' :: remark')

/-- One change that does not touch what is printed. -/
def Disturbed (text text' : Text) : Prop :=
  Text.Edit Echo Remark text text' ∨ Text.eqIgnoreCase text text' = true

/-- Texts that differ by noise. -/
def Noise : Text → Text → Prop := Relation.EqvGen Disturbed

theorem lineValue?_of_remark {name line line' : Text} (h : Remark line line') :
    lineValue? name line = lineValue? name line' := by
  cases h with
  | dropped remark hcode hending =>
      rw [lineValue?_append_remark hcode, (lineValue?_ignoresReturn name).append_ending hending]
  | replaced remark remark' hcode =>
      rw [lineValue?_append_remark hcode, lineValue?_append_remark hcode]

theorem lineValue?_of_echo {name line : Text} (h : Echo line) : lineValue? name line = none := by
  unfold Echo at h
  rw [lineValue?, codeOf?, if_pos h]
  rfl

/-- Texts that differ in case have the same values, line by line. -/
theorem values_of_eqIgnoreCase {text text' name name' : Text}
    (htext : Text.eqIgnoreCase text text' = true) (hname : Text.eqIgnoreCase name name' = true) :
    text.lines.filterMap (lineValue? name) = text'.lines.filterMap (lineValue? name') := by
  have hraws := (Text.sameLetters_iff.mpr htext).rawLines
  rw [Text.filterMap_lines (lineValue?_nil name) (lineValue?_ignoresReturn name),
    Text.filterMap_lines (lineValue?_nil name') (lineValue?_ignoresReturn name')]
  generalize text.rawLines = raws, text'.rawLines = raws' at hraws
  induction hraws with
  | nil => rfl
  | cons hraw _ ih =>
      rw [List.filterMap_cons, List.filterMap_cons, ih, lineValue?_sameLetters hname hraw]

/-- One change leaves the values in place. -/
theorem values_of_disturbed {text text' : Text} (name : Text) (h : Disturbed text text') :
    text.lines.filterMap (lineValue? name) = text'.lines.filterMap (lineValue? name) := by
  rcases h with hedit | hcase
  · apply Text.filterMap_lines_of_edit (lineValue?_nil name) (lineValue?_ignoresReturn name) _ _ hedit
    · intro line hecho
      exact lineValue?_of_echo hecho
    · intro line line' hremark
      exact lineValue?_of_remark hremark
  · exact values_of_eqIgnoreCase hcase (beq_self_eq_true _)

/-- Any number of changes leaves the values in place. -/
theorem values_of_noise {text text' : Text} (name : Text) (h : Noise text text') :
    text.lines.filterMap (lineValue? name) = text'.lines.filterMap (lineValue? name) := by
  apply Text.eq_of_eqvGen _ h
  intro text text' hstep
  exact values_of_disturbed name hstep

/-- How the search for a value takes changes of the text. -/
structure Stable : Prop where
  /-- Noise in the text and the case of the name do not matter. -/
  noise : ∀ {text text' name name' : Text}, Noise text text' →
    Text.eqIgnoreCase name name' = true → lookForScalar text name = lookForScalar text' name'
  /-- A text joined of two is searched from the first to the second. -/
  joined : ∀ first second name : Text, lookForScalar (first ++ '\n' :: second) name =
    (lookForScalar first name).or (lookForScalar second name)

/-- **The search is stable under noise and goes over joined texts in order.** -/
theorem lookForScalar_stable : Stable := by
  refine ⟨?_, ?_⟩
  · intro text text' name name' hnoise hname
    by_cases hempty : name = []
    · subst hempty
      obtain rfl := List.eq_nil_of_length_eq_zero (length_eq_of_eqIgnoreCase hname).symm
      rw [lookForScalar_nil, lookForScalar_nil]
    · have hempty' : name' ≠ [] := by
        intro hnil
        rw [hnil] at hname
        exact hempty (List.eq_nil_of_length_eq_zero (length_eq_of_eqIgnoreCase hname))
      rw [lookForScalar_eq_head? hempty, lookForScalar_eq_head? hempty', values_of_noise name hnoise,
        values_of_eqIgnoreCase (beq_self_eq_true _) hname]
  · intro first second name
    by_cases hempty : name = []
    · subst hempty
      rfl
    · rw [lookForScalar_eq_head? hempty, lookForScalar_eq_head? hempty,
        lookForScalar_eq_head? hempty,
        Text.filterMap_lines_append (lineValue?_nil name) (lineValue?_ignoresReturn name),
        List.head?_append]

/-- A remark taken away, an echo put in and letters in another case. -/
theorem lookForScalar_stable_run :
    Noise "é= 0\nX= 3 ; y= 4\r\n".toList "é= 0\n$ X= 2\nx= 3 \r\n".toList ∧
      Text.eqIgnoreCase "x".toList "X".toList = true ∧
      lookForScalar "é= 0\nX= 3 ; y= 4\r\n".toList "x".toList =
        lookForScalar "é= 0\n$ X= 2\nx= 3 \r\n".toList "X".toList ∧
      lookForScalar "é= 0\nX= 3 ; y= 4\r\n".toList "x".toList = Binary64.read? "3".toList := by
  have hremark : Text.Edit Echo Remark "é= 0\nX= 3 ; y= 4\r\n".toList "é= 0\nX= 3 \r\n".toList :=
    .change ["é= 0".toList] [[]] (by decide) (by decide)
      (@Remark.dropped "X= 3 ".toList ['\r'] " y= 4".toList (by decide) (Or.inr rfl))
  have hecho : Text.Edit Echo Remark "é= 0\nX= 3 \r\n".toList
      "é= 0\n$ x= 2\nX= 3 \r\n".toList :=
    @Text.Edit.insert Echo Remark "$ x= 2".toList ["é= 0".toList] ["X= 3 \r".toList, []]
      (by decide) rfl
  have hcase : Text.eqIgnoreCase "é= 0\n$ x= 2\nX= 3 \r\n".toList
      "é= 0\n$ X= 2\nx= 3 \r\n".toList = true := by decide
  have hnoise : Noise "é= 0\nX= 3 ; y= 4\r\n".toList "é= 0\n$ X= 2\nx= 3 \r\n".toList :=
    .trans _ _ _ (.rel _ _ (Or.inl hremark))
      (.trans _ _ _ (.rel _ _ (Or.inl hecho)) (.rel _ _ (Or.inr hcase)))
  have hname : Text.eqIgnoreCase "x".toList "X".toList = true := by decide
  exact ⟨hnoise, hname, lookForScalar_stable.noise hnoise hname, by decide +kernel⟩

end LineLexer.Gibiane
