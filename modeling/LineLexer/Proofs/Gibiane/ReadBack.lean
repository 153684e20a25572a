/-
Reading back what discovery found.

A script prints a string and a number after it, and discovery takes the string for an
output if it is a name and the sign with blanks around the sign.  The search in the console
is less patient: it wants the sign right behind the name, and the number on the same line.
So the number is read back if nothing stands between the name and the sign and the string
has no line feed, and it is not read back at all otherwise (`lookForScalar_announced`).

What is read back elsewhere cannot get in between, since a string that announces a name
holds a single sign.  That a value is always found behind the name and the sign, on one
line, is true of any text (`exists_of_lookForScalar`).
-/
import LineLexer.Proofs.Gibiane.Literals
import LineLexer.Proofs.Gibiane.Printed

namespace LineLexer.Gibiane

/-! ### Where a value is found -/

theorem exists_of_candidate? {name t run : Text} (h : candidate? name t = some run) :
    ∃ key after, t = key ++ '=' :: after ∧ Text.eqIgnoreCase key name = true ∧
      run = (Text.trimStart after).takeWhile isNumeralChar := by
  obtain ⟨after, hafter, hrun⟩ := Option.bind_eq_some_iff.mp h
  obtain ⟨key, ht, hcase⟩ := afterName?_eq_some_iff.mp hafter
  refine ⟨key, after, ht, hcase, ?_⟩
  split at hrun
  · exact absurd hrun (by simp)
  · exact (Option.some.inj hrun).symm

theorem exists_of_lineCandidate? {name t run : Text} (h : lineCandidate? name t = some run) :
    ∃ before tail, t = before ++ tail ∧ candidate? name tail = some run := by
  induction t with
  | nil => exact absurd h (by simp [lineCandidate?])
  | cons c t ih =>
      unfold lineCandidate? at h
      split at h
      · rename_i hfound
        exact ⟨[], c :: t, rfl, by rw [hfound, h]⟩
      · obtain ⟨before, tail, rfl, hfound⟩ := ih h
        exact ⟨c :: before, tail, rfl, hfound⟩

theorem exists_of_codeOf? {line code : Text} (h : codeOf? line = some code) :
    ∃ more, line = code ++ more := by
  unfold codeOf? at h
  split at h
  · exact absurd h (by simp)
  · refine ⟨line.dropWhile (· ≠ ';'), ?_⟩
    rw [← Option.some.inj h, List.takeWhile_append_dropWhile]

/-- **A value stands behind its name and the sign**, on one line with the sign. -/
theorem exists_of_lookForScalar {text name : Text} {v : Binary64}
    (h : lookForScalar text name = some v) :
    ∃ before key after behind, text = before ++ key ++ '=' :: (after ++ behind) ∧
      Text.eqIgnoreCase key name = true ∧ '\n' ∉ after ∧
      Binary64.read? ((Text.trimStart after).takeWhile isNumeralChar) = some v := by
  unfold lookForScalar at h
  split at h
  · exact absurd h (by simp)
  · obtain ⟨line, hline, hfound⟩ := List.exists_of_findSome?_eq_some h
    obtain ⟨code, hcode, hfound⟩ := Option.bind_eq_some_iff.mp hfound
    obtain ⟨run, hrun, hread⟩ := Option.bind_eq_some_iff.mp hfound
    obtain ⟨⟨before, behind, htext⟩, hfeed⟩ := Text.exists_of_mem_lines hline
    obtain ⟨more, rfl⟩ := exists_of_codeOf? hcode
    obtain ⟨indent, tail, rfl, hcandidate⟩ := exists_of_lineCandidate? hrun
    obtain ⟨key, after, rfl, hcase, rfl⟩ := exists_of_candidate? hcandidate
    refine ⟨before ++ indent, key, after, more ++ behind, ?_, hcase, ?_, hread⟩
    · rw [htext]
      simp
    · intro hmem
      exact hfeed (by simp [hmem])

/-! ### One announced name -/

section Announced

variable {before after name t : Text} {v : Binary64}

/-- A name that ends where blanks end has no blanks behind it. -/
theorem eq_nil_of_append_eq {head key : Text} (hname : name.isWord = true)
    (hbefore : before.allBlank = true) (hcase : Text.eqIgnoreCase key name = true)
    (h : head ++ key = name ++ before) : before = [] := by
  by_contra hne
  obtain ⟨hnamed, hchars⟩ := Text.isWord_iff.mp hname
  have hlower : key.map Char.toLower = name.map Char.toLower := by
    simpa [Text.eqIgnoreCase] using hcase
  have hkey : key ≠ [] := by
    intro hnil
    rw [hnil, List.map_nil] at hlower
    exact hnamed (List.map_eq_nil_iff.mp hlower.symm)
  -- The last character would be the last letter of the name, in some case, and a blank.
  have hlast : key.getLast hkey = before.getLast hne := by
    have hsame := congrArg List.getLast? h
    rw [List.getLast?_append_of_ne_nil _ hkey, List.getLast?_append_of_ne_nil _ hne,
      List.getLast?_eq_some_getLast hkey, List.getLast?_eq_some_getLast hne] at hsame
    exact Option.some.inj hsame
  have hword : isWordChar (key.getLast hkey).toLower = true := by
    have hmem : (key.getLast hkey).toLower ∈ name.map Char.toLower := by
      rw [← hlower]
      exact List.mem_map_of_mem (List.getLast_mem hkey)
    obtain ⟨c, hc, heq⟩ := List.mem_map.mp hmem
    rw [← heq, isWordChar_toLower]
    exact hchars c hc
  rw [isWordChar_toLower, hlast] at hword
  have hblank := List.all_eq_true.mp hbefore _ (List.getLast_mem hne)
  rw [isBlank_of_isWordChar hword] at hblank
  exact Bool.noConfusion hblank

/-- A number in front of which there are blanks only is on the line on which the blanks end. -/
theorem newline_not_mem_of_append_eq {read behind : Text} (hafter : after.allBlank = true)
    (hfeed : '\n' ∉ read)
    (hread : Binary64.read? ((Text.trimStart read).takeWhile isNumeralChar) = some v)
    (h : read ++ behind = after ++ t) : '\n' ∉ after := by
  rcases List.append_eq_append_iff.mp h with ⟨more, rfl, -⟩ | ⟨more, rfl, -⟩
  · -- Nothing but blanks was read, and that is no number.
    have hblank : ∀ c ∈ read, isBlank c = true := by
      intro c hc
      exact List.all_eq_true.mp hafter c (List.mem_append_left _ hc)
    have hnone : Text.trimStart read = [] := List.dropWhile_eq_nil_iff.mpr hblank
    rw [hnone, List.takeWhile_nil, Binary64.read?_nil] at hread
    exact absurd hread (by simp)
  · intro hmem
    exact hfeed (List.mem_append_left _ hmem)

/-- A number is found behind the name, the sign and blanks, all on one line. -/
theorem lookForScalar_adjacent (hname : name.isWord = true) (hafter : after.allBlank = true)
    (hfeed : '\n' ∉ after) (ht : ∀ c ∈ t, isNumeralChar c = true)
    (hread : Binary64.read? t = some v) :
    lookForScalar (name ++ '=' :: (after ++ t)) name = some v := by
  obtain ⟨hnamed, -⟩ := Text.isWord_iff.mp hname
  have hnumeral : t ≠ [] := by
    intro hnil
    rw [hnil, Binary64.read?_nil] at hread
    exact absurd hread (by simp)
  have hapart : ∀ c, isWordChar c = false → isNumeralChar c = false → c ≠ '=' → c ∉ after →
      c ∉ name ++ '=' :: (after ++ t) := by
    intro c hword hdigit hsign hblank
    rw [List.mem_append, List.mem_cons, List.mem_append, not_or, not_or, not_or]
    exact ⟨Text.not_mem_of_isWord hname hword, hsign, hblank, Text.not_mem_of_forall ht hdigit⟩
  have hline : Text.lines (name ++ '=' :: (after ++ t)) = [name ++ '=' :: (after ++ t)] :=
    Text.lines_of_not_mem (hapart '\n' (by decide) (by decide) (by decide) hfeed) (by simp)
  have hcode : codeOf? (name ++ '=' :: (after ++ t)) = some (name ++ '=' :: (after ++ t)) := by
    have hecho := hapart '$' (by decide) (by decide) (by decide)
      (Text.not_mem_of_allBlank hafter (by decide))
    have hremark := hapart ';' (by decide) (by decide) (by decide)
      (Text.not_mem_of_allBlank hafter (by decide))
    rw [codeOf?, if_neg fun hhead => hecho (List.mem_of_head? hhead), Option.some.injEq,
      List.takeWhile_eq_self_iff]
    intro c hc
    rw [decide_eq_true_iff]
    rintro rfl
    exact hremark hc
  have hfound : lineCandidate? name (name ++ '=' :: (after ++ t)) = some t := by
    have hrun := trimStart_append_numeral hafter ht
    have hbehind : '=' ∉ after ++ t := by
      rw [List.mem_append, not_or]
      exact ⟨Text.not_mem_of_allBlank hafter (by decide), Text.not_mem_of_forall ht (by decide)⟩
    rw [lineCandidate?_append hnamed (Text.not_mem_of_isWord hname (by decide)) hbehind
      (by rwa [hrun]), if_pos (EndsWith.refl name), hrun]
  rw [lookForScalar, if_neg (by simpa using hnamed), hline, List.findSome?_singleton, hcode,
    Option.bind_some, hfound, Option.bind_some, hread]

end Announced

/-- The name and the sign are at the front of a string if nothing stands between them. -/
theorem isPrefix_iff_of_blanks {name before after : Text} (hbefore : before.allBlank = true) :
    name ++ ['='] <+: name ++ (before ++ '=' :: after) ↔ before = [] := by
  rw [List.prefix_append_right_inj]
  cases before with
  | nil => simp
  | cons c before =>
      rw [List.cons_append, List.cons_prefix_cons]
      constructor
      · rintro ⟨rfl, -⟩
        exact absurd (List.all_eq_true.mp hbefore _ List.mem_cons_self) (by decide)
      · intro hnil
        exact absurd hnil (by simp)

/-- **What is read back of a discovered name.**  The number printed behind the string is found if
the sign is right behind the name and the string has no line feed; otherwise nothing is. -/
theorem lookForScalar_announced {command : Item} {s name t : Text} {rest : List Item}
    {v : Binary64} (hprinted : printedName? (command :: .literal s :: rest) = some name)
    (hnumeral : ∀ c ∈ t, isNumeralChar c = true) (hread : Binary64.read? t = some v) :
    lookForScalar (s ++ t) name = if name ++ ['='] <+: s ∧ '\n' ∉ s then some v else none := by
  obtain ⟨-, hname, before, after, rfl, hbefore, hafter⟩ := printedName?_eq_some_iff.mp hprinted
  have hline : '\n' ∉ name := Text.not_mem_of_isWord hname (by decide)
  by_cases hfits : name ++ ['='] <+: name ++ (before ++ '=' :: after) ∧
      '\n' ∉ name ++ (before ++ '=' :: after)
  · rw [if_pos hfits]
    obtain ⟨hfront, hfeed⟩ := hfits
    obtain rfl := (isPrefix_iff_of_blanks hbefore).mp hfront
    have hfeed' : '\n' ∉ after := by
      intro hmem
      exact hfeed (by simp [hmem])
    have hfound := lookForScalar_adjacent hname hafter hfeed' hnumeral hread
    simpa using hfound
  · rw [if_neg hfits]
    by_contra hsome
    obtain ⟨w, hfound⟩ := Option.ne_none_iff_exists'.mp hsome
    obtain ⟨head, key, read, behind, htext, hcase, hfeed, hvalue⟩ :=
      exists_of_lookForScalar hfound
    have hbehind : '=' ∉ after ++ t := by
      rw [List.mem_append, not_or]
      exact ⟨Text.not_mem_of_allBlank hafter (by decide),
        Text.not_mem_of_forall hnumeral (by decide)⟩
    have hahead : '=' ∉ name ++ before := by
      rw [List.mem_append, not_or]
      exact ⟨Text.not_mem_of_isWord hname (by decide),
        Text.not_mem_of_allBlank hbefore (by decide)⟩
    have hcut : (name ++ before) ++ '=' :: (after ++ t) =
        (head ++ key) ++ '=' :: (read ++ behind) := by
      rw [← htext]
      simp
    obtain ⟨hbeforeSign, hafterSign⟩ := eq_of_append_cons_eq hahead hbehind hcut
    obtain rfl := eq_nil_of_append_eq hname hbefore hcase hbeforeSign
    have hfeed' := newline_not_mem_of_append_eq hafter hfeed hvalue hafterSign
    refine hfits ⟨(isPrefix_iff_of_blanks hbefore).mpr rfl, ?_⟩
    simp [hline, hfeed']

/-- A number behind a name, the sign and a blank. -/
theorem lookForScalar_announced_force :
    ∃ v, printedName? [.word "MESS".toList, .literal "force= ".toList, .word "force".toList] =
        some "force".toList ∧
      (∀ c ∈ "-1.5E-03".toList, isNumeralChar c = true) ∧
      Binary64.read? "-1.5E-03".toList = some v ∧
      lookForScalar ("force= ".toList ++ "-1.5E-03".toList) "force".toList = some v := by
  have hprinted : printedName? [.word "MESS".toList, .literal "force= ".toList,
      .word "force".toList] = some "force".toList := by decide
  have hnumeral : ∀ c ∈ "-1.5E-03".toList, isNumeralChar c = true :=
    List.all_eq_true.mp (by decide)
  have hread := Binary64.read?_get (t := "-1.5E-03".toList) (by decide +kernel)
  have hfits : "force".toList ++ ['='] <+: "force= ".toList ∧ '\n' ∉ "force= ".toList := by decide
  exact ⟨_, hprinted, hnumeral, hread,
    (lookForScalar_announced hprinted hnumeral hread).trans (if_pos hfits)⟩

/-- A blank between the name and the sign keeps the number from being found. -/
theorem lookForScalar_apart :
    ∃ v, printedName? [.word "mess".toList, .literal "var2 = ".toList, .word "var2".toList] =
        some "var2".toList ∧
      (∀ c ∈ "5".toList, isNumeralChar c = true) ∧ Binary64.read? "5".toList = some v ∧
      lookForScalar ("var2 = ".toList ++ "5".toList) "var2".toList ≠ some v := by
  have hread := Binary64.read?_get (t := "5".toList) (by decide +kernel)
  have hmissing : lookForScalar ("var2 = ".toList ++ "5".toList) "var2".toList = none := by
    decide +kernel
  refine ⟨_, by decide, List.all_eq_true.mp (by decide), hread, ?_⟩
  rw [hmissing]
  exact (Option.some_ne_none _).symm

end LineLexer.Gibiane
