/-
The lines of a text.

A text is cut at its line feeds, so joining two texts with a line feed joins their lists
of lines, and no line is changed by what comes after it.

What ends a line is not part of it, but a carriage return at the end of a text ends no line
of a file.  Where such a carriage return makes no difference, the lines may be taken without
it (`bareLines`).
-/
import LineLexer.Text.Blank

namespace LineLexer.Text

/-- The bytes of some lines, each with the line feed after it. -/
def bytesOf : List Text → Nat
  | [] => 0
  | raw :: raws => byteLength raw + 1 + bytesOf raws

@[simp] theorem bytesOf_nil : bytesOf [] = 0 := rfl

@[simp] theorem bytesOf_cons (raw : Text) (raws : List Text) :
    bytesOf (raw :: raws) = byteLength raw + 1 + bytesOf raws := rfl

theorem rawLines_ne_nil (t : Text) : t.rawLines ≠ [] := List.splitOn_ne_nil _ _

/-- A line feed between two texts keeps their lines apart. -/
theorem rawLines_append (s t : Text) : rawLines (s ++ '\n' :: t) = s.rawLines ++ t.rawLines :=
  List.splitOn_append_cons_self _ _

/-- A character before a text belongs to its first line, unless it is a line feed. -/
theorem rawLines_cons (c : Char) (t : Text) :
    rawLines (c :: t) = if c = '\n' then [] :: t.rawLines else t.rawLines.modifyHead (c :: ·) := by
  rw [rawLines, List.splitOn_cons_eq_if_modifyHead]
  simp [rawLines]

/-- A text without line feeds belongs to the first line of what follows it. -/
theorem rawLines_append_of_not_mem {s : Text} (h : '\n' ∉ s) (t : Text) :
    rawLines (s ++ t) = t.rawLines.modifyHead (s ++ ·) := by
  induction s with
  | nil => exact (congrFun List.modifyHead_id t.rawLines).symm
  | cons c s ih =>
      obtain ⟨hc, hs⟩ : c ≠ '\n' ∧ '\n' ∉ s := by simpa [eq_comm] using h
      rw [List.cons_append, rawLines_cons, if_neg hc, ih hs, List.modifyHead_modifyHead]
      rfl

/-- A text without line feeds is its only line. -/
theorem rawLines_of_not_mem {t : Text} (h : '\n' ∉ t) : t.rawLines = [t] := by
  have happend := rawLines_append_of_not_mem h []
  rw [List.append_nil] at happend
  rw [happend]
  simp [rawLines]

/-- The first line begins as the text does, unless it is empty. -/
theorem mem_head?_of_mem_head?_rawLines {t line : Text} {c : Char}
    (hline : line ∈ t.rawLines.head?) (hc : c ∈ line.head?) : c ∈ t.head? := by
  cases t with
  | nil =>
      obtain rfl : [] = line := by simpa [rawLines] using hline
      simp at hc
  | cons d t =>
      rw [rawLines_cons] at hline
      by_cases hd : d = '\n'
      · rw [if_pos hd] at hline
        obtain rfl : [] = line := by simpa using hline
        simp at hc
      · rw [if_neg hd] at hline
        cases hlines : rawLines t with
        | nil => exact absurd hlines (rawLines_ne_nil t)
        | cons first lines =>
            rw [hlines] at hline
            obtain rfl : d :: first = line := by simpa using hline
            exact hc

/-- Every line feed ends a line but the last. -/
theorem bytesOf_rawLines (t : Text) : bytesOf t.rawLines = t.byteLength + 1 := by
  induction t with
  | nil => rfl
  | cons c t ih =>
      rw [rawLines_cons]
      by_cases hc : c = '\n'
      · subst hc
        rw [if_pos rfl, bytesOf_cons, ih]
        have hsize : '\n'.utf8Size = 1 := rfl
        simp only [byteLength_nil, byteLength_cons, hsize]
        omega
      · rw [if_neg hc]
        cases hraws : rawLines t with
        | nil => exact absurd hraws (rawLines_ne_nil t)
        | cons raw raws =>
            rw [hraws] at ih
            simp only [List.modifyHead_cons, bytesOf_cons, byteLength_cons] at ih ⊢
            omega

/-- No line holds a line feed. -/
theorem not_mem_of_mem_rawLines {t raw : Text} (h : raw ∈ t.rawLines) : '\n' ∉ raw := by
  induction t generalizing raw with
  | nil =>
      obtain rfl : raw = [] := by simpa [rawLines] using h
      simp
  | cons c t ih =>
      rw [rawLines_cons] at h
      by_cases hc : c = '\n'
      · rw [if_pos hc] at h
        rcases List.mem_cons.mp h with rfl | h
        · simp
        · exact ih h
      · rw [if_neg hc] at h
        cases hraws : rawLines t with
        | nil => exact absurd hraws (rawLines_ne_nil t)
        | cons first raws =>
            rw [hraws, List.modifyHead_cons] at h
            rcases List.mem_cons.mp h with rfl | h
            · intro hmem
              rcases List.mem_cons.mp hmem with heq | hmem
              · exact hc heq.symm
              · exact ih (by rw [hraws]; exact List.mem_cons_self) hmem
            · exact ih (by rw [hraws]; exact List.mem_cons_of_mem _ h)

/-- Lines that are not the last ones end with a line feed, and what follows it has the other
lines. -/
theorem exists_of_rawLines_cons {t raw : Text} {raws : List Text} (h : t.rawLines = raw :: raws)
    (hne : raws ≠ []) : ∃ rest : Text, t = raw ++ '\n' :: rest ∧ rest.rawLines = raws := by
  have hjoin : ['\n'].intercalate (raw :: raws) = t := by
    rw [← h]
    exact List.intercalate_splitOn _
  refine ⟨['\n'].intercalate raws, ?_, ?_⟩
  · rw [← hjoin]
    cases raws with
    | nil => exact absurd rfl hne
    | cons next raws => simp [List.intercalate]
  · refine List.splitOn_intercalate _ ?_ hne
    intro line hline
    exact not_mem_of_mem_rawLines (by rw [h]; exact List.mem_cons_of_mem _ hline)

/-- **Where a line stands.**  The text before a line holds the lines before it, each with its line
feed, and as many line feeds as there are such lines. -/
theorem exists_before_of_rawLines {t raw : Text} {earlier later : List Text}
    (h : t.rawLines = earlier ++ raw :: later) :
    ∃ before after, t = before ++ raw ++ after ∧ before.byteLength = bytesOf earlier ∧
      before.count '\n' = earlier.length := by
  induction earlier generalizing t with
  | nil =>
      by_cases hne : later = []
      · subst hne
        have hjoin : ['\n'].intercalate t.rawLines = t := List.intercalate_splitOn _
        refine ⟨[], [], ?_, rfl, rfl⟩
        rw [← hjoin, h]
        simp [List.intercalate]
      · obtain ⟨rest, hrest, -⟩ := exists_of_rawLines_cons h hne
        exact ⟨[], '\n' :: rest, by simpa using hrest, rfl, rfl⟩
  | cons first earlier ih =>
      obtain ⟨rest, hrest, hlines⟩ := exists_of_rawLines_cons h (by simp)
      obtain ⟨before, after, hsplit, hbytes, hcount⟩ := ih hlines
      have hfirst : first.count '\n' = 0 := by
        rw [List.count_eq_zero]
        exact not_mem_of_mem_rawLines (by rw [h]; exact List.mem_cons_self)
      refine ⟨first ++ '\n' :: before, after, ?_, ?_, ?_⟩
      · rw [hrest, hsplit]
        simp
      · have hsize : '\n'.utf8Size = 1 := rfl
        simp only [byteLength_append, byteLength_cons, bytesOf_cons, hbytes, hsize]
        omega
      · simp [hfirst, hcount]

/-- A line is what is left of it without its carriage return, and what ended it. -/
theorem exists_ending (line : Text) : ∃ ending, line = stripReturn line ++ ending := by
  by_cases h : line.getLast? = some '\r'
  · obtain ⟨body, rfl⟩ := List.getLast?_eq_some_iff.mp h
    exact ⟨['\r'], by simp [stripReturn]⟩
  · exact ⟨[], by simp [stripReturn, h]⟩

/-- A carriage return comes before a line feed. -/
def HasReturn (t : Text) : Prop := ['\r', '\n'] <:+: t

@[simp] theorem not_hasReturn_nil : ¬ HasReturn [] := by simp [HasReturn]

@[simp] theorem hasReturn_cons {c : Char} {t : Text} :
    HasReturn (c :: t) ↔ (c = '\r' ∧ t.head? = some '\n') ∨ t.HasReturn := by
  unfold HasReturn
  rw [List.infix_cons_iff, List.cons_prefix_cons]
  cases t with
  | nil => simp
  | cons d t => simp [eq_comm]

theorem hasReturn_append_of_not_mem {s t : Text} (hs : '\r' ∉ s) :
    HasReturn (s ++ t) ↔ HasReturn t := by
  induction s with
  | nil => rfl
  | cons c s ih =>
      rw [List.mem_cons, not_or] at hs
      rw [List.cons_append, hasReturn_cons, ih hs.2, or_iff_right]
      exact fun hc => hs.1 hc.1.symm

/-- Where no carriage return ends a line there is none to strip. -/
theorem map_stripReturn_of_not_hasReturn {t : Text} (hpair : ¬ t.HasReturn)
    (hlast : t.getLast? ≠ some '\r') : t.rawLines.map stripReturn = t.rawLines := by
  generalize hraws : t.rawLines = raws
  induction raws generalizing t with
  | nil => rfl
  | cons raw raws ih =>
      by_cases hne : raws = []
      · subst hne
        have hjoin : ['\n'].intercalate t.rawLines = t := List.intercalate_splitOn _
        obtain rfl : raw = t := by
          rw [hraws] at hjoin
          simpa [List.intercalate] using hjoin
        simp [stripReturn, hlast]
      · obtain ⟨rest, rfl, hrest⟩ := exists_of_rawLines_cons hraws hne
        have hraw : raw.getLast? ≠ some '\r' := by
          intro hreturn
          obtain ⟨body, rfl⟩ := List.getLast?_eq_some_iff.mp hreturn
          exact hpair ⟨body, rest, by simp⟩
        have hpair' : ¬ HasReturn rest := by
          intro hreturn
          exact hpair (List.IsInfix.trans hreturn ⟨raw ++ ['\n'], [], by simp⟩)
        have hlast' : rest.getLast? ≠ some '\r' := by
          intro hreturn
          obtain ⟨body, rfl⟩ := List.getLast?_eq_some_iff.mp hreturn
          exact hlast (List.getLast?_eq_some_iff.mpr ⟨raw ++ '\n' :: body, by simp⟩)
        rw [List.map_cons, ih hpair' hlast' hrest, stripReturn, if_neg hraw]

/-! ### The lines of a file -/

/-- There is a last piece. -/
theorem exists_rawLines_eq_concat (t : Text) : ∃ earlier last, t.rawLines = earlier ++ [last] :=
  ⟨_, _, (List.dropLast_concat_getLast (rawLines_ne_nil t)).symm⟩

/-- A line feed ends all pieces but the last. -/
theorem lines_of_rawLines {t last : Text} {earlier : List Text}
    (h : t.rawLines = earlier ++ [last]) :
    t.lines = earlier.map stripReturn ++ [last].filter (· ≠ []) := by
  simp [lines, h]

example : lines "a\r\n\nb\r".toList = ["a".toList, [], "b\r".toList] := by decide

/-- A text without line feeds is the only line of its file, if it is not empty. -/
theorem lines_of_not_mem {t : Text} (h : '\n' ∉ t) (hne : t ≠ []) : t.lines = [t] := by
  simp [lines, rawLines_of_not_mem h, hne]

/-- A line is a piece without what ended it. -/
theorem exists_rawLine_of_mem_lines {t line : Text} (h : line ∈ t.lines) :
    ∃ raw ∈ t.rawLines, ∃ ending, raw = line ++ ending := by
  obtain ⟨earlier, last, hraws⟩ := exists_rawLines_eq_concat t
  rw [lines_of_rawLines hraws] at h
  rcases List.mem_append.mp h with h | h
  · obtain ⟨raw, hraw, rfl⟩ := List.mem_map.mp h
    exact ⟨raw, by simp [hraws, hraw], exists_ending raw⟩
  · obtain rfl := List.mem_singleton.mp (List.mem_filter.mp h).1
    exact ⟨line, by simp [hraws], [], by simp⟩

/-- A line stands in its text and holds no line feed. -/
theorem exists_of_mem_lines {t line : Text} (h : line ∈ t.lines) :
    (∃ before after, t = before ++ (line ++ after)) ∧ '\n' ∉ line := by
  obtain ⟨raw, hraw, ending, hending⟩ := exists_rawLine_of_mem_lines h
  obtain ⟨earlier, later, hsplit⟩ := List.append_of_mem hraw
  obtain ⟨before, after, htext, -, -⟩ := exists_before_of_rawLines hsplit
  refine ⟨⟨before, ending ++ after, ?_⟩, ?_⟩
  · rw [htext, hending]
    simp
  · intro hmem
    refine not_mem_of_mem_rawLines hraw ?_
    rw [hending]
    exact List.mem_append_left _ hmem

/-! ### Lines without what ends them -/

/-- The lines of a text without a carriage return at their ends, be it before a line feed or at the
end of the text.  These are the lines of a lexed document, but for an empty one at its end. -/
def bareLines (t : Text) : List Text :=
  let pieces := t.rawLines
  (if pieces.getLast? = some [] then pieces.dropLast else pieces).map stripReturn

theorem map_stripReturn_rawLines (t : Text) :
    t.rawLines.map stripReturn = t.bareLines ∨
      t.rawLines.map stripReturn = t.bareLines ++ [[]] := by
  by_cases h : t.rawLines.getLast? = some []
  · obtain ⟨raws, hraws⟩ := List.getLast?_eq_some_iff.mp h
    right
    simp [bareLines, hraws, stripReturn]
  · left
    simp [bareLines, h]

end LineLexer.Text
