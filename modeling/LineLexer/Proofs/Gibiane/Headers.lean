/-
Which column a header gives.

A file with headers is searched for a column by its header, and a header stands for a name
already when it holds the name or the name begins with it.  So the column of a name is the
first one whose header is that close to it, `T2` for `T` as much as `T` itself.  It is the
column of the name's own header if no header before that one is close.

Whether there are headers at all is read off the first cell: one that reads as a number,
as `nan` does, makes the file a table without headers.
-/
import LineLexer.Gibiane.Results
import LineLexer.Proofs.Gibiane.Columns
import LineLexer.Proofs.Numeral.Characters
import Mathlib.Data.List.FinRange
import Mathlib.Order.WellFounded

namespace LineLexer.Gibiane

/-- A number with the text it was written as. -/
structure Cell where
  /-- What the cell holds. -/
  text : Text
  /-- The number it reads as. -/
  value : Binary64
  read?_text : Binary64.read? text = some value

/-- The cell with a text that reads as a number. -/
def Cell.ofText (text : Text) (h : (Binary64.read? text).isSome = true) : Cell :=
  ⟨text, (Binary64.read? text).get h, Binary64.read?_get h⟩

/-- A row of headers and rows of numbers below it. -/
structure Sheet where
  /-- The headers. -/
  headers : List Text
  /-- The rows below them. -/
  rows : List (List Cell)
  headers_ne_nil : headers ≠ []
  isIdentifier_of_mem : ∀ header ∈ headers, header.isIdentifier = true
  length_of_mem : ∀ row ∈ rows, row.length = headers.length

/-- The header holds the name, or the name begins with it. -/
def Close (header name : Text) : Prop := name <:+: header ∨ header <+: name

instance (header name : Text) : Decidable (Close header name) :=
  inferInstanceAs (Decidable (_ ∨ _))

theorem Close.refl (name : Text) : Close name name := Or.inl (List.infix_rfl)

theorem holds_iff {t part : Text} : holds t part = true ↔ part <:+: t := by
  induction t with
  | nil => simp [holds, List.infix_nil]
  | cons c t ih =>
      rw [holds, Bool.or_eq_true, List.isPrefixOf_iff_prefix, ih, List.infix_cons_iff]

theorem headerFits_iff {name header : Text} :
    headerFits name header = true ↔ header ≠ [] ∧ Close header name := by
  simp [headerFits, holds_iff, Close]

namespace Sheet

variable (s : Sheet)

/-- The texts of all cells. -/
def matrix : List (List Text) := s.headers :: s.rows.map fun row => row.map (·.text)

/-- The lines on which the rows are written. -/
def lines : List Text := s.matrix.map rowLine

/-- The numbers below the header with a number. -/
def column (i : Fin s.headers.length) : List Binary64 :=
  s.rows.attach.map fun row =>
    (row.val.get (i.cast (s.length_of_mem row.val row.property).symm)).value

/-- The column of a file that holds a header and the texts below it. -/
def textColumn (i : Fin s.headers.length) : List Text :=
  s.rows.attach.map fun row =>
    (row.val.get (i.cast (s.length_of_mem row.val row.property).symm)).text

theorem numbers_textColumn (i : Fin s.headers.length) : numbers (s.textColumn i) = s.column i := by
  rw [numbers, textColumn, List.map_map, column]
  refine List.map_congr_left ?_
  intro row _
  rw [Function.comp_apply, Cell.read?_text, Option.getD_some]

theorem ne_nil_of_mem {header : Text} (h : header ∈ s.headers) : header ≠ [] :=
  (Text.isWord_iff.mp (Text.isWord_of_isIdentifier (s.isIdentifier_of_mem header h))).1

/-- Headers and numbers are read back as they were written. -/
theorem visible_of_mem_matrix {row : List Text} (hrow : row ∈ s.matrix) {t : Text} (ht : t ∈ row) :
    t ≠ [] ∧ ∀ c ∈ t, 33 ≤ c.toNat ∧ c.toNat ≤ 126 ∧ c.toNat ≠ 59 ∧ c.toNat ≠ 34 := by
  rcases List.mem_cons.mp hrow with rfl | hrow
  · refine ⟨s.ne_nil_of_mem ht, ?_⟩
    intro c hc
    have hword := (Text.isWord_iff.mp (Text.isWord_of_isIdentifier (s.isIdentifier_of_mem t ht))).2
    have hcode := isWordChar_iff.mp (hword c hc)
    omega
  · obtain ⟨cells, -, rfl⟩ := List.mem_map.mp hrow
    obtain ⟨cell, -, rfl⟩ := List.mem_map.mp ht
    refine ⟨?_, ?_⟩
    · intro hnil
      have hread := cell.read?_text
      rw [hnil, Binary64.read?_nil] at hread
      exact absurd hread (by simp)
    · intro c hc
      have hcode := Binary64.isNumberChar_of_read? cell.read?_text c hc
      unfold IsNumberChar at hcode
      omega

theorem length_of_mem_matrix : ∀ row ∈ s.matrix, row.length = s.headers.length := by
  intro row hrow
  rcases List.mem_cons.mp hrow with rfl | hrow
  · rfl
  · obtain ⟨cells, hcells, rfl⟩ := List.mem_map.mp hrow
    rw [List.length_map, s.length_of_mem cells hcells]

theorem columnAt_matrix (i : Fin s.headers.length) :
    columnAt s.matrix i = s.headers.get i :: s.textColumn i := by
  have hrows : s.rows.map (fun row => ((row.map (·.text))[(i : Nat)]?).getD []) =
      s.textColumn i := by
    rw [textColumn, ← List.attach_map_val (l := s.rows) (f := fun row =>
      ((row.map (·.text))[(i : Nat)]?).getD [])]
    refine List.map_congr_left ?_
    rintro ⟨row, hrow⟩ -
    have hlt : (i : Nat) < row.length := by
      rw [s.length_of_mem row hrow]
      exact i.isLt
    simp [hlt]
  rw [columnAt, matrix, List.map_cons, List.map_map, ← hrows]
  simp [Function.comp_def]

/-- The columns of the file, each with its header. -/
theorem readColumns_lines {text : Text} (hlines : text.bareLines = s.lines) :
    readColumns text =
      (List.finRange s.headers.length).map fun i => s.headers.get i :: s.textColumn i := by
  have hpos : 0 < s.headers.length := List.length_pos_iff.mpr s.headers_ne_nil
  have hblank : ∀ row ∈ s.matrix, (rowLine row).allBlank = false := by
    intro row hrow
    have hlen := s.length_of_mem_matrix row hrow
    obtain ⟨t, ht⟩ := List.exists_mem_of_length_pos (l := row) (by omega)
    obtain ⟨hne, hvisible⟩ := s.visible_of_mem_matrix hrow ht
    obtain ⟨c, hc⟩ := List.exists_mem_of_ne_nil t hne
    obtain ⟨hlo, hhi, -⟩ := hvisible c hc
    exact not_allBlank_rowLine ht hc (isBlank_of_visible hlo hhi)
  rw [readColumns_eq hlines (by simp [matrix]) hpos s.length_of_mem_matrix
    (fun row hrow t ht => isCell_of_visible (s.visible_of_mem_matrix hrow ht).2) hblank,
    ← List.map_coe_finRange_eq_range, List.map_map]
  have hcolumns : (List.finRange s.headers.length).map (columnAt s.matrix ∘ Fin.val) =
      (List.finRange s.headers.length).map fun i => s.headers.get i :: s.textColumn i :=
    List.map_congr_left fun i _ => s.columnAt_matrix i
  rw [hcolumns, List.filter_eq_self]
  intro column hcolumn
  obtain ⟨i, -, rfl⟩ := List.mem_map.mp hcolumn
  rw [List.any_cons, decide_eq_true (s.ne_nil_of_mem (List.get_mem s.headers i)), Bool.true_or]

/-- The first cell of the file is the first header. -/
theorem head?_readColumns {text : Text} (hlines : text.bareLines = s.lines) :
    (readColumns text).head?.bind List.head? = some (s.headers.head s.headers_ne_nil) := by
  have hpos : 0 < s.headers.length := List.length_pos_iff.mpr s.headers_ne_nil
  have hfirst : (List.finRange s.headers.length).head? = some ⟨0, hpos⟩ := by
    rw [List.head?_eq_getElem?, List.getElem?_eq_getElem (by simpa using hpos)]
    simp
  rw [s.readColumns_lines hlines, List.head?_map, hfirst, Option.map_some, Option.bind_some,
    List.head?_cons, List.head_eq_getElem]
  rfl

/-- The first close header decides the column. -/
theorem columnFor?_eq {name : Text} {j : Fin s.headers.length}
    (hclose : Close (s.headers.get j) name)
    (hfirst : ∀ k < j, ¬ Close (s.headers.get k) name) :
    columnFor? name ((List.finRange s.headers.length).map fun i =>
      s.headers.get i :: s.textColumn i) = some (s.textColumn j) := by
  have hfits : ∀ k, headerFits name (s.headers.get k) = true ↔ Close (s.headers.get k) name := by
    intro k
    rw [headerFits_iff, and_iff_right (s.ne_nil_of_mem (List.get_mem s.headers k))]
  obtain ⟨earlier, later, hsplit⟩ := List.append_of_mem (List.mem_finRange j)
  have hsorted := List.pairwise_lt_finRange s.headers.length
  rw [hsplit, List.pairwise_append] at hsorted
  rw [columnFor?, List.findSome?_map, List.findSome?_eq_some_iff]
  refine ⟨earlier, j, later, hsplit, ?_, ?_⟩
  · exact if_pos ((hfits j).mpr hclose)
  · intro k hk
    exact if_neg fun h => hfirst k (hsorted.2.2 k hk j List.mem_cons_self) ((hfits k).mp h)

end Sheet

/-- **Which column a name is given.**  It is that of the first header that is close to the name,
and so the name's own if no header before it is close; a first header that reads as a number gives
all columns. -/
theorem csvValue_headed (s : Sheet) {text : Text} (hlines : text.bareLines = s.lines) (file : Text)
    (i : Fin s.headers.length) :
    ((Binary64.read? (s.headers.head s.headers_ne_nil)).isSome = true →
      csvValue text (s.headers.get i) file =
        .table ((List.finRange s.headers.length).map fun j =>
          (Binary64.read? (s.headers.get j)).getD .notANumber :: s.column j)) ∧
    (Binary64.read? (s.headers.head s.headers_ne_nil) = none →
      (∃ j ≤ i, Close (s.headers.get j) (s.headers.get i) ∧
        (∀ k < j, ¬ Close (s.headers.get k) (s.headers.get i)) ∧
        csvValue text (s.headers.get i) file = .column (s.column j)) ∧
      ((∀ k < i, ¬ Close (s.headers.get k) (s.headers.get i)) →
        csvValue text (s.headers.get i) file = .column (s.column i))) := by
  have hcolumns := s.readColumns_lines hlines
  have hfirst := s.head?_readColumns hlines
  have hcolumn : ∀ j, Close (s.headers.get j) (s.headers.get i) →
      (∀ k < j, ¬ Close (s.headers.get k) (s.headers.get i)) →
      Binary64.read? (s.headers.head s.headers_ne_nil) = none →
      csvValue text (s.headers.get i) file = .column (s.column j) := by
    intro j hclose hnone hheader
    have hfound := s.columnFor?_eq hclose hnone
    rw [← hcolumns] at hfound
    simp only [csvValue, hfirst, hheader, hfound, s.numbers_textColumn]
    rfl
  refine ⟨?_, ?_⟩
  · intro hnumber
    have hnumbers : (readColumns text).map numbers =
        (List.finRange s.headers.length).map fun j =>
          (Binary64.read? (s.headers.get j)).getD .notANumber :: s.column j := by
      rw [hcolumns, List.map_map]
      refine List.map_congr_left ?_
      intro j _
      rw [Function.comp_apply, ← s.numbers_textColumn]
      rfl
    simp only [csvValue, hfirst, hnumber, if_true, hnumbers]
  · intro hheader
    refine ⟨?_, fun hnone => hcolumn i (Close.refl _) hnone hheader⟩
    obtain ⟨j, hclose, hmin⟩ := wellFounded_lt.has_min
      {j : Fin s.headers.length | Close (s.headers.get j) (s.headers.get i)} ⟨i, Close.refl _⟩
    have hnone : ∀ k < j, ¬ Close (s.headers.get k) (s.headers.get i) :=
      fun k hk hk' => hmin k hk' hk
    exact ⟨j, not_lt.mp (hmin i (Close.refl _)), hclose, hnone, hcolumn j hclose hnone hheader⟩

/-- Two columns neither of whose headers is close to the other. -/
theorem csvValue_reaction :
    ∃ (s : Sheet) (text : Text) (i : Fin s.headers.length),
      s.headers = ["TEMPS".toList, "REACT".toList] ∧ i.val = 1 ∧ text.bareLines = s.lines ∧
        Binary64.read? (s.headers.head s.headers_ne_nil) = none ∧
        (∀ k < i, ¬ Close (s.headers.get k) (s.headers.get i)) ∧
        csvValue text (s.headers.get i) "res.csv".toList = .column (s.column i) := by
  let s : Sheet := {
    headers := ["TEMPS".toList, "REACT".toList]
    rows := [
      [.ofText "0.5".toList (by decide +kernel), .ofText "1.8E+3".toList (by decide +kernel)]]
    headers_ne_nil := by decide
    isIdentifier_of_mem := by decide
    length_of_mem := by decide }
  have hlines : Text.bareLines "TEMPS;REACT\r\n0.5;1.8E+3\n".toList = s.lines := by decide
  have hheader : Binary64.read? (s.headers.head s.headers_ne_nil) = none := by decide
  have hnone : ∀ k < (1 : Fin 2), ¬ Close (s.headers.get k) (s.headers.get 1) := by decide
  exact ⟨s, _, (1 : Fin 2), rfl, rfl, hlines, hheader, hnone,
    ((csvValue_headed s hlines "res.csv".toList (1 : Fin 2)).2 hheader).2 hnone⟩

/-- A name is not always given its own column: `T` is given that of `T2` if it comes first, and
`nan` is given a table, as a file whose first cell is a number. -/
theorem csvValue_otherColumn :
    (∃ (s : Sheet) (text : Text) (i : Fin s.headers.length),
      s.headers = ["T2".toList, "T".toList] ∧ i.val = 1 ∧ text.bareLines = s.lines ∧
        csvValue text (s.headers.get i) "res.csv".toList ≠ .column (s.column i)) ∧
    ∃ (s : Sheet) (text : Text) (i : Fin s.headers.length),
      s.headers = ["nan".toList] ∧ i.val = 0 ∧ text.bareLines = s.lines ∧
        csvValue text (s.headers.get i) "res.csv".toList ≠ .column (s.column i) := by
  let s : Sheet := {
    headers := ["T2".toList, "T".toList]
    rows := [[.ofText "1".toList (by decide +kernel), .ofText "2".toList (by decide +kernel)]]
    headers_ne_nil := by decide
    isIdentifier_of_mem := by decide
    length_of_mem := by decide }
  let s' : Sheet := {
    headers := ["nan".toList]
    rows := [[.ofText "1".toList (by decide +kernel)]]
    headers_ne_nil := by decide
    isIdentifier_of_mem := by decide
    length_of_mem := by decide }
  have hother : csvValue "T2;T\n1;2\n".toList "T".toList "res.csv".toList ≠
      .column (s.column (1 : Fin 2)) := by decide +kernel
  have htable : csvValue "nan\n1\n".toList "nan".toList "res.csv".toList ≠
      .column (s'.column (0 : Fin 1)) := by decide +kernel
  exact ⟨⟨s, "T2;T\n1;2\n".toList, (1 : Fin 2), rfl, rfl, by decide, hother⟩,
    s', "nan\n1\n".toList, (0 : Fin 1), rfl, rfl, by decide, htable⟩

end LineLexer.Gibiane
