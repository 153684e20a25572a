/-
Rows written with separators and read back as columns.

A cell that holds no semicolon and has nothing around it that reading would trim is read
as it was written, and so is a row of them.  Rows of one width then come back as their
columns: the `i`-th column holds the `i`-th cell of every row, and only columns without
any text are left out (`readColumns_eq`).

A carriage return at the end of a line is a blank that is trimmed off the last cell, so it
makes no difference whether one is left there (`rows_eq_bareLines`).
-/
import LineLexer.Gibiane.Results
import LineLexer.Proofs.Text.Edited
import LineLexer.Proofs.Text.Visible
import Mathlib.Data.List.Basic
import Mathlib.Data.List.TakeWhile

namespace LineLexer.Gibiane

/-- A text that a cell gives back as it is. -/
structure IsCell (t : Text) : Prop where
  not_mem : ';' ∉ t
  trimmed : Text.trimChar '"' (Text.trim t) = t

/-- Visible characters but the separator and the quote make a cell. -/
theorem isCell_of_visible {t : Text}
    (h : ∀ c ∈ t, 33 ≤ c.toNat ∧ c.toNat ≤ 126 ∧ c.toNat ≠ 59 ∧ c.toNat ≠ 34) : IsCell t := by
  have hquote : '"' ∉ t := fun hmem => (h _ hmem).2.2.2 rfl
  refine ⟨fun hmem => (h _ hmem).2.2.1 rfl, ?_⟩
  rw [Text.trim_of_forall fun c hc => isBlank_of_visible (h c hc).1 (h c hc).2.1]
  exact Text.trimChar_of_not_mem hquote

/-- The line on which a row of cells is written. -/
def rowLine (row : List Text) : Text := [';'].intercalate row

/-- The cells of a row are read as they were written. -/
theorem cells_rowLine {row : List Text} (hne : row ≠ []) (hcells : ∀ t ∈ row, IsCell t) :
    cells (rowLine row) = row := by
  rw [cells, rowLine, List.splitOn_intercalate _ (fun t ht => (hcells t ht).not_mem) hne]
  calc row.map (fun t => Text.trimChar '"' (Text.trim t))
      = row.map id := List.map_congr_left fun t ht => (hcells t ht).trimmed
    _ = row := List.map_id row

/-- What a cell holds is on the line of its row. -/
theorem mem_rowLine {row : List Text} {t : Text} (ht : t ∈ row) {c : Char} (hc : c ∈ t) :
    c ∈ rowLine row := by
  induction row with
  | nil => simp at ht
  | cons first row ih =>
      rw [rowLine]
      cases row with
      | nil =>
          obtain rfl := List.mem_singleton.mp ht
          rwa [List.intercalate_singleton]
      | cons second row =>
          rw [List.intercalate_cons_cons]
          rcases List.mem_cons.mp ht with rfl | ht
          · simp [hc]
          · exact List.mem_append_right _ (ih ht)

/-- A row with a character that is no blank is read. -/
theorem not_allBlank_rowLine {row : List Text} {t : Text} (ht : t ∈ row) {c : Char} (hc : c ∈ t)
    (hblank : isBlank c = false) : (rowLine row).allBlank = false := by
  rw [Text.allBlank, List.all_eq_false]
  exact ⟨c, mem_rowLine ht hc, by simp [hblank]⟩

/-! ### Carriage returns -/

/-- A carriage return at the end of a line belongs to its last piece. -/
theorem exists_splitOn_concat (line : Text) : ∃ pieces last,
    line.splitOn ';' = pieces ++ [last] ∧
      (line ++ ['\r']).splitOn ';' = pieces ++ [last ++ ['\r']] := by
  induction line with
  | nil => exact ⟨[], [], rfl, rfl⟩
  | cons c line ih =>
      obtain ⟨pieces, last, hline, hreturn⟩ := ih
      rw [List.cons_append, List.splitOn_cons_eq_if_modifyHead,
        List.splitOn_cons_eq_if_modifyHead, hline, hreturn]
      by_cases hc : (c == ';') = true
      · exact ⟨[] :: pieces, last, by simp [hc], by simp [hc]⟩
      · cases pieces with
        | nil => exact ⟨[], c :: last, by simp [hc], by simp [hc]⟩
        | cons piece pieces => exact ⟨(c :: piece) :: pieces, last, by simp [hc], by simp [hc]⟩

theorem trim_concat_return (t : Text) : Text.trim (t ++ ['\r']) = Text.trim t := by
  have hreturn : isBlank '\r' = true := by decide
  by_cases hblank : t.allBlank = true
  · rw [Text.trim_of_allBlank hblank]
    apply Text.trim_of_allBlank
    rw [Text.allBlank, List.all_append, Bool.and_eq_true]
    exact ⟨hblank, by simpa using hreturn⟩
  · have hne : t.dropWhile isBlank ≠ [] := by
      intro hnil
      exact hblank (List.all_eq_true.mpr (List.dropWhile_eq_nil_iff.mp hnil))
    rw [Text.trim, Text.trim, Text.trimStart, Text.trimStart, List.dropWhile_append,
      if_neg (by simpa using hne), Text.trimEnd, List.reverse_append, List.reverse_singleton,
      List.singleton_append, List.dropWhile_cons_of_pos hreturn]
    rfl

theorem cells_concat_return (line : Text) : cells (line ++ ['\r']) = cells line := by
  obtain ⟨pieces, last, hline, hreturn⟩ := exists_splitOn_concat line
  rw [cells, cells, hline, hreturn, List.map_append, List.map_append, List.map_singleton,
    List.map_singleton, trim_concat_return]

/-- The cells a line gives; none if it is blank. -/
def rowOf? (line : Text) : Option (List Text) :=
  if line.allBlank then none else some (cells line)

theorem rowOf?_nil : rowOf? [] = none := rfl

theorem rowOf?_ignoresReturn : Text.IgnoresReturn rowOf? := by
  intro line
  have hblank : Text.allBlank (line ++ ['\r']) = line.allBlank := by
    have hreturn : isBlank '\r' = true := by decide
    simp [Text.allBlank, hreturn]
  rw [rowOf?, rowOf?, hblank, cells_concat_return]

theorem rows_eq_filterMap (text : Text) : rows text = text.lines.filterMap rowOf? := by
  rw [rows]
  induction text.lines with
  | nil => rfl
  | cons line lines ih =>
      by_cases hblank : line.allBlank = true
      · rw [List.filter_cons_of_neg (by simpa using hblank), ih,
          List.filterMap_cons_none (by rw [rowOf?, if_pos hblank])]
      · rw [List.filter_cons_of_pos (by simpa using hblank), List.map_cons, ih,
          List.filterMap_cons_some (by rw [rowOf?, if_neg hblank])]

/-- **The lines may be taken without what ends them.** -/
theorem rows_eq_bareLines (text : Text) : rows text = text.bareLines.filterMap rowOf? := by
  rw [rows_eq_filterMap, Text.filterMap_bareLines rowOf?_nil rowOf?_ignoresReturn]

/-! ### Columns -/

/-- The `i`-th cell of every row. -/
def columnAt (rows : List (List Text)) (i : Nat) : List Text :=
  rows.map fun row => (row[i]?).getD []

theorem foldl_max_length {rows : List (List Text)} {width : Nat}
    (h : ∀ row ∈ rows, row.length = width) :
    rows.foldl (fun widest row => max widest row.length) width = width := by
  induction rows with
  | nil => rfl
  | cons row rows ih =>
      rw [List.foldl_cons, h row List.mem_cons_self, Nat.max_self]
      exact ih fun other hother => h other (List.mem_cons_of_mem _ hother)

/-- Rows that are not blank are read as they were written. -/
theorem rows_of_bareLines {text : Text} {matrix : List (List Text)}
    (hlines : text.bareLines = matrix.map rowLine) (hne : ∀ row ∈ matrix, row ≠ [])
    (hcells : ∀ row ∈ matrix, ∀ t ∈ row, IsCell t)
    (hblank : ∀ row ∈ matrix, (rowLine row).allBlank = false) : rows text = matrix := by
  have hrow : ∀ row ∈ matrix, (rowOf? ∘ rowLine) row = some row := by
    intro row hrow
    rw [Function.comp_apply, rowOf?, hblank row hrow,
      cells_rowLine (hne row hrow) (hcells row hrow)]
    rfl
  rw [rows_eq_bareLines, hlines, List.filterMap_map, List.filterMap_congr hrow,
    List.filterMap_some]

/-- **Rows of one width are read as their columns.** -/
theorem readColumns_eq {text : Text} {matrix : List (List Text)} {width : Nat}
    (hlines : text.bareLines = matrix.map rowLine) (hne : matrix ≠ []) (hpos : 0 < width)
    (hwidth : ∀ row ∈ matrix, row.length = width)
    (hcells : ∀ row ∈ matrix, ∀ t ∈ row, IsCell t)
    (hblank : ∀ row ∈ matrix, (rowLine row).allBlank = false) :
    readColumns text =
      ((List.range width).map (columnAt matrix)).filter fun column => column.any (· ≠ []) := by
  have hnonempty : ∀ row ∈ matrix, row ≠ [] := by
    intro row hrow
    rw [← List.length_pos_iff, hwidth row hrow]
    exact hpos
  have hrows := rows_of_bareLines hlines hnonempty hcells hblank
  have hfold : matrix.foldl (fun widest row => max widest row.length) 0 = width := by
    cases matrix with
    | nil => exact absurd rfl hne
    | cons row matrix =>
        rw [List.foldl_cons, hwidth row List.mem_cons_self, Nat.zero_max]
        exact foldl_max_length fun other hother => hwidth other (List.mem_cons_of_mem _ hother)
  rw [readColumns, hrows, hfold]
  rfl

end LineLexer.Gibiane
