/-
Column files as grids.

A row is as good as the cells at its places: behind the last one that is written every cell is
empty (`cellAt`).  So it does not matter up to which width the columns are taken, as long as
no row is longer (`readColumns_of_width`): the columns beyond are empty and left out.  Rows
that are written longer, with semicolons behind them, and blank lines between rows give the
same columns (`readColumns_congr`), and a carriage return is a blank that is trimmed off the
last cell of its row.

Each column has a cell for each row, and there is at least one row if there is a column, so a
column always has a first cell, its header.
-/
import LineLexer.Proofs.Document.LineEnds
import LineLexer.Proofs.Gibiane.Headers

namespace LineLexer.Gibiane

/-! ### Cells by their places -/

/-- The cell at a place of a row, which is empty behind the last one. -/
def cellAt (row : List Text) (i : Nat) : Text := (row[i]?).getD []

theorem cellAt_of_length_le {row : List Text} {i : Nat} (h : row.length ≤ i) :
    cellAt row i = [] := by
  rw [cellAt, List.getElem?_eq_none h]
  rfl

/-- An empty cell at the end of a row is there already. -/
theorem cellAt_concat_nil (row : List Text) : cellAt (row ++ [[]]) = cellAt row := by
  funext i
  by_cases h : i < row.length
  · rw [cellAt, cellAt, List.getElem?_append_left h]
  · rw [cellAt_of_length_le (Nat.le_of_not_lt h), cellAt,
      List.getElem?_append_right (Nat.le_of_not_lt h)]
    cases i - row.length with
    | zero => rfl
    | succ n => rfl

theorem columnAt_eq (rows : List (List Text)) (i : Nat) :
    columnAt rows i = (rows.map cellAt).map (· i) := by
  rw [columnAt, List.map_map]
  rfl

/-! ### Columns up to a width -/

theorem length_le_foldl_max (rows : List (List Text)) (width : Nat) :
    width ≤ rows.foldl (fun widest row => max widest row.length) width ∧
      ∀ row ∈ rows,
        row.length ≤ rows.foldl (fun widest row => max widest row.length) width := by
  induction rows generalizing width with
  | nil => simp
  | cons first rows ih =>
      obtain ⟨hwidth, hrows⟩ := ih (max width first.length)
      rw [List.foldl_cons]
      refine ⟨by omega, ?_⟩
      intro row hrow
      rcases List.mem_cons.mp hrow with rfl | hrow
      · omega
      · exact hrows row hrow

/-- The columns with text up to a width. -/
def columnsTo (rows : List (List Text)) (width : Nat) : List (List Text) :=
  ((List.range width).map (columnAt rows)).filter fun column => column.any (· ≠ [])

/-- Columns beyond all rows have no text. -/
theorem columnsTo_of_le {rows : List (List Text)} {width width' : Nat} (hle : width ≤ width')
    (hrows : ∀ row ∈ rows, row.length ≤ width) : columnsTo rows width' = columnsTo rows width := by
  obtain ⟨more, rfl⟩ := Nat.exists_eq_add_of_le hle
  have hempty : (((List.range more).map (width + ·)).map (columnAt rows)).filter
      (fun column => column.any (· ≠ [])) = [] := by
    rw [List.filter_eq_nil_iff]
    intro column hcolumn
    obtain ⟨i, hi, rfl⟩ := List.mem_map.mp hcolumn
    obtain ⟨j, -, rfl⟩ := List.mem_map.mp hi
    rw [Bool.not_eq_true, List.any_eq_false]
    intro cell hcell
    obtain ⟨row, hrow, rfl⟩ := List.mem_map.mp hcell
    have hlength := hrows row hrow
    have hnil : cellAt row (width + j) = [] := cellAt_of_length_le (by omega)
    show ¬ decide (cellAt row (width + j) ≠ []) = true
    rw [hnil]
    decide
  rw [columnsTo, columnsTo, List.range_add, List.map_append, List.filter_append, hempty,
    List.append_nil]

theorem readColumns_of_width {text : Text} {width : Nat}
    (h : ∀ row ∈ rows text, row.length ≤ width) :
    readColumns text = columnsTo (rows text) width := by
  obtain ⟨-, hrows⟩ := length_le_foldl_max (rows text) 0
  have hread : readColumns text =
      columnsTo (rows text) ((rows text).foldl (fun widest row => max widest row.length) 0) := rfl
  rw [hread]
  rcases Nat.le_total width ((rows text).foldl (fun widest row => max widest row.length) 0) with
    hle | hle
  · exact columnsTo_of_le hle h
  · exact (columnsTo_of_le hle hrows).symm

/-- **Columns are read off the cells at their places.** -/
theorem readColumns_congr {text text' : Text}
    (h : (rows text).map cellAt = (rows text').map cellAt) :
    readColumns text = readColumns text' := by
  obtain ⟨-, hrows⟩ := length_le_foldl_max (rows text ++ rows text') 0
  have hcolumns : columnAt (rows text) = columnAt (rows text') := by
    funext i
    rw [columnAt_eq, columnAt_eq, h]
  rw [readColumns_of_width fun row hrow => hrows row (List.mem_append_left _ hrow),
    readColumns_of_width fun row hrow => hrows row (List.mem_append_right _ hrow), columnsTo,
    columnsTo, hcolumns]

/-! ### Rows line by line -/

/-- The cells a line gives, by their places; none if it is blank. -/
def rowAt? (line : Text) : Option (Nat → Text) := (rowOf? line).map cellAt

theorem rowAt?_nil : rowAt? [] = none := rfl

theorem rowAt?_of_allBlank {line : Text} (h : line.allBlank = true) : rowAt? line = none := by
  rw [rowAt?, rowOf?, if_pos h]
  rfl

theorem map_cellAt_rows (text : Text) : (rows text).map cellAt = text.lines.filterMap rowAt? := by
  rw [rows_eq_filterMap, List.map_filterMap]
  rfl

theorem cells_append_separator (line more : Text) :
    cells (line ++ ';' :: more) = cells line ++ cells more := by
  rw [cells, List.splitOn_append_cons_self, List.map_append]
  rfl

theorem rowAt?_ignoresReturn : Text.IgnoresReturn rowAt? := by
  intro line
  rw [rowAt?, rowAt?, rowOf?_ignoresReturn line]

/-! ### Other lines for the same columns -/

/-- A semicolon behind a line adds an empty cell. -/
theorem rowAt?_concat_separator {row : Text} (h : row.allBlank = false) :
    rowAt? (row ++ [';']) = rowAt? row := by
  have hblank : Text.allBlank (row ++ [';']) = false := by
    have hseparator : isBlank ';' = false := by decide
    simp [Text.allBlank, hseparator]
  have hcells : cells (row ++ [';']) = cells row ++ [[]] := cells_append_separator row []
  simp [rowAt?, rowOf?, hblank, h, hcells, cellAt_concat_nil]

/-- A line of blanks. -/
def Blank (line : Text) : Prop := line.allBlank = true

/-- A semicolon is put behind a line that is not blank. -/
inductive Lengthened : Text → Text → Prop where
  /-- It stands in front of what ends the line. -/
  | separator {row ending : Text} (hrow : row.allBlank = false) (hending : Text.IsEnding ending) :
      Lengthened (row ++ ending) (row ++ ';' :: ending)

/-- Texts that differ by blank lines and by semicolons behind lines. -/
def Relaid : Text → Text → Prop := Relation.EqvGen (Text.Edit Blank Lengthened)

theorem rowAt?_of_lengthened {line line' : Text} (h : Lengthened line line') :
    rowAt? line = rowAt? line' := by
  cases h with
  | @separator row ending hrow hending =>
      have hsplit : row ++ ';' :: ending = (row ++ [';']) ++ ending := by simp
      rw [hsplit, rowAt?_ignoresReturn.append_ending hending,
        rowAt?_ignoresReturn.append_ending hending, rowAt?_concat_separator hrow]

/-- One change leaves the cells at their places. -/
theorem map_cellAt_rows_of_edit {text text' : Text} (h : Text.Edit Blank Lengthened text text') :
    (rows text).map cellAt = (rows text').map cellAt := by
  rw [map_cellAt_rows, map_cellAt_rows]
  apply Text.filterMap_lines_of_edit rowAt?_nil rowAt?_ignoresReturn _ _ h
  · intro line hblank
    exact rowAt?_of_allBlank hblank
  · intro line line' hlonger
    exact rowAt?_of_lengthened hlonger

/-- **Blank lines and semicolons behind lines do not change the columns.** -/
theorem readColumns_of_relaid {text text' : Text} (h : Relaid text text') :
    readColumns text = readColumns text' := by
  apply readColumns_congr
  apply Text.eq_of_eqvGen _ h
  intro text text' hstep
  exact map_cellAt_rows_of_edit hstep

/-! ### The shape of columns -/

/-- The lines that are no blanks. -/
def rowCount (text : Text) : Nat := text.lines.countP fun line => !line.allBlank

/-- What the columns of a file have in common. -/
structure Shaped (text : Text) : Prop where
  /-- Each has a cell for each line that is not blank. -/
  length_of_mem : ∀ column ∈ readColumns text, column.length = rowCount text
  /-- Each has a cell with text. -/
  exists_text : ∀ column ∈ readColumns text, ∃ cell ∈ column, cell ≠ []
  /-- Each has a first cell, its header, and cells behind it. -/
  exists_header : ∀ column ∈ readColumns text, ∃ header cells, column = header :: cells

/-- **Columns have one cell for each row, and text in one of them.** -/
theorem readColumns_shaped (text : Text) : Shaped text := by
  have hmem : ∀ column ∈ readColumns text,
      (∃ i, column = columnAt (rows text) i) ∧ ∃ cell ∈ column, cell ≠ [] := by
    intro column hcolumn
    obtain ⟨hcolumn, htext⟩ := List.mem_filter.mp hcolumn
    obtain ⟨i, -, hi⟩ := List.mem_map.mp hcolumn
    obtain ⟨cell, hcell, hne⟩ := List.any_eq_true.mp htext
    exact ⟨⟨i, hi.symm⟩, cell, hcell, of_decide_eq_true hne⟩
  refine ⟨?_, fun column hcolumn => (hmem column hcolumn).2, ?_⟩
  · intro column hcolumn
    obtain ⟨⟨i, rfl⟩, -⟩ := hmem column hcolumn
    rw [columnAt, List.length_map, rows, List.length_map, rowCount, List.countP_eq_length_filter]
  · intro column hcolumn
    obtain ⟨-, cell, hcell, -⟩ := hmem column hcolumn
    exact List.exists_cons_of_ne_nil (List.ne_nil_of_mem hcell)

/-! ### Grids -/

/-- A cell that reading leaves as it is: no separator, no line end, and nothing around it that is
trimmed. -/
structure PlainCell (cell : Text) : Prop where
  /-- It holds no semicolon. -/
  separator_not_mem : ';' ∉ cell
  /-- It holds no carriage return. -/
  return_not_mem : '\r' ∉ cell
  /-- It holds no line feed. -/
  feed_not_mem : '\n' ∉ cell
  /-- It begins neither with a blank nor with a quote. -/
  head : ∀ c ∈ cell.head?, isBlank c = false ∧ c ≠ '"'
  /-- It ends neither with a blank nor with a quote. -/
  last : ∀ c ∈ cell.getLast?, isBlank c = false ∧ c ≠ '"'

/-- Nothing is taken off the front of a text that begins with something else. -/
theorem dropWhile_of_head? {p : Char → Bool} {t : Text} (h : ∀ c ∈ t.head?, p c = false) :
    t.dropWhile p = t := by
  cases t with
  | nil => rfl
  | cons c t => exact List.dropWhile_cons_of_neg (by simp [h c rfl])

theorem reverse_dropWhile_of_getLast? {p : Char → Bool} {t : Text}
    (h : ∀ c ∈ t.getLast?, p c = false) : (t.reverse.dropWhile p).reverse = t := by
  rw [dropWhile_of_head?, List.reverse_reverse]
  intro c hc
  rw [List.head?_reverse] at hc
  exact h c hc

theorem PlainCell.isCell {cell : Text} (h : PlainCell cell) : IsCell cell := by
  refine ⟨h.separator_not_mem, ?_⟩
  have htrim : cell.trim = cell := by
    rw [Text.trim, Text.trimStart, dropWhile_of_head? fun c hc => (h.head c hc).1, Text.trimEnd,
      reverse_dropWhile_of_getLast? fun c hc => (h.last c hc).1]
  rw [htrim, Text.trimChar, dropWhile_of_head? fun c hc => beq_eq_false_iff_ne.mpr (h.head c hc).2,
    reverse_dropWhile_of_getLast? fun c hc => beq_eq_false_iff_ne.mpr (h.last c hc).2]

/-- Visible characters but the separator and the quote make a plain cell. -/
theorem plainCell_of_visible {t : Text}
    (h : ∀ c ∈ t, 33 ≤ c.toNat ∧ c.toNat ≤ 126 ∧ c.toNat ≠ 59 ∧ c.toNat ≠ 34) : PlainCell t := by
  have hends : ∀ c ∈ t, isBlank c = false ∧ c ≠ '"' := by
    intro c hc
    obtain ⟨hlo, hhi, -, hquote⟩ := h c hc
    refine ⟨isBlank_of_visible hlo hhi, ?_⟩
    rintro rfl
    exact hquote rfl
  have hapart : ∀ c : Char, c.toNat < 33 → c ∉ t := by
    intro c hlow hc
    have hvisible := (h c hc).1
    omega
  exact ⟨fun hc => (h _ hc).2.2.1 rfl, hapart _ (by decide), hapart _ (by decide),
    fun c hc => hends c (List.mem_of_head? hc), fun c hc => hends c (List.mem_of_getLast? hc)⟩

/-- A number is a plain cell. -/
theorem plainCell_of_isSome {t : Text} (h : (Binary64.read? t).isSome = true) : PlainCell t := by
  apply plainCell_of_visible
  intro c hc
  have hcode := Binary64.isNumberChar_of_read? (Binary64.read?_get h) c hc
  unfold IsNumberChar at hcode
  omega

/-- Rows of cells of one width, each of which is seen in a file. -/
structure Grid where
  /-- The rows from the top down. -/
  rows : List (List Text)
  /-- The number of cells of each row. -/
  width : Nat
  rows_ne_nil : rows ≠ []
  length_of_mem : ∀ row ∈ rows, row.length = width
  plain_of_mem : ∀ row ∈ rows, ∀ cell ∈ row, PlainCell cell
  not_blank_of_mem : ∀ row ∈ rows, (rowLine row).allBlank = false

namespace Grid

variable (grid : Grid)

/-- The file in which the rows are written, line by line. -/
def text : Text := Text.joinLines (grid.rows.map rowLine)

/-- The columns from left to right. -/
def columns : List (List Text) := (List.range grid.width).map (columnAt grid.rows)

/-- A character that no cell holds is on no line, but for the separator. -/
theorem not_mem_rowLine {row : List Text} {c : Char} (hseparator : c ≠ ';')
    (h : ∀ cell ∈ row, c ∉ cell) : c ∉ rowLine row := by
  induction row with
  | nil => simp [rowLine, List.intercalate]
  | cons cell row ih =>
      have hcell : c ∉ cell := h cell List.mem_cons_self
      have hrow := ih fun other hother => h other (List.mem_cons_of_mem _ hother)
      rw [rowLine]
      cases row with
      | nil => simpa [List.intercalate_singleton] using hcell
      | cons next row =>
          rw [List.intercalate_cons_cons]
          simp only [List.mem_append, List.mem_singleton, not_or]
          exact ⟨⟨hcell, hseparator⟩, hrow⟩

/-- The lines of the file are the rows. -/
theorem bareLines_text : grid.text.bareLines = grid.rows.map rowLine := by
  have hplain : ∀ line ∈ grid.rows.map rowLine, '\n' ∉ line ∧ '\r' ∉ line := by
    intro line hline
    obtain ⟨row, hrow, rfl⟩ := List.mem_map.mp hline
    have hcells := grid.plain_of_mem row hrow
    exact ⟨not_mem_rowLine (by decide) fun cell hcell => (hcells cell hcell).feed_not_mem,
      not_mem_rowLine (by decide) fun cell hcell => (hcells cell hcell).return_not_mem⟩
  have hraws : grid.text.rawLines = grid.rows.map rowLine := by
    apply List.splitOn_intercalate
    · intro line hline
      exact (hplain line hline).1
    · simpa using grid.rows_ne_nil
  have hlast : (grid.rows.map rowLine).getLast? ≠ some [] := by
    intro hnil
    obtain ⟨row, hrow, hline⟩ := List.mem_map.mp (List.mem_of_getLast? hnil)
    have hblank := grid.not_blank_of_mem row hrow
    rw [hline] at hblank
    exact absurd hblank (by decide)
  simp only [Text.bareLines, hraws, if_neg hlast]
  calc (grid.rows.map rowLine).map Text.stripReturn
      = (grid.rows.map rowLine).map id := by
        apply List.map_congr_left
        intro line hline
        exact Text.stripReturn_of_not_mem (hplain line hline).2
    _ = grid.rows.map rowLine := List.map_id _

theorem width_pos : 0 < grid.width := by
  obtain ⟨row, hrow⟩ := List.exists_mem_of_ne_nil grid.rows grid.rows_ne_nil
  by_contra hzero
  have hlength := grid.length_of_mem row hrow
  obtain rfl := List.eq_nil_of_length_eq_zero (by omega : row.length = 0)
  exact absurd (grid.not_blank_of_mem [] hrow) (by decide)

/-- **The columns of the file are those of the grid that have text.** -/
theorem readColumns_text :
    readColumns grid.text = grid.columns.filter fun column => column.any (· ≠ []) :=
  readColumns_eq grid.bareLines_text grid.rows_ne_nil grid.width_pos grid.length_of_mem
    (fun row hrow cell hcell => (grid.plain_of_mem row hrow cell hcell).isCell)
    grid.not_blank_of_mem

/-- A cell of a column is a cell of a row. -/
theorem exists_row_of_mem_columnAt {i : Nat} (hi : i < grid.width) {cell : Text}
    (h : cell ∈ columnAt grid.rows i) : ∃ row ∈ grid.rows, cell ∈ row := by
  obtain ⟨row, hrow, rfl⟩ := List.mem_map.mp h
  have hlength := grid.length_of_mem row hrow
  refine ⟨row, hrow, ?_⟩
  rw [List.getElem?_eq_getElem (by omega), Option.getD_some]
  exact List.getElem_mem _

/-- All cells are numbers. -/
def Numeric : Prop := ∀ row ∈ grid.rows, ∀ cell ∈ row, (Binary64.read? cell).isSome = true

variable {grid}

/-- A grid of numbers has no column without text. -/
theorem Numeric.readColumns_text (h : grid.Numeric) : readColumns grid.text = grid.columns := by
  rw [grid.readColumns_text, List.filter_eq_self]
  intro column hcolumn
  obtain ⟨i, hi, rfl⟩ := List.mem_map.mp hcolumn
  obtain ⟨first, rows, hrows⟩ := List.exists_cons_of_ne_nil grid.rows_ne_nil
  rw [hrows, columnAt, List.map_cons, List.any_cons, Bool.or_eq_true, decide_eq_true_iff]
  left
  intro hnil
  have hmem : ([] : Text) ∈ columnAt grid.rows i := by
    rw [hrows, columnAt, List.map_cons, hnil]
    exact List.mem_cons_self
  obtain ⟨row, hrow, hcell⟩ := grid.exists_row_of_mem_columnAt (List.mem_range.mp hi) hmem
  have hnumber := h row hrow [] hcell
  rw [Binary64.read?_nil] at hnumber
  exact Bool.noConfusion hnumber

/-- Texts that read as numbers are the numbers they read as. -/
theorem numbers_eq_filterMap {cells : List Text}
    (h : ∀ cell ∈ cells, (Binary64.read? cell).isSome = true) :
    numbers cells = cells.filterMap Binary64.read? := by
  induction cells with
  | nil => rfl
  | cons cell cells ih =>
      obtain ⟨v, hv⟩ := Option.isSome_iff_exists.mp (h cell List.mem_cons_self)
      have hcells := ih fun other hother => h other (List.mem_cons_of_mem _ hother)
      rw [List.filterMap_cons_some hv, ← hcells, numbers, List.map_cons, hv]
      rfl

/-- **A grid of numbers is read as a table**, whatever is asked for. -/
theorem Numeric.csvValue_text (h : grid.Numeric) (name file : Text) :
    csvValue grid.text name file =
      .table (grid.columns.map fun column => column.filterMap Binary64.read?) := by
  have hcells : ∀ i < grid.width, ∀ cell ∈ columnAt grid.rows i,
      (Binary64.read? cell).isSome = true := by
    intro i hi cell hcell
    obtain ⟨row, hrow, hmem⟩ := grid.exists_row_of_mem_columnAt hi hcell
    exact h row hrow cell hmem
  obtain ⟨first, hfirst⟩ : ∃ first, (columnAt grid.rows 0).head? = some first := by
    obtain ⟨row, rows, hrows⟩ := List.exists_cons_of_ne_nil grid.rows_ne_nil
    exact ⟨cellAt row 0, by rw [hrows]; rfl⟩
  have hhead : grid.columns.head?.bind List.head? = some first := by
    obtain ⟨more, hmore⟩ := Nat.exists_eq_add_of_lt grid.width_pos
    rw [columns, hmore, List.range_succ_eq_map]
    simpa using hfirst
  have hnumber := hcells 0 grid.width_pos first (List.mem_of_head? hfirst)
  have hcolumns : grid.columns.map numbers =
      grid.columns.map fun column => column.filterMap Binary64.read? := by
    apply List.map_congr_left
    intro column hcolumn
    obtain ⟨i, hi, rfl⟩ := List.mem_map.mp hcolumn
    exact numbers_eq_filterMap (hcells i (List.mem_range.mp hi))
  simp only [csvValue, h.readColumns_text, hhead, hnumber, if_true, hcolumns]

end Grid

/-- How columns are read. -/
structure ColumnLaws : Prop where
  /-- Columns have one cell for each row, and text in one of them. -/
  shaped : ∀ text, Shaped text
  /-- Blank lines and semicolons behind lines do not change them. -/
  relaid : ∀ {text text' : Text}, Relaid text text' → readColumns text = readColumns text'
  /-- A grid is read back as its columns that have text. -/
  grid : ∀ grid : Grid,
    readColumns grid.text = grid.columns.filter fun column => column.any (· ≠ [])
  /-- A grid of numbers is read as a table of them. -/
  table : ∀ {grid : Grid}, grid.Numeric → ∀ name file, csvValue grid.text name file =
    .table (grid.columns.map fun column => column.filterMap Binary64.read?)

/-- **Columns keep the shape of their file, and grids are read back.** -/
theorem readColumns_laws : ColumnLaws :=
  ⟨readColumns_shaped, readColumns_of_relaid, Grid.readColumns_text,
    fun h name file => h.csvValue_text name file⟩

/-- Two rows of numbers, and the same with a semicolon and a blank line more. -/
theorem readColumns_laws_numbers :
    ∃ grid : Grid, grid.rows = [["1".toList, "2".toList], ["-3".toList, "4e5".toList]] ∧
      grid.Numeric ∧ Relaid grid.text "1;2;\n \r\n-3;4e5".toList ∧
      readColumns grid.text = readColumns "1;2;\n \r\n-3;4e5".toList ∧
      readColumns "1;2;\n \r\n-3;4e5".toList =
        [["1".toList, "-3".toList], ["2".toList, "4e5".toList]] ∧
      csvValue grid.text "x".toList "res.csv".toList =
        .table (grid.columns.map fun column => column.filterMap Binary64.read?) := by
  have hnumeric : ∀ row ∈ [["1".toList, "2".toList], ["-3".toList, "4e5".toList]],
      ∀ cell ∈ row, (Binary64.read? cell).isSome = true := by decide +kernel
  let grid : Grid := {
    rows := [["1".toList, "2".toList], ["-3".toList, "4e5".toList]]
    width := 2
    rows_ne_nil := by decide
    length_of_mem := by decide
    plain_of_mem := fun row hrow cell hcell => plainCell_of_isSome (hnumeric row hrow cell hcell)
    not_blank_of_mem := by decide }
  have hlonger : Text.Edit Blank Lengthened grid.text "1;2;\n-3;4e5".toList :=
    .change [] ["-3;4e5".toList] (by decide) (by decide)
      (@Lengthened.separator "1;2".toList [] (by decide) (Or.inl rfl))
  have hblank : Text.Edit Blank Lengthened "1;2;\n-3;4e5".toList
      "1;2;\n \r\n-3;4e5".toList :=
    @Text.Edit.insert Blank Lengthened " \r".toList ["1;2;".toList] ["-3;4e5".toList]
      (by decide) (by unfold Blank; decide)
  have hrelaid : Relaid grid.text "1;2;\n \r\n-3;4e5".toList :=
    .trans _ _ _ (.rel _ _ hlonger) (.rel _ _ hblank)
  have hgrid : grid.Numeric := hnumeric
  exact ⟨grid, rfl, hgrid, hrelaid, readColumns_laws.relaid hrelaid, by decide,
    readColumns_laws.table hgrid "x".toList "res.csv".toList⟩

end LineLexer.Gibiane
