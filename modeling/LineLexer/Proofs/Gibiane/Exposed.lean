/-
Discovery undoes writing.

Discovery looks at the statements of a whole script three times: for what is printed, for
neighbouring statements that write to a file, and for calls of a procedure.  Each look
finds the exposures of its kind and takes nothing else for one, whatever their names are
(`filterMap_printedName?`, `sortOutputs_flatMap`, `filterMap_excelOutput?`).  The one look
that reaches across the script is the search for the columns of a table; that no two
tables have the same name is what keeps it with the table it is for (`tableColumns_eq`).

So the declarations of a script are its outputs, in another order
(`declarations_statements`), and as no two of them have the same name each is recorded as
it stands (`outputsOf_map`).
-/
import LineLexer.Proofs.Gibiane.Recorded
import LineLexer.Proofs.Gibiane.Scripts
import Mathlib.Data.List.Perm.Basic

namespace LineLexer.Gibiane

/-! ### Equality up to case -/

theorem eqIgnoreCase_refl (t : Text) : Text.eqIgnoreCase t t = true := by
  simp [Text.eqIgnoreCase]

theorem eqIgnoreCase_comm (s t : Text) : Text.eqIgnoreCase s t = Text.eqIgnoreCase t s := by
  simp only [Text.eqIgnoreCase]
  exact Bool.beq_comm

@[simp] theorem isWord_word (t word : Text) :
    (Item.word t).isWord word = Text.eqIgnoreCase t word := rfl

/-! ### Names of files -/

theorem all_splitOn_dot (t : Text) :
    (t.splitOn '.').all (fun part => part.isEmpty || Text.isWord part) =
      t.all fun c => isWordChar c || c == '.' := by
  have hpart : (fun part : Text => part.isEmpty || Text.isWord part) =
      fun part => part.all isWordChar := by
    funext part
    cases part <;> simp [Text.isWord]
  rw [hpart]
  induction t with
  | nil => rfl
  | cons c t ih =>
      rw [List.splitOn_cons_eq_if_modifyHead, List.all_cons, ← ih]
      by_cases hc : c = '.'
      · subst hc
        simp
      · have hbeq : (c == '.') = false := beq_eq_false_iff_ne.mpr hc
        cases hparts : t.splitOn '.' with
        | nil => exact absurd hparts (List.splitOn_ne_nil _ _)
        | cons part parts => simp [hbeq, Bool.and_assoc]

theorem isFileName_iff {t : Text} :
    isFileName t = true ↔ t ≠ [] ∧ ∀ c ∈ t, isWordChar c = true ∨ c = '.' := by
  simp [isFileName, all_splitOn_dot]

/-- The name of a file that passes for one. -/
def FileName.ofText (text : Text) (h : isFileName text = true) : FileName :=
  ⟨text, (isFileName_iff.mp h).1, (isFileName_iff.mp h).2⟩

theorem isFileName_fileName (file : FileName) : isFileName file.text = true :=
  isFileName_iff.mpr ⟨file.nonempty, file.chars⟩

/-! ### What each look finds in an exposure -/

namespace Exposure

/-- Which look of discovery an exposure is for. -/
inductive Kind where
  /-- It is printed. -/
  | printed
  /-- It is written to a file by neighbouring statements. -/
  | sorted
  /-- It is written to a file by a procedure. -/
  | called
deriving DecidableEq

/-- The kind of an exposure. -/
def kind : Exposure → Kind
  | printed _ => .printed
  | chain _ _ | table _ _ _ _ => .sorted
  | excel _ _ => .called

/-- What the look for a kind finds. -/
def found (kind : Kind) (e : Exposure) : List Output := if e.kind = kind then e.outputs else []

theorem mem_table_statements {name : Name} {columns : List Name} {nonempty : columns ≠ []}
    {file : FileName} {statement : Statement}
    (h : statement ∈ (table name columns nonempty file).statements) :
    statement = tableStatement name ∨
      (∃ column ∈ columns, statement = columnStatement name column) ∨
      statement = fileStatement file ∨ statement = sortStatement "EXCE" name := by
  simpa [statements, eq_comm] using h

theorem printedName?_printed (name : Name) :
    printedName? [.word "MESS".toList, .literal (name.text ++ ['=']), .word name.text] =
      some name.text := by
  have hchars := (Text.isWord_iff.mp name.isWord).2
  have htake : (name.text ++ ['=']).takeWhile isWordChar = name.text :=
    takeWhile_run hchars (by rintro _ ⟨⟩; decide)
  have hdrop : (name.text ++ ['=']).dropWhile isWordChar = ['='] := by
    rw [List.dropWhile_append_of_pos hchars]
    decide
  have htrim : Text.trim ['='] = ['='] := by decide
  simp [printedName?, htake, hdrop, htrim, Name.isWord, eqIgnoreCase_refl]

theorem filterMap_printedName? (e : Exposure) :
    (e.statements.filterMap printedName?).map (fun name => (⟨name, .console⟩ : Output)) =
      e.found .printed := by
  cases e with
  | printed name =>
      exact congrArg (List.map _) (List.filterMap_cons_some (printedName?_printed name))
  | chain _ _ | excel _ _ => rfl
  | table name columns _ file =>
      have hnone : (table name columns ‹_› file).statements.filterMap printedName? = [] := by
        rw [List.filterMap_eq_nil_iff]
        intro statement hmem
        rcases mem_table_statements hmem with rfl | ⟨column, -, rfl⟩ | rfl | rfl <;> rfl
      rw [hnone]
      rfl

theorem excelOutput?_excel (all : List Statement) (name : Name) (stem : Stem) :
    excelOutput? all
        [.word "@EXCEL1".toList, .word name.text, .literal (stem.text ++ ".csv".toList)] =
      some (.output name.text (.file (stem.text ++ ".csv".toList))) := by
  have hlength : (stem.text ++ ".csv".toList).length - 4 = stem.text.length := by simp
  have htake : (stem.text ++ ".csv".toList).take stem.text.length = stem.text := by simp
  have hsuffix : ".csv".toList.isSuffixOf (stem.text ++ ".csv".toList) = true := by
    rw [List.isSuffixOf_iff_suffix]
    exact List.suffix_append _ _
  simp only [excelOutput?, isWord_word, eqIgnoreCase_refl, Name.isWord, hlength, htake, hsuffix,
    stem.isWord, Bool.and_self, Bool.not_true, Bool.false_eq_true, if_false, if_true]

theorem filterMap_excelOutput? (all : List Statement) (e : Exposure) :
    e.statements.filterMap (excelOutput? all) =
      (e.found .called).map Output.declaration := by
  cases e with
  | excel name stem => exact List.filterMap_cons_some (excelOutput?_excel all name stem)
  | printed _ | chain _ _ => rfl
  | table name columns _ file =>
      have hnone : (table name columns ‹_› file).statements.filterMap (excelOutput? all) = [] := by
        rw [List.filterMap_eq_nil_iff]
        intro statement hmem
        rcases mem_table_statements hmem with rfl | ⟨column, -, rfl⟩ | rfl | rfl <;> rfl
      rw [hnone]
      rfl

/-! ### The columns of a table -/

/-- No statement of an exposure declares a table but the one that is its own. -/
theorem declaresTable_eq_false {e : Exposure} {name : Text}
    (h : ∀ other ∈ e.table?, Text.eqIgnoreCase other name = false) :
    ∀ statement ∈ e.statements, declaresTable name statement = false := by
  intro statement hmem
  cases e with
  | printed _ | excel _ _ =>
      obtain rfl := List.mem_singleton.mp hmem
      simp [declaresTable, Item.isSymbol]
  | chain _ _ =>
      rcases List.mem_cons.mp hmem with rfl | hmem
      · simp [fileStatement, declaresTable, Item.isSymbol]
      · obtain rfl := List.mem_singleton.mp hmem
        simp [sortStatement, declaresTable, Item.isSymbol]
  | table other columns _ file =>
      rcases mem_table_statements hmem with rfl | ⟨column, -, rfl⟩ | rfl | rfl
      · simp [tableStatement, declaresTable, h other.text rfl]
      · rfl
      · simp [fileStatement, declaresTable, Item.isSymbol]
      · simp [sortStatement, declaresTable, Item.isSymbol]

/-- No statement of an exposure assigns a column of a table but of the one that is its own. -/
theorem tableField?_eq_none {e : Exposure} {name : Text}
    (h : ∀ other ∈ e.table?, Text.eqIgnoreCase other name = false) :
    ∀ statement ∈ e.statements, tableField? name statement = none := by
  intro statement hmem
  cases e with
  | printed _ | excel _ _ =>
      obtain rfl := List.mem_singleton.mp hmem
      rfl
  | chain _ _ =>
      rcases List.mem_cons.mp hmem with rfl | hmem
      · rfl
      · obtain rfl := List.mem_singleton.mp hmem
        rfl
  | table other columns _ file =>
      rcases mem_table_statements hmem with rfl | ⟨column, -, rfl⟩ | rfl | rfl
      · rfl
      · simp [columnStatement, tableField?, h other.text rfl]
      · rfl
      · rfl

theorem tableField?_column (name column : Name) :
    tableField? name.text (columnStatement name column) = some column.text := by
  have htrim : Text.trimEnd column.text = column.text :=
    Text.reverse_dropWhile_of_forall fun c hc =>
      isBlank_of_isWordChar ((Text.isWord_iff.mp column.isWord).2 c hc)
  simp [columnStatement, tableField?, eqIgnoreCase_refl, htrim, Name.isWord, Item.isSymbol]

/-- **The columns found for a table are its own**, where no other table has its name. -/
theorem tableColumns_eq {before after : List Exposure} {name : Name} {columns : List Name}
    {nonempty : columns ≠ []} {file : FileName}
    (hbefore : ∀ e ∈ before, ∀ other ∈ e.table?, Text.eqIgnoreCase other name.text = false)
    (hafter : ∀ e ∈ after, ∀ other ∈ e.table?, Text.eqIgnoreCase other name.text = false) :
    tableColumns ((before ++ table name columns nonempty file :: after).flatMap statements)
      name.text = columns.map Name.text := by
  have hskip : ∀ statement ∈ before.flatMap statements,
      (!declaresTable name.text statement) = true := by
    intro statement hmem
    obtain ⟨e, he, hmem⟩ := List.mem_flatMap.mp hmem
    rw [declaresTable_eq_false (hbefore e he) statement hmem]
    rfl
  have hrest : (after.flatMap statements).filterMap (tableField? name.text) = [] := by
    rw [List.filterMap_eq_nil_iff]
    intro statement hmem
    obtain ⟨e, he, hmem⟩ := List.mem_flatMap.mp hmem
    exact tableField?_eq_none (hafter e he) statement hmem
  have hfields : fieldColumns
      ((before ++ table name columns nonempty file :: after).flatMap statements) name.text =
        columns.map Name.text := by
    have hstatements : (table name columns nonempty file).statements =
        tableStatement name :: (columns.map (columnStatement name) ++
          [fileStatement file, sortStatement "EXCE" name]) := rfl
    have hdeclares : declaresTable name.text (tableStatement name) = true := by
      simp [tableStatement, declaresTable, eqIgnoreCase_refl, Item.isSymbol]
    have hcolumns : (columns.map (columnStatement name)).filterMap (tableField? name.text) =
        columns.map Name.text := by
      rw [List.filterMap_map, ← List.filterMap_eq_map]
      congr 1
      funext column
      exact tableField?_column name column
    rw [fieldColumns, List.flatMap_append, List.dropWhile_append_of_pos hskip, List.flatMap_cons,
      hstatements, List.cons_append, List.dropWhile_cons, hdeclares]
    simp only [Bool.not_true, Bool.false_eq_true, if_false, List.drop_succ_cons, List.drop_zero,
      List.filterMap_append, hcolumns, hrest]
    rw [List.append_nil]
    exact List.append_nil _
  rw [tableColumns, hfields]
  cases columns with
  | nil => exact absurd rfl nonempty
  | cons column columns => rfl

/-! ### What is written to files -/

/-- What is declared where an exposure is written to a file, in a script with these statements. -/
def writes (all : List Statement) : Exposure → List Declaration
  | chain name file => sortDeclarations all .chain name.text file.text
  | table name _ _ file => sortDeclarations all .excel name.text file.text
  | printed _ | excel _ _ => []

theorem sortOutputs_cons_of_none (all : List Statement) {first : Statement}
    (h : sortFile? first = none) (rest : List Statement) :
    sortOutputs all (first :: rest) = sortOutputs all rest := by
  cases rest with
  | nil => rfl
  | cons second rest => simp [sortOutputs, h]

theorem sortOutputs_append_of_none (all : List Statement) {before : List Statement}
    (h : ∀ statement ∈ before, sortFile? statement = none) (rest : List Statement) :
    sortOutputs all (before ++ rest) = sortOutputs all rest := by
  induction before with
  | nil => rfl
  | cons first before ih =>
      rw [List.cons_append, sortOutputs_cons_of_none all (h first List.mem_cons_self),
        ih fun statement hmem => h statement (List.mem_cons_of_mem _ hmem)]

/-- A statement that names a file and the one that writes to it are seen together, and no
statement before or after them joins in. -/
theorem sortOutputs_pair (all : List Statement) (kind : String) {sort : SortKind}
    (hkind : sortKind? kind.toList = some sort) (name : Name) (file : FileName)
    (rest : List Statement) :
    sortOutputs all (fileStatement file :: sortStatement kind name :: rest) =
      sortDeclarations all sort name.text file.text ++ sortOutputs all rest := by
  have hfile : sortFile? (fileStatement file) = some file.text := by
    simp [fileStatement, sortFile?, isFileName_fileName, eqIgnoreCase_refl]
  have htarget : sortTarget? (sortStatement kind name) = some (sort, name.text) := by
    simp [sortStatement, sortTarget?, Name.isWord, eqIgnoreCase_refl, hkind]
  have hnone : sortFile? (sortStatement kind name) = none := rfl
  rw [sortOutputs, hfile, htarget, sortOutputs_cons_of_none all hnone]

theorem sortOutputs_statements (all : List Statement) (e : Exposure) (rest : List Statement) :
    sortOutputs all (e.statements ++ rest) = e.writes all ++ sortOutputs all rest := by
  cases e with
  | printed name => exact sortOutputs_cons_of_none all rfl rest
  | excel name stem => exact sortOutputs_cons_of_none all rfl rest
  | chain name file => exact sortOutputs_pair all "CHAI" rfl name file rest
  | table name columns _ file =>
      have hbefore : ∀ statement ∈ [tableStatement name] ++ columns.map (columnStatement name),
          sortFile? statement = none := by
        intro statement hmem
        rcases List.mem_cons.mp hmem with rfl | hmem
        · rfl
        · obtain ⟨column, -, rfl⟩ := List.mem_map.mp hmem
          rfl
      rw [statements, List.append_assoc, sortOutputs_append_of_none all hbefore]
      exact sortOutputs_pair all "EXCE" rfl name file rest

theorem sortOutputs_flatMap (all : List Statement) (exposures : List Exposure) :
    sortOutputs all (exposures.flatMap statements) = exposures.flatMap (writes all) := by
  induction exposures with
  | nil => rfl
  | cons e exposures ih =>
      rw [List.flatMap_cons, List.flatMap_cons, sortOutputs_statements, ih]

/-! ### What is declared -/

/-- No two tables have the same name, in any case. -/
def TablesApart (exposures : List Exposure) : Prop :=
  (exposures.filterMap table?).Pairwise fun a b => Text.eqIgnoreCase a b = false

/-- The outputs in the order in which they are looked for. -/
def byKind (exposures : List Exposure) : List Output :=
  exposures.flatMap (found .printed) ++ exposures.flatMap (found .sorted) ++
    exposures.flatMap (found .called)

/-- Looking for one kind after the other leaves nothing out and adds nothing. -/
theorem byKind_perm (exposures : List Exposure) :
    (byKind exposures).Perm (exposures.flatMap outputs) := by
  have hsplit : exposures.flatMap outputs = exposures.flatMap fun e =>
      e.found .printed ++ e.found .sorted ++ e.found .called := by
    refine List.flatMap_congr fun e _ => ?_
    cases e <;> simp [found, kind]
  rw [hsplit]
  exact ((List.flatMap_append_perm _ _ _).append_right _).trans (List.flatMap_append_perm _ _ _)

variable {exposures : List Exposure}

/-- A table is the only one of its name. -/
theorem tableColumns_flatMap (htables : TablesApart exposures) {name : Name} {columns : List Name}
    {nonempty : columns ≠ []} {file : FileName} (h : table name columns nonempty file ∈ exposures) :
    tableColumns (exposures.flatMap statements) name.text = columns.map Name.text := by
  obtain ⟨before, after, rfl⟩ := List.append_of_mem h
  have hname : (table name columns nonempty file).table? = some name.text := rfl
  rw [TablesApart, List.filterMap_append, List.filterMap_cons_some hname, List.pairwise_append,
    List.pairwise_cons] at htables
  obtain ⟨-, ⟨hafter, -⟩, hbefore⟩ := htables
  apply tableColumns_eq
  · intro e he other hother
    exact hbefore other (List.mem_filterMap.mpr ⟨e, he, hother⟩) _ List.mem_cons_self
  · intro e he other hother
    rw [eqIgnoreCase_comm]
    exact hafter other (List.mem_filterMap.mpr ⟨e, he, hother⟩)

/-- What is written to files are the outputs of that kind. -/
theorem writes_eq (htables : TablesApart exposures) {e : Exposure} (he : e ∈ exposures) :
    e.writes (exposures.flatMap statements) = (e.found .sorted).map Output.declaration := by
  cases e with
  | printed _ | excel _ _ | chain _ _ => rfl
  | table name columns nonempty file =>
      rw [writes, sortDeclarations, tableColumns_flatMap htables he]
      cases columns with
      | nil => exact absurd rfl nonempty
      | cons column columns => simp [found, kind, outputs, Output.declaration]

/-- **What exposures declare are their outputs**, kind by kind. -/
theorem declarations_flatMap (htables : TablesApart exposures) :
    declarations (exposures.flatMap statements) = (byKind exposures).map Output.declaration := by
  have hprinted : ((exposures.flatMap statements).filterMap printedName?).map
      (Declaration.output · .console) =
        (exposures.flatMap (found .printed)).map Output.declaration := by
    have hnames : ((exposures.flatMap statements).filterMap printedName?).map
        (fun name => (⟨name, .console⟩ : Output)) = exposures.flatMap (found .printed) := by
      rw [List.filterMap_flatMap, List.map_flatMap]
      exact List.flatMap_congr fun e _ => e.filterMap_printedName?
    rw [← hnames, List.map_map]
    rfl
  have hsorted : sortOutputs (exposures.flatMap statements) (exposures.flatMap statements) =
      (exposures.flatMap (found .sorted)).map Output.declaration := by
    rw [sortOutputs_flatMap, List.map_flatMap]
    exact List.flatMap_congr fun e he => writes_eq htables he
  have hcalled : (exposures.flatMap statements).filterMap
      (excelOutput? (exposures.flatMap statements)) =
        (exposures.flatMap (found .called)).map Output.declaration := by
    rw [List.filterMap_flatMap, List.map_flatMap]
    exact List.flatMap_congr fun e _ => e.filterMap_excelOutput? _
  rw [declarations, hprinted, hsorted, hcalled, byKind, List.map_append, List.map_append]

end Exposure

/-! ### Scripts -/

/-- Exposures in which no name is given twice, but for those of variables that are written to a
table. -/
structure Script where
  /-- The exposures, in the order of the script. -/
  exposures : List Exposure
  /-- No two tables have the same name, in any case. -/
  tables : (exposures.filterMap Exposure.table?).Pairwise fun a b => Text.eqIgnoreCase a b = false
  /-- No two outputs have the same name. -/
  names : ((exposures.flatMap Exposure.outputs).map Output.name).Nodup

namespace Script

/-- The lines of the script. -/
def lines (script : Script) : List Text := script.exposures.flatMap Exposure.lines

/-- The outputs of the script. -/
def outputs (script : Script) : List Output := script.exposures.flatMap Exposure.outputs

/-- The statements of the script. -/
def statements (script : Script) : List Statement :=
  script.exposures.flatMap Exposure.statements

/-- The outputs of one kind. -/
def found (script : Script) (kind : Exposure.Kind) : List Output :=
  script.exposures.flatMap (Exposure.found kind)

/-- The outputs in the order in which they are looked for. -/
def byKind (script : Script) : List Output :=
  script.found .printed ++ script.found .sorted ++ script.found .called

theorem byKind_perm (script : Script) : script.byKind.Perm script.outputs :=
  Exposure.byKind_perm script.exposures

/-- The declarations of a script are its outputs, kind by kind. -/
theorem declarations_statements (script : Script) :
    declarations script.statements = script.byKind.map Output.declaration :=
  Exposure.declarations_flatMap script.tables

end Script

/-! ### Discovery -/

/-- Declarations of different names are recorded as they stand. -/
theorem outputsOf_map {outputs : List Output} (h : (outputs.map Output.name).Nodup) :
    outputsOf (outputs.map Output.declaration) = outputs := by
  rw [outputsOf_eq_latest, filterMap_output?_map, latest_of_nodup h]

theorem noticesOf_map (outputs : List Output) :
    noticesOf (outputs.map Output.declaration) = [] := by
  rw [noticesOf, List.filterMap_eq_nil_iff]
  intro declaration hmem
  obtain ⟨output, -, rfl⟩ := List.mem_map.mp hmem
  rfl

/-- **Discovery undoes writing.**  In a text whose lines are those of a script, Gibiane's lexer and
discovery find the outputs of the script and no others, each name once, and nothing to give notice
of. -/
theorem discover_script (script : Script) {text : Text} (htext : text.bareLines = script.lines) :
    ∃ lexer, Gibiane.lexer = .ok lexer ∧
      (discover (lexer.tokenizeDocument text)).Perm script.outputs ∧
      ((discover (lexer.tokenizeDocument text)).map Output.name).Nodup ∧
      notices (lexer.tokenizeDocument text) = [] := by
  obtain ⟨lexer, hlexer, ⟨string, header, hformed⟩, hkeywords⟩ := exists_lexer_formed
  have hstatements : statements (lexer.tokenizeDocument text) = script.statements :=
    statements_of_exposures hformed hkeywords htext
  have hnames : (script.byKind.map Output.name).Nodup :=
    (script.byKind_perm.map Output.name).nodup_iff.mpr script.names
  have hdiscover : discover (lexer.tokenizeDocument text) = script.byKind := by
    rw [discover, hstatements, script.declarations_statements, outputsOf_map hnames]
  refine ⟨lexer, hlexer, ?_, ?_, ?_⟩
  · rw [hdiscover]
    exact script.byKind_perm
  · rwa [hdiscover]
  · rw [notices, hstatements, script.declarations_statements, noticesOf_map]

/-- Names that are words of the language are found like any others. -/
theorem discover_namesLikeWords :
    ∃ (script : Script) (text : Text) (lexer : Lexer),
      script.outputs = [⟨"FINP".toList, .console⟩, ⟨"abs".toList, .file "r.1.csv".toList⟩,
        ⟨"table".toList, .file "r.1.csv".toList⟩, ⟨"DEBP".toList, .file "out".toList⟩,
        ⟨"mess_".toList, .file "7.csv".toList⟩] ∧
      text.bareLines = script.lines ∧ Gibiane.lexer = .ok lexer ∧
      (discover (lexer.tokenizeDocument text)).Perm script.outputs ∧
      ((discover (lexer.tokenizeDocument text)).map Output.name).Nodup ∧
      notices (lexer.tokenizeDocument text) = [] := by
  let name (text : Text) (h : text.isIdentifier = true)
      (h' : ∀ operator ∈ Form.wordOperators, Text.eqIgnoreCase text operator = false) : Name :=
    ⟨text, h, h'⟩
  let script : Script := {
    exposures := [
      .printed (name "FINP".toList (by decide) (by decide)),
      .table (name "REPE".toList (by decide) (by decide))
        [name "abs".toList (by decide) (by decide), name "table".toList (by decide) (by decide)]
        (by simp) (.ofText "r.1.csv".toList (by decide)),
      .chain (name "DEBP".toList (by decide) (by decide)) (.ofText "out".toList (by decide)),
      .excel (name "mess_".toList (by decide) (by decide)) ⟨"7".toList, by decide⟩]
    tables := by decide
    names := by decide }
  have hlines : Text.bareLines (
      "MESS 'FINP=' FINP;\nREPE = TABLE;\nREPE . 'abs' = 0;\nREPE . 'table' = 0;\n".toList ++
      "OPTI SORT 'r.1.csv';\nSORT 'EXCE' REPE;\nOPTI SORT 'out';\nSORT 'CHAI' DEBP;\n".toList ++
      "@EXCEL1 mess_ '7.csv';\n".toList) = script.lines := by
    decide +kernel
  obtain ⟨lexer, hlexer, houtputs⟩ := discover_script script hlines
  exact ⟨script, _, lexer, rfl, hlines, hlexer, houtputs⟩

end LineLexer.Gibiane
