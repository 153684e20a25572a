/-
What outputs are called.

A record of the program is the name of an output, a tab, and more, so it can be taken apart
only if names hold no tabs.  Nearly all of them are checked to be words: the name that is
printed, the variable that is written to a file or handed to a procedure, and the fields of a
table.  The titles of an evolution are not, and a table that is one lends them to its columns.

So the names of a script are words exactly if the titles it writes to files are, and then each
record begins with the name it is for (`discover_names`).  The titles are up to the script:
they can be any two texts without quotes (`discover_evolution`).
-/
import LineLexer.Proofs.Gibiane.Confined
import Mathlib.Data.List.TakeWhile

namespace LineLexer.Gibiane

open Grouping Exposure

variable {all : List Statement} {statement : Statement} {name file title : Text}

/-! ### Names that are checked -/

theorem isWord_of_printedName? (h : printedName? statement = some name) : name.isWord = true := by
  unfold printedName? at h
  split at h
  case h_1 =>
    rw [Option.ite_none_right_eq_some, Bool.and_eq_true, Bool.and_eq_true] at h
    obtain ⟨⟨⟨-, hword⟩, -⟩, hname⟩ := h
    obtain rfl := Option.some.inj hname
    exact hword
  case h_2 => cases h

theorem isWord_of_sortTarget? {kind : SortKind} (h : sortTarget? statement = some (kind, name)) :
    name.isWord = true := by
  unfold sortTarget? at h
  split at h
  case h_1 =>
    rw [Option.ite_none_right_eq_some, Bool.and_eq_true] at h
    obtain ⟨⟨-, hword⟩, hkind⟩ := h
    obtain ⟨_, -, heq⟩ := Option.map_eq_some_iff.mp hkind
    obtain ⟨-, rfl⟩ := Prod.mk.inj heq
    exact hword
  case h_2 => cases h

theorem isWord_of_excelOutput? {source : OutputSource}
    (h : excelOutput? all statement = some (.output name source)) : name.isWord = true := by
  unfold excelOutput? at h
  split at h
  case h_1 command other place =>
    rw [Option.ite_none_left_eq_some] at h
    obtain ⟨hcommand, h⟩ := h
    obtain ⟨-, hword⟩ : command.isWord "@EXCEL1".toList = true ∧ Text.isWord other = true := by
      simpa using hcommand
    -- Whatever the place says, the declaration is of the name that was checked.
    have hsame : other = name := by
      split at h
      case h_1 =>
        rw [Option.ite_none_right_eq_some] at h
        exact (Declaration.output.inj (Option.some.inj h.2)).1
      case h_2 =>
        rw [Option.ite_none_right_eq_some] at h
        obtain ⟨assembled, -, h⟩ := Option.map_eq_some_iff.mp h.2
        cases assembled with
        | ok _ => exact (Declaration.output.inj h).1
        | error _ => cases h
      case h_3 => cases h
    exact hsame ▸ hword
  case h_2 => cases h

theorem isWord_of_mem_fieldColumns (h : title ∈ fieldColumns all name) : title.isWord = true := by
  obtain ⟨statement, -, hfield⟩ := List.mem_filterMap.mp h
  unfold tableField? at hfield
  split at hfield
  case h_1 =>
    rw [Option.ite_none_right_eq_some, Bool.and_eq_true] at hfield
    obtain ⟨⟨-, hword⟩, htitle⟩ := hfield
    obtain rfl := Option.some.inj htitle
    exact hword
  case h_2 => cases hfield

/-! ### Titles -/

/-- The statement assigns an evolution with these two titles to a variable. -/
def AssignsEvolution (name : Text) (titles : List Text) (statement : Statement) : Prop :=
  ∃ first second rest, assigned? name statement = some (first :: second :: rest) ∧
    first.isWord "EVOL".toList = true ∧ second.isWord "MANU".toList = true ∧
    rest.filterMap Item.literal? = titles ∧ titles.length = 2

/-- An evolution that is written to a file as columns has this title, and no fields that would take
the place of its titles. -/
def Titled (all : List Statement) (title : Text) : Prop :=
  ∃ name file titles, Writes all .excel name file ∧ fieldColumns all name = [] ∧
    tableColumns all name = titles ∧ (∃ statement ∈ all, AssignsEvolution name titles statement) ∧
    title ∈ titles

/-- An expression lends a table two titles, or the table's own name. -/
theorem assignsEvolution_or_eq {columns : List Text}
    (h : (assigned? name statement).bind (expressionColumns? name) = some columns) :
    AssignsEvolution name columns statement ∨ columns = [name] := by
  obtain ⟨value, hassigned, hcolumns⟩ := Option.bind_eq_some_iff.mp h
  unfold expressionColumns? at hcolumns
  split at hcolumns
  case h_1 first rest =>
    dsimp only at hcolumns
    split at hcolumns
    case h_1 titles htitles =>
      obtain rfl := Option.some.inj hcolumns
      split at htitles
      case h_1 second rest =>
        rw [Option.ite_none_right_eq_some, Bool.and_eq_true, Bool.and_eq_true,
          beq_iff_eq] at htitles
        obtain ⟨⟨⟨hfirst, hsecond⟩, hlength⟩, htitles⟩ := htitles
        obtain rfl := Option.some.inj htitles
        exact Or.inl ⟨first, second, rest, hassigned, hfirst, hsecond, rfl, hlength⟩
      case h_2 => cases htitles
    case h_2 =>
      rw [Option.ite_none_right_eq_some] at hcolumns
      exact Or.inr (Option.some.inj hcolumns.2).symm
  case h_2 => cases hcolumns

/-- A column has a field for its name, the name of its table, or a title. -/
theorem isWord_or_titled_of_mem_tableColumns (hwrites : Writes all .excel name file)
    (h : title ∈ tableColumns all name) : title.isWord = true ∨ Titled all title := by
  unfold tableColumns at h
  split at h
  case h_1 hfields =>
    cases hfind : all.findSome? fun statement =>
        (assigned? name statement).bind (expressionColumns? name) with
    | none =>
        rw [hfind] at h
        exact absurd h List.not_mem_nil
    | some columns =>
        rw [hfind, Option.getD_some] at h
        obtain ⟨statement, hmem, hstatement⟩ := List.exists_of_findSome?_eq_some hfind
        rcases assignsEvolution_or_eq hstatement with hevolution | rfl
        · have hcolumns : tableColumns all name = columns := by
            rw [tableColumns, hfields, hfind]
            rfl
          exact Or.inr ⟨name, file, columns, hwrites, hfields, hcolumns,
            ⟨statement, hmem, hevolution⟩, h⟩
        · obtain rfl := List.mem_singleton.mp h
          obtain ⟨_, _, _, _, -, -, htarget⟩ := hwrites
          exact Or.inl (isWord_of_sortTarget? htarget)
  case h_2 => exact Or.inl (isWord_of_mem_fieldColumns h)

/-! ### All names -/

/-- What is declared is called by a word or by a title. -/
theorem isWord_or_titled_of_declared {source : OutputSource}
    (h : .output name source ∈ declarations all) : name.isWord = true ∨ Titled all name := by
  rw [declarations, List.mem_append, List.mem_append] at h
  rcases h with (h | h) | h
  · obtain ⟨printed, hmem, heq⟩ := List.mem_map.mp h
    obtain ⟨_, -, hprinted⟩ := List.mem_filterMap.mp hmem
    obtain ⟨rfl, -⟩ := Declaration.output.inj heq
    exact Or.inl (isWord_of_printedName? hprinted)
  · obtain ⟨kind, target, file, hwrites, hdeclared⟩ := mem_sortOutputs_iff.mp h
    cases kind with
    | chain =>
        obtain ⟨_, _, _, _, -, -, htarget⟩ := hwrites
        obtain ⟨rfl, -⟩ := Declaration.output.inj (List.mem_singleton.mp hdeclared)
        exact Or.inl (isWord_of_sortTarget? htarget)
    | excel =>
        rw [sortDeclarations] at hdeclared
        cases hcolumns : tableColumns all target with
        | nil => simp [hcolumns] at hdeclared
        | cons column columns =>
            rw [hcolumns] at hdeclared
            obtain ⟨title, hmem, heq⟩ := List.mem_map.mp hdeclared
            obtain ⟨rfl, -⟩ := Declaration.output.inj heq
            exact isWord_or_titled_of_mem_tableColumns hwrites (hcolumns ▸ hmem)
  · obtain ⟨_, -, hcalled⟩ := List.mem_filterMap.mp h
    exact Or.inl (isWord_of_excelOutput? hcalled)

/-- A title that is written to a file is declared. -/
theorem declared_of_titled (h : Titled all title) :
    ∃ source, .output title source ∈ declarations all := by
  obtain ⟨name, file, titles, hwrites, -, hcolumns, -, htitle⟩ := h
  refine ⟨.file file, ?_⟩
  rw [declarations, List.mem_append, List.mem_append]
  refine Or.inl (Or.inr (mem_sortOutputs_iff.mpr ⟨.excel, name, file, hwrites, ?_⟩))
  rw [sortDeclarations, hcolumns]
  cases titles with
  | nil => exact absurd htitle List.not_mem_nil
  | cons column columns => exact List.mem_map_of_mem htitle

/-- The names of outputs are those that are declared. -/
theorem mem_names_iff {n : Nat} {document : Document n} :
    name ∈ (discover document).map Output.name ↔
      ∃ source, .output name source ∈ declarations (statements document) := by
  rw [discover, outputsOf_eq_latest, map_name_latest, List.mem_eraseDups, List.mem_map]
  constructor
  · rintro ⟨output, hmem, rfl⟩
    exact ⟨output.source, declaration_mem_of_mem_filterMap hmem⟩
  · rintro ⟨source, hmem⟩
    exact ⟨⟨name, source⟩, List.mem_filterMap.mpr ⟨_, hmem, rfl⟩, rfl⟩

/-! ### Records -/

/-- What a line says before its first tab. -/
def recordName (line : Text) : Text := line.takeWhile (· ≠ '\t')

theorem recordName_fields (hname : name.isWord = true) (value : Text) :
    recordName (Program.fields [name, value]) = name := by
  have htab : ∀ c ∈ name, (decide (c ≠ '\t')) = true := by
    intro c hc
    rw [decide_eq_true_eq]
    rintro rfl
    exact Text.not_mem_of_isWord hname (by decide) hc
  have hrecord : Program.fields [name, value] = name ++ '\t' :: value := by
    simp [Program.fields, List.intercalate]
  rw [recordName, hrecord]
  exact takeWhile_run htab (by rintro _ ⟨⟩; decide)

/-- The values of a run are those of some outputs, in their order. -/
theorem readResults_sublist (run : Text → Entry) (outputs : List Output) :
    ((readResults run outputs).map Prod.fst).Sublist (outputs.map Output.name) := by
  induction outputs with
  | nil => exact .slnil
  | cons output outputs ih =>
      cases hvalue : outputValue? run output with
      | none =>
          rw [readResults, List.filterMap_cons_none (by rw [hvalue]; rfl)]
          exact ih.cons _
      | some value =>
          rw [readResults, List.filterMap_cons_some (by rw [hvalue]; rfl)]
          exact ih.cons_cons _

/-- **What outputs are called.**  No two outputs have the same name.  A name is a word or a title,
so all names are words exactly if all titles are that are written to files; and then the lines of
the program begin with the names, one by one. -/
theorem discover_names {n : Nat} (document : Document n) :
    ((discover document).map Output.name).Nodup ∧
      (∀ output ∈ discover document,
        output.name.isWord = true ∨ Titled (statements document) output.name) ∧
      ((∀ output ∈ discover document, output.name.isWord = true) ↔
        ∀ title, Titled (statements document) title → title.isWord = true) ∧
      ((∀ title, Titled (statements document) title → title.isWord = true) →
        ∀ (host : Host Id) (options : Options),
          (options.results = none → options.outputs = true →
            (Program.documentLines host options document).run.map recordName =
              (discover document).map Output.name) ∧
          (options.results ≠ none →
            ((Program.documentLines host options document).run.map recordName).Sublist
              ((discover document).map Output.name))) := by
  have hcalled : ∀ output ∈ discover document,
      output.name.isWord = true ∨ Titled (statements document) output.name := by
    intro output houtput
    obtain ⟨source, hdeclared⟩ := mem_names_iff.mp (List.mem_map_of_mem houtput)
    exact isWord_or_titled_of_declared hdeclared
  have hwords : (∀ title, Titled (statements document) title → title.isWord = true) →
      ∀ output ∈ discover document, output.name.isWord = true :=
    fun htitles output houtput => (hcalled output houtput).elim id (htitles _)
  have hnodup : ((discover document).map Output.name).Nodup := by
    rw [discover, outputsOf_eq_latest]
    exact nodup_latest _
  refine ⟨hnodup, hcalled, ⟨fun hnames title htitle => ?_, hwords⟩,
    fun htitles host options => ⟨?_, ?_⟩⟩
  · obtain ⟨output, houtput, rfl⟩ := List.mem_map.mp (mem_names_iff.mpr (declared_of_titled htitle))
    exact hnames output houtput
  · intro hresults houtputs
    rw [Program.documentLines, hresults, houtputs]
    show ((discover document).map fun output =>
      Program.fields [output.name, output.source.fileName]).map recordName = _
    rw [List.map_map]
    exact List.map_congr_left fun output houtput =>
      recordName_fields (hwords htitles output houtput) _
  · intro hresults
    obtain ⟨directory, hdirectory⟩ := Option.ne_none_iff_exists'.mp hresults
    rw [Program.documentLines, hdirectory]
    generalize hrun : (Program.runEntries host directory (discover document)).run = run
    have hsublist := readResults_sublist run (discover document)
    have hlines : (readResults run (discover document)).map
        (recordName ∘ fun result => Program.fields [result.1, result.2.render]) =
          (readResults run (discover document)).map Prod.fst := by
      refine List.map_congr_left fun result hmem => ?_
      obtain ⟨output, houtput, hname⟩ :=
        List.mem_map.mp (hsublist.subset (List.mem_map_of_mem hmem))
      have hword := hwords htitles output houtput
      rw [hname] at hword
      exact recordName_fields hword _
    rw [← hlines, ← List.map_map, ← hrun] at hsublist
    exact hsublist

/-! ### Evolutions -/

/-- The line that assigns an evolution with two titles. -/
def evolutionLine (name abscissa ordinate : Name) (x y : Text) : Text :=
  name.text ++ " = EVOL MANU '".toList ++ x ++ "' ".toList ++ abscissa.text ++ " '".toList ++ y ++
    "' ".toList ++ ordinate.text ++ ";".toList

/-- The statement of that line. -/
def evolutionStatement (name abscissa ordinate : Name) (x y : Text) : Statement :=
  [.word name.text, .symbol ['='], .word "EVOL".toList, .word "MANU".toList, .literal x,
    .word abscissa.text, .literal y, .word ordinate.text]

/-- The statements that write an evolution to a file as columns. -/
def evolutionStatements (name abscissa ordinate : Name) (x y : Text) (file : FileName) :
    List Statement :=
  [evolutionStatement name abscissa ordinate x y, fileStatement file, sortStatement "EXCE" name]

/-- The columns are called by the titles. -/
theorem tableColumns_evolution (name abscissa ordinate : Name) (x y : Text) (file : FileName) :
    fieldColumns (evolutionStatements name abscissa ordinate x y file) name.text = [] ∧
      tableColumns (evolutionStatements name abscissa ordinate x y file) name.text = [x, y] := by
  have hfields :
      fieldColumns (evolutionStatements name abscissa ordinate x y file) name.text = [] := by
    have hdeclares : ∀ statement ∈ evolutionStatements name abscissa ordinate x y file,
        declaresTable name.text statement = false := by
      simp [evolutionStatements, evolutionStatement, fileStatement, sortStatement, declaresTable,
        Item.isSymbol]
    have hnone : (evolutionStatements name abscissa ordinate x y file).dropWhile
        (!declaresTable name.text ·) = [] := by
      rw [List.dropWhile_eq_nil_iff]
      intro statement hmem
      rw [hdeclares statement hmem]
      rfl
    rw [fieldColumns, hnone]
    rfl
  have hassigned : assigned? name.text (evolutionStatement name abscissa ordinate x y) =
      some [.word "EVOL".toList, .word "MANU".toList, .literal x, .word abscissa.text, .literal y,
        .word ordinate.text] := by
    simp [evolutionStatement, assigned?, Item.isSymbol, eqIgnoreCase_refl]
  refine ⟨hfields, ?_⟩
  rw [tableColumns, hfields, evolutionStatements, List.findSome?_cons, hassigned]
  rfl

theorem declarations_evolution (name abscissa ordinate : Name) (x y : Text) (file : FileName) :
    declarations (evolutionStatements name abscissa ordinate x y file) =
      [.output x (.file file.text), .output y (.file file.text)] := by
  obtain ⟨-, hcolumns⟩ := tableColumns_evolution name abscissa ordinate x y file
  have hprinted :
      (evolutionStatements name abscissa ordinate x y file).filterMap printedName? = [] := rfl
  have hcalled : ∀ all,
      (evolutionStatements name abscissa ordinate x y file).filterMap (excelOutput? all) = [] :=
    fun _ => rfl
  have hsorted : ∀ all, tableColumns all name.text = [x, y] →
      sortOutputs all (evolutionStatements name abscissa ordinate x y file) =
        [.output x (.file file.text), .output y (.file file.text)] := by
    intro all hcolumns
    rw [evolutionStatements, sortOutputs_cons_of_none _ rfl, sortOutputs_pair _ "EXCE" rfl,
      sortDeclarations, hcolumns]
    rfl
  rw [declarations, hprinted, hcalled, hsorted _ hcolumns]
  rfl

section Lines

variable {lexer : Lexer} {string header : lexer.rules.StateId}
  (hformed : Formed lexer.rules string header)
  (hkeywords : KeywordTable.ofWords keywordLists = .ok lexer.keywords)

include hformed hkeywords

theorem yields_evolution {name abscissa ordinate : Name} {x y : Text} (hx : '\'' ∉ x)
    (hy : '\'' ∉ y) :
    Yields lexer (evolutionLine name abscissa ordinate x y)
      [evolutionStatement name abscissa ordinate x y] := by
  intro done
  have hline : evolutionLine name abscissa ordinate x y =
      name.text ++ ' ' :: '=' :: ' ' :: ("EVOL".toList ++ ' ' :: 'M' :: ("ANU".toList ++ ' ' ::
        '\'' :: (x ++ '\'' :: ' ' :: (abscissa.text ++ ' ' :: '\'' :: (y ++ '\'' :: ' ' ::
          (ordinate.text ++ [';'])))))) := by
    simp [evolutionLine]
  have hmanu : ∀ tail : Text, 'M' :: ("ANU".toList ++ tail) = "MANU".toList ++ tail := by simp
  rw [hline, scan_assigned hformed name.isName, scan_blank hformed (by simp),
    scan_word_blank hformed hkeywords ⟨by decide, by decide⟩
      (isWordChar_of_getLast?_append (by decide)) (headers_of_initial (by rintro _ ⟨⟩; decide))
      (by decide) (by decide),
    hmanu,
    scan_name_blank hformed hkeywords ⟨by decide, by decide⟩
      (isWordChar_of_getLast?_append (by decide)) (by decide) (by decide) (by decide),
    scan_literal hformed x hx (by simp), scan_blank hformed (by simp),
    scan_name_blank hformed hkeywords abscissa.isName
      (isWordChar_of_getLast?_append (by decide)) (by decide) (by decide) (by decide),
    scan_literal hformed y hy (by simp), scan_blank hformed (by simp),
    scan_name_stop hformed hkeywords ordinate.isName (isWordChar_of_getLast?_append (by decide))
      (by decide) (by decide) (by decide),
    scan_semicolon hformed, scan_nil, marked_blank, marked_blank, marked_blank, marked_blank]
  simp [endStatement, evolutionStatement]

/-- **An output can be called by any text without quotes**: the title of an evolution. -/
theorem discover_evolution {text : Text} {name abscissa ordinate : Name} {x y : Text}
    {file : FileName} (hx : '\'' ∉ x) (hy : '\'' ∉ y) (hne : x ≠ y)
    (htext : text.bareLines =
      [evolutionLine name abscissa ordinate x y, fileLine file, sortLine "EXCE" name]) :
    discover (lexer.tokenizeDocument text) = [⟨x, .file file.text⟩, ⟨y, .file file.text⟩] := by
  have hyields : List.Forall₂ (Yields lexer) text.bareLines
      [[evolutionStatement name abscissa ordinate x y], [fileStatement file],
        [sortStatement "EXCE" name]] := by
    rw [htext]
    exact .cons (yields_evolution hformed hkeywords hx hy)
      (.cons (yields_file hformed hkeywords file.quote_not_mem)
        (.cons (yields_sort hformed hkeywords "EXCE" (by decide) name) .nil))
  have hstatements : statements (lexer.tokenizeDocument text) =
      evolutionStatements name abscissa ordinate x y file := statements_of_lines hyields
  have hnodup : ([x, y] : List Text).Nodup := by simp [hne]
  rw [discover, hstatements, declarations_evolution, outputsOf_eq_latest]
  exact latest_of_nodup hnodup

end Lines

/-- The titles of an evolution that a script writes to a file are its outputs. -/
theorem exists_lexer_titles {text x y : Text} (hx : '\'' ∉ x) (hy : '\'' ∉ y) (hne : x ≠ y)
    (htext : text.bareLines = ["ev = EVOL MANU '".toList ++ x ++ "' lt '".toList ++ y ++
      "' lf;".toList, "OPTI SORT 'evol.csv';".toList, "SORT 'EXCE' ev;".toList]) :
    ∃ lexer, Gibiane.lexer = .ok lexer ∧ discover (lexer.tokenizeDocument text) =
      [⟨x, .file "evol.csv".toList⟩, ⟨y, .file "evol.csv".toList⟩] := by
  let name : Name := ⟨"ev".toList, by decide, by decide⟩
  let abscissa : Name := ⟨"lt".toList, by decide, by decide⟩
  let ordinate : Name := ⟨"lf".toList, by decide, by decide⟩
  let file : FileName := .ofText "evol.csv".toList (by decide)
  obtain ⟨lexer, hlexer, ⟨string, header, hformed⟩, hkeywords⟩ := exists_lexer_formed
  have hevolution : evolutionLine name abscissa ordinate x y =
      "ev = EVOL MANU '".toList ++ x ++ "' lt '".toList ++ y ++ "' lf;".toList := by
    simp [evolutionLine, name, abscissa, ordinate]
  have hlines : text.bareLines =
      [evolutionLine name abscissa ordinate x y, fileLine file, sortLine "EXCE" name] := by
    rw [htext, hevolution]
    rfl
  exact ⟨lexer, hlexer, discover_evolution hformed hkeywords hx hy hne hlines⟩

/-- The options that ask for the outputs of the standard input. -/
def outputOptions : Options := ⟨Options.standardInput, false, [], none, false, true, none, .auto⟩

/-- The records of an evolution begin with its titles, if these are words. -/
theorem records_evolution :
    ∃ (text : Text) (lexer : Lexer),
      text = ("ev = EVOL MANU 'TEMPS' lt 'FORCE' lf;\n" ++ "OPTI SORT 'evol.csv';\n" ++
        "SORT 'EXCE' ev;\n").toList ∧ Gibiane.lexer = .ok lexer ∧
      (∀ title, Titled (statements (lexer.tokenizeDocument text)) title → title.isWord = true) ∧
      ∀ host : Host Id,
        (Program.documentLines host outputOptions
            (lexer.tokenizeDocument text)).run.map recordName =
          ["TEMPS".toList, "FORCE".toList] := by
  have hlines : Text.bareLines ("ev = EVOL MANU 'TEMPS' lt 'FORCE' lf;\n" ++
      "OPTI SORT 'evol.csv';\n" ++ "SORT 'EXCE' ev;\n").toList =
      ["ev = EVOL MANU '".toList ++ "TEMPS".toList ++ "' lt '".toList ++ "FORCE".toList ++
        "' lf;".toList, "OPTI SORT 'evol.csv';".toList, "SORT 'EXCE' ev;".toList] := by decide
  obtain ⟨lexer, hlexer, hdiscover⟩ :=
    exists_lexer_titles (by decide) (by decide) (by decide) hlines
  refine ⟨_, lexer, rfl, hlexer, ?_⟩
  obtain ⟨-, -, hiff, hrecords⟩ := discover_names (lexer.tokenizeDocument
    ("ev = EVOL MANU 'TEMPS' lt 'FORCE' lf;\n" ++ "OPTI SORT 'evol.csv';\n" ++
      "SORT 'EXCE' ev;\n").toList)
  have htitles := hiff.mp (by rw [hdiscover]; decide)
  refine ⟨htitles, fun host => ?_⟩
  rw [(hrecords htitles host outputOptions).1 rfl rfl, hdiscover]
  rfl

/-- A title with a tab in it is the name of an output, and its record does not begin with it. -/
theorem discover_tabbedTitle :
    ∃ (text : Text) (lexer : Lexer),
      text = ("ev = EVOL MANU 'TEMPS\t(s)' lt 'FORCE' lf;\n" ++ "OPTI SORT 'evol.csv';\n" ++
        "SORT 'EXCE' ev;\n").toList ∧ Gibiane.lexer = .ok lexer ∧
      discover (lexer.tokenizeDocument text) = [⟨"TEMPS\t(s)".toList, .file "evol.csv".toList⟩,
        ⟨"FORCE".toList, .file "evol.csv".toList⟩] ∧
      Text.isWord "TEMPS\t(s)".toList = false ∧
      ∀ host : Host Id,
        (Program.documentLines host outputOptions (lexer.tokenizeDocument text)).run =
          ["TEMPS\t(s)\tevol.csv".toList, "FORCE\tevol.csv".toList] ∧
        (Program.documentLines host outputOptions
            (lexer.tokenizeDocument text)).run.map recordName =
          ["TEMPS".toList, "FORCE".toList] := by
  have hlines : Text.bareLines ("ev = EVOL MANU 'TEMPS\t(s)' lt 'FORCE' lf;\n" ++
      "OPTI SORT 'evol.csv';\n" ++ "SORT 'EXCE' ev;\n").toList =
      ["ev = EVOL MANU '".toList ++ "TEMPS\t(s)".toList ++ "' lt '".toList ++ "FORCE".toList ++
        "' lf;".toList, "OPTI SORT 'evol.csv';".toList, "SORT 'EXCE' ev;".toList] := by decide
  obtain ⟨lexer, hlexer, hdiscover⟩ :=
    exists_lexer_titles (by decide) (by decide) (by decide) hlines
  refine ⟨_, lexer, rfl, hlexer, ?_⟩
  have hrecords : ∀ host : Host Id, (Program.documentLines host outputOptions
      (lexer.tokenizeDocument ("ev = EVOL MANU 'TEMPS\t(s)' lt 'FORCE' lf;\n" ++
        "OPTI SORT 'evol.csv';\n" ++ "SORT 'EXCE' ev;\n").toList)).run =
      ["TEMPS\t(s)\tevol.csv".toList, "FORCE\tevol.csv".toList] := by
    intro host
    show (discover _).map _ = _
    rw [hdiscover]
    decide
  refine ⟨hdiscover, by decide, fun host => ⟨hrecords host, ?_⟩⟩
  rw [hrecords host]
  decide

end LineLexer.Gibiane
