/-
Scripts that expose results.

A script hands its results back by printing them, by writing them to files as text or as
the columns of a table, or through a procedure.  An `Exposure` is one such way with the
names it gives, and its lines are what a script says for it, one statement a line.

What such a line says does not depend on the names in it, although some of them are words
that other rules would like to have: each line is grouped into its one statement and leaves
the lexer in the start state (`forall₂_yields`).  So the statements of a script are those of
its exposures, one after the other (`statements_of_lines`).
-/
import LineLexer.Gibiane.Discovery
import LineLexer.Proofs.Document.Restart
import LineLexer.Proofs.Gibiane.Scan
import Mathlib.Data.List.Forall2

namespace LineLexer.Gibiane

open Grouping

/-! ### Exposures -/

/-- The name of a variable, a table or a column. -/
structure Name where
  /-- The name. -/
  text : Text
  /-- It begins with a letter or an underscore, and is no operator. -/
  isName : IsName text

/-- The name of a file. -/
structure FileName where
  /-- The name. -/
  text : Text
  /-- It is not empty. -/
  nonempty : text ≠ []
  /-- It is made of words and dots. -/
  chars : ∀ c ∈ text, isWordChar c = true ∨ c = '.'

/-- The name of a file without its extension. -/
structure Stem where
  /-- The name. -/
  text : Text
  /-- It is a word. -/
  isWord : text.isWord = true

/-- A way in which a script hands results back. -/
inductive Exposure where
  /-- A variable is printed. -/
  | printed (name : Name)
  /-- A variable is written to a file as text. -/
  | chain (name : Name) (file : FileName)
  /-- A table with at least one column is written to a file. -/
  | table (name : Name) (columns : List Name) (nonempty : columns ≠ []) (file : FileName)
  /-- A variable is written to a file by a procedure. -/
  | excel (name : Name) (stem : Stem)

namespace Exposure

/-- The line that names the file of what is written next. -/
def fileLine (file : FileName) : Text := "OPTI SORT '".toList ++ file.text ++ "';".toList

/-- The line that writes a variable. -/
def sortLine (kind : String) (name : Name) : Text :=
  "SORT '".toList ++ kind.toList ++ "' ".toList ++ name.text ++ ";".toList

/-- What a script says to hand the results back, line by line. -/
def lines : Exposure → List Text
  | printed name => ["MESS '".toList ++ name.text ++ "=' ".toList ++ name.text ++ ";".toList]
  | chain name file => [fileLine file, sortLine "CHAI" name]
  | table name columns _ file =>
    [name.text ++ " = TABLE;".toList] ++
      columns.map (fun column => name.text ++ " . '".toList ++ column.text ++ "' = 0;".toList) ++
      [fileLine file, sortLine "EXCE" name]
  | excel name stem =>
    ["@EXCEL1 ".toList ++ name.text ++ " '".toList ++ stem.text ++ ".csv';".toList]

/-- The statement that names a file. -/
def fileStatement (file : FileName) : Statement :=
  [.word "OPTI".toList, .word "SORT".toList, .literal file.text]

/-- The statement that writes a variable. -/
def sortStatement (kind : String) (name : Name) : Statement :=
  [.word "SORT".toList, .literal kind.toList, .word name.text]

/-- The statement that declares a table. -/
def tableStatement (name : Name) : Statement :=
  [.word name.text, .symbol ['='], .word "TABLE".toList]

/-- The statement that assigns a column of a table. -/
def columnStatement (name column : Name) : Statement :=
  [.word name.text, .symbol ['.'], .literal column.text, .symbol ['='], .word ['0']]

/-- The statements of those lines. -/
def statements : Exposure → List Statement
  | printed name => [[.word "MESS".toList, .literal (name.text ++ ['=']), .word name.text]]
  | chain name file => [fileStatement file, sortStatement "CHAI" name]
  | table name columns _ file =>
    [tableStatement name] ++ columns.map (columnStatement name) ++
      [fileStatement file, sortStatement "EXCE" name]
  | excel name stem =>
    [[.word "@EXCEL1".toList, .word name.text, .literal (stem.text ++ ".csv".toList)]]

/-- The results handed back. -/
def outputs : Exposure → List Output
  | printed name => [⟨name.text, .console⟩]
  | chain name file => [⟨name.text, .file file.text⟩]
  | table _ columns _ file => columns.map fun column => ⟨column.text, .file file.text⟩
  | excel name stem => [⟨name.text, .file (stem.text ++ ".csv".toList)⟩]

/-- The name of the table that is written, if it is one. -/
def table? : Exposure → Option Text
  | table name _ _ _ => some name.text
  | _ => none

end Exposure

/-! ### Lines and their statements -/

/-- The line says these statements: grouping adds them, and the lexer is in the start state before
and after. -/
def Yields (lexer : Lexer) (line : Text) (statements : List Statement) : Prop :=
  ∀ done, scan lexer lexer.start [] line ⟨done, [], none⟩ =
    (⟨done ++ statements, [], none⟩, lexer.start)

variable {lexer : Lexer} {string header : lexer.rules.StateId} {passed w : Text}

theorem marked_nil (w : Text) : marked [] w = w := rfl

theorem marked_concat {d : Char} (hd : d ≠ '@') (passed w : Text) :
    marked (passed ++ [d]) w = w := by
  simp [marked, hd]

theorem marked_blank (passed w : Text) : marked (passed ++ [' ']) w = w :=
  marked_concat (by decide) passed w

theorem isWordChar_of_getLast?_append {passed : Text} {d : Char} (hd : isWordChar d = false) :
    ∀ c ∈ (passed ++ [d]).getLast?, isWordChar c = false := by
  intro c hc
  obtain rfl : d = c := by simpa using hc
  exact hd

theorem Name.isWord (name : Name) : name.text.isWord = true :=
  Text.isWord_of_isIdentifier name.isName.identifier

theorem Name.quote_not_mem (name : Name) : '\'' ∉ name.text :=
  Text.not_mem_of_isWord name.isWord (by decide)

theorem FileName.quote_not_mem (file : FileName) : '\'' ∉ file.text := by
  intro hmem
  rcases file.chars _ hmem with h | h
  · exact absurd h (by decide)
  · exact absurd h (by decide)

theorem Stem.quote_not_mem (stem : Stem) : '\'' ∉ stem.text :=
  Text.not_mem_of_isWord stem.isWord (by decide)

section Lines

variable (hformed : Formed lexer.rules string header)

include hformed

theorem yields_column {name column : Text} (hname : IsName name) (hcolumn : '\'' ∉ column) :
    Yields lexer (name ++ " . '".toList ++ column ++ "' = 0;".toList)
      [[.word name, .symbol ['.'], .literal column, .symbol ['='], .word ['0']]] := by
  intro done
  have hline : name ++ " . '".toList ++ column ++ "' = 0;".toList =
      name ++ ([' '] ++ '.' :: ' ' :: '\'' ::
        (column ++ '\'' :: ' ' :: '=' :: ' ' :: (['0'] ++ [';']))) := by simp
  rw [hline, scan_dotted hformed hname spaces_blank (by decide),
    scan_blank hformed (by simp),
    scan_literal hformed column hcolumn (by simp), scan_blank hformed (by simp),
    scan_sign hformed (by decide), scan_blank hformed (by simp),
    scan_number hformed ⟨by decide, List.forall_mem_singleton.mpr rfl, by rintro _ ⟨⟩; decide⟩
      (List.forall_mem_singleton.mpr rfl) (by decide)
      (by rw [List.getLast?_concat]; decide),
    scan_semicolon hformed, scan_nil]
  simp [endStatement]

variable (hkeywords : KeywordTable.ofWords keywordLists = .ok lexer.keywords)

include hkeywords

/-- A command with a text and a name, in the middle of a statement or not. -/
theorem scan_command {command text name : Text} {done : List Statement} {current : Statement}
    (hcommand : IsName command) (hinitial : ∀ c ∈ command.head?, headerInitials.contains c = false)
    (htext : '\'' ∉ text) (hname : IsName name) :
    scan lexer lexer.start [] (command ++ ' ' :: '\'' :: (text ++ '\'' :: ' ' :: (name ++ [';'])))
        ⟨done, current, none⟩ =
      (⟨done ++ [current ++ [.word command, .literal text, .word name]], [], none⟩,
        lexer.start) := by
  have hhead : ∀ tail, ∀ c ∈ (command ++ tail).head?, headerInitials.contains c = false := by
    intro tail
    obtain ⟨c, more, rfl, -, -⟩ := exists_of_isIdentifier hcommand.identifier
    exact hinitial
  rw [scan_word_blank hformed hkeywords hcommand (by simp) (headers_of_initial (hhead _))
      (by decide) (by decide),
    scan_literal hformed text htext (by simp),
    scan_blank hformed (by simp),
    scan_name_stop hformed hkeywords hname (isWordChar_of_getLast?_append (by decide)) (by decide)
      (by decide) (by decide),
    scan_semicolon hformed, scan_nil, marked_nil, marked_blank]
  simp [endStatement]

/-- A command with a text and a name. -/
theorem yields_command {command text name : Text} (hcommand : IsName command)
    (hinitial : ∀ c ∈ command.head?, headerInitials.contains c = false) (htext : '\'' ∉ text)
    (hname : IsName name) :
    Yields lexer (command ++ ' ' :: '\'' :: (text ++ '\'' :: ' ' :: (name ++ [';'])))
      [[.word command, .literal text, .word name]] :=
  fun _ => scan_command hformed hkeywords hcommand hinitial htext hname

theorem yields_sort (kind : String) (hkind : '\'' ∉ kind.toList) (name : Name) :
    Yields lexer ("SORT '".toList ++ kind.toList ++ "' ".toList ++ name.text ++ ";".toList)
      [Exposure.sortStatement kind name] := by
  have hline : "SORT '".toList ++ kind.toList ++ "' ".toList ++ name.text ++ ";".toList =
      "SORT".toList ++ ' ' :: '\'' :: (kind.toList ++ '\'' :: ' ' :: (name.text ++ [';'])) := by
    simp
  rw [hline]
  exact yields_command hformed hkeywords ⟨by decide, by decide⟩ (by rintro _ ⟨⟩; decide) hkind
    name.isName

theorem yields_file {file : Text} (hfile : '\'' ∉ file) :
    Yields lexer ("OPTI SORT '".toList ++ file ++ "';".toList)
      [[.word "OPTI".toList, .word "SORT".toList, .literal file]] := by
  intro done
  have hline : "OPTI SORT '".toList ++ file ++ "';".toList =
      "OPTI".toList ++ ' ' :: 'S' :: ("ORT".toList ++ ' ' :: '\'' :: (file ++ '\'' :: [';'])) := by
    simp
  have hsort : ∀ tail : Text, 'S' :: ("ORT".toList ++ tail) = "SORT".toList ++ tail := by simp
  rw [hline, scan_word_blank hformed hkeywords ⟨by decide, by decide⟩ (by simp)
      (headers_of_initial (by rintro _ ⟨⟩; decide)) (by decide) (by decide),
    hsort,
    scan_name_blank hformed hkeywords ⟨by decide, by decide⟩
      (isWordChar_of_getLast?_append (by decide)) (by decide) (by decide) (by decide),
    scan_literal hformed file hfile (by simp), scan_semicolon hformed, scan_nil, marked_nil,
    marked_blank]
  simp [endStatement]

theorem yields_table {name : Text} (hname : IsName name) :
    Yields lexer (name ++ " = TABLE;".toList)
      [[.word name, .symbol ['='], .word "TABLE".toList]] := by
  intro done
  have hline : name ++ " = TABLE;".toList =
      name ++ ' ' :: '=' :: ' ' :: ("TABLE".toList ++ [';']) := by simp
  rw [hline, scan_assigned hformed hname, scan_blank hformed (by simp),
    scan_name_stop hformed hkeywords ⟨by decide, by decide⟩
      (isWordChar_of_getLast?_append (by decide)) (by decide) (by decide) (by decide),
    scan_semicolon hformed, scan_nil, marked_blank]
  simp [endStatement]

/-- A call of the procedure for a name, up to what comes after the name. -/
theorem scan_call {name rest : Text} {d : Char} {done : List Statement} (hname : IsName name)
    (hd : CharSet.asciiSpace.contains d = false) (hnext : Form.nameStart.contains d = false)
    (hsign : d ∉ [';', '=', '.']) :
    scan lexer lexer.start [] ('@' :: ("EXCEL1".toList ++ ' ' :: (name ++ ' ' :: d :: rest)))
        ⟨done, [], none⟩ =
      scan lexer lexer.start ("@EXCEL1 ".toList ++ name ++ [' ']) (d :: rest)
        ⟨done, [.word "@EXCEL1".toList, .word name], none⟩ := by
  obtain ⟨c, more, hcons, hc, -⟩ := exists_of_isIdentifier hname.identifier
  have hblank : CharSet.asciiSpace.contains c = false := by
    have hapart : Form.nameStart.Apart .asciiSpace := by decide
    exact hapart.contains hc
  have hplain : c ∉ ['=', '.'] := by
    have hapart : Form.nameStart.Apart (Form.oneOf ['=', '.']) := by decide
    rw [← oneOf_contains, hapart.contains hc]
    decide
  have hname' : name ++ ' ' :: d :: rest = c :: (more ++ ' ' :: d :: rest) := by
    rw [hcons, List.cons_append]
  rw [scan_at hformed, hname',
    scan_word_blank hformed hkeywords ⟨by decide, by decide⟩
      (isWordChar_of_getLast?_append (by decide)) (headers_of_initial (by rintro _ ⟨⟩; decide))
      hblank hplain,
    ← hname',
    scan_name_blank hformed hkeywords hname (isWordChar_of_getLast?_append (by decide)) hd hnext
      hsign,
    marked_blank]
  rfl

theorem yields_excel {name file : Text} (hname : IsName name) (hfile : '\'' ∉ file) :
    Yields lexer ("@EXCEL1 ".toList ++ name ++ " '".toList ++ file ++ "';".toList)
      [[.word "@EXCEL1".toList, .word name, .literal file]] := by
  intro done
  have hline : "@EXCEL1 ".toList ++ name ++ " '".toList ++ file ++ "';".toList =
      '@' :: ("EXCEL1".toList ++ ' ' :: (name ++ ' ' :: '\'' :: (file ++ '\'' :: [';']))) := by
    simp
  rw [hline, scan_call hformed hkeywords hname (by decide) (by decide) (by decide),
    scan_literal hformed file hfile (by simp), scan_semicolon hformed, scan_nil]
  simp [endStatement]

namespace Exposure

/-- **Each line of an exposure says its statement**, whatever names it is written with. -/
theorem forall₂_yields (e : Exposure) :
    List.Forall₂ (fun line statement => Yields lexer line [statement]) e.lines e.statements := by
  cases e with
  | printed name =>
      refine .cons ?_ .nil
      have hline : "MESS '".toList ++ name.text ++ "=' ".toList ++ name.text ++ ";".toList =
          "MESS".toList ++ ' ' :: '\'' :: ((name.text ++ ['=']) ++
            '\'' :: ' ' :: (name.text ++ [';'])) := by simp
      rw [hline]
      exact yields_command hformed hkeywords ⟨by decide, by decide⟩ (by rintro _ ⟨⟩; decide)
        (by simp [name.quote_not_mem]) name.isName
  | chain name file =>
      exact .cons (yields_file hformed hkeywords (file.quote_not_mem))
        (.cons (yields_sort hformed hkeywords "CHAI" (by decide) name) .nil)
  | table name columns _ file =>
      refine List.rel_append (List.rel_append ?_ ?_) ?_
      · exact .cons (yields_table hformed hkeywords name.isName) .nil
      · rw [List.forall₂_map_left_iff, List.forall₂_map_right_iff, List.forall₂_same]
        intro column _
        exact yields_column hformed name.isName (column.quote_not_mem)
      · exact .cons (yields_file hformed hkeywords (file.quote_not_mem))
          (.cons (yields_sort hformed hkeywords "EXCE" (by decide) name) .nil)
  | excel name stem =>
      refine .cons ?_ .nil
      have hline : "@EXCEL1 ".toList ++ name.text ++ " '".toList ++ stem.text ++ ".csv';".toList =
          "@EXCEL1 ".toList ++ name.text ++ " '".toList ++ (stem.text ++ ".csv".toList) ++
            "';".toList := by simp
      rw [hline]
      exact yields_excel hformed hkeywords name.isName (by simp [stem.quote_not_mem])

end Exposure

end Lines

/-! ### Scripts -/

/-- Lexes and groups what is left of a line and the lines after it: what is found by then, and the
state after them. -/
def scanLines (lexer : Lexer) :
    lexer.rules.StateId → Text → List Text → Grouping → Grouping × lexer.rules.StateId
  | state, _, [], g => (g, state)
  | state, passed, line :: lines, g =>
    scanLines lexer (scan lexer state passed line g).2 [] lines
      (scan lexer state passed line g).1.endLine

/-- Grouping the lines of a document as they are lexed. -/
theorem scanLines_eq (lexer : Lexer) (raws : List Text) (state : lexer.rules.StateId)
    (offset : Nat) (g : Grouping) :
    scanLines lexer state [] (raws.map Text.stripReturn) g =
      ((lexer.lexFrom state offset raws).foldl addLine g, lexer.exitFrom state raws) := by
  induction raws generalizing state offset g with
  | nil => rfl
  | cons raw raws ih =>
      rw [List.map_cons, scanLines, ih _ (offset + Text.byteLength raw + 1)]
      rfl

/-- The statements of a document are what its lines are grouped into. -/
theorem statements_eq_scanLines (lexer : Lexer) (text : Text) :
    statements (lexer.tokenizeDocument text) =
      (scanLines lexer lexer.start []
        (text.rawLines.map Text.stripReturn) .empty).1.statements := by
  rw [scanLines_eq lexer _ _ 0, statements, (lexer.tokenizeDocument_eq text).1]

/-- A line that says its statements adds them, and the next line starts over. -/
theorem scanLines_yields {lines : List Text} {parts : List (List Statement)}
    (h : List.Forall₂ (Yields lexer) lines parts) (done : List Statement) :
    scanLines lexer lexer.start [] lines ⟨done, [], none⟩ =
      (⟨done ++ parts.flatten, [], none⟩, lexer.start) := by
  induction h generalizing done with
  | nil => rw [scanLines, List.flatten_nil, List.append_nil]
  | cons hline hlines ih =>
      rw [scanLines, hline done, List.flatten_cons, ← List.append_assoc]
      exact ih _

theorem yields_nil (lexer : Lexer) : Yields lexer [] [] := by
  intro done
  rw [scan_nil, List.append_nil]

/-- **A text whose lines say statements has these statements**, whether or not a line feed ends the
last line. -/
theorem statements_of_lines {text : Text} {parts : List (List Statement)}
    (h : List.Forall₂ (Yields lexer) text.bareLines parts) :
    statements (lexer.tokenizeDocument text) = parts.flatten := by
  obtain ⟨more, hraws, hmore⟩ : ∃ more, List.Forall₂ (Yields lexer)
      (text.rawLines.map Text.stripReturn) (parts ++ more) ∧ more.flatten = [] := by
    rcases text.map_stripReturn_rawLines with hlines | hlines
    · exact ⟨[], by rwa [hlines, List.append_nil], rfl⟩
    · refine ⟨[[]], ?_, rfl⟩
      rw [hlines]
      exact List.rel_append h (.cons (yields_nil lexer) .nil)
  rw [statements_eq_scanLines, Grouping.empty, scanLines_yields hraws, List.flatten_append, hmore,
    List.append_nil]
  rfl

/-- A script that is a list of exposures has their statements. -/
theorem statements_of_exposures {string header : lexer.rules.StateId}
    (hformed : Formed lexer.rules string header)
    (hkeywords : KeywordTable.ofWords keywordLists = .ok lexer.keywords) {text : Text}
    {exposures : List Exposure} (htext : text.bareLines = exposures.flatMap Exposure.lines) :
    statements (lexer.tokenizeDocument text) = exposures.flatMap Exposure.statements := by
  have hyields : ∀ exposures : List Exposure, List.Forall₂ (Yields lexer)
      (exposures.flatMap Exposure.lines)
      ((exposures.flatMap Exposure.statements).map ([·])) := by
    intro exposures
    rw [List.forall₂_map_right_iff]
    induction exposures with
    | nil => exact .nil
    | cons e exposures ih =>
        exact List.rel_append (e.forall₂_yields hformed hkeywords) ih
  have hstatements := statements_of_lines (htext ▸ hyields exposures)
  rw [hstatements, ← List.flatMap_def, List.flatMap_singleton']

end LineLexer.Gibiane
