/-
Where the values of a script are read from.

A value is looked up in the run directory under the name of a file that the script gives,
so a name with slashes in it leads elsewhere.  A script gives such a name in one of three
ways.  Two of them are checked: the name before `SORT` is made of words and dots, and the
string handed to a procedure is a word with its extension.  The third is put together from
strings and variables, and what comes out is not looked at again (`Assembles`).

The calls of a procedure are recorded last, so the files of a script are all in the run
directory exactly if the last call for each name gives a name without slashes
(`discover_plain_iff`), and then nothing else is looked up, whatever the script says.  That
is up to the script: what it assembles can be any text (`exists_lexer_calling`).
-/
import LineLexer.CommandLine.Program
import LineLexer.Proofs.Gibiane.Exposed
import LineLexer.Proofs.Gibiane.Literals

namespace LineLexer.Gibiane

open Grouping

variable {all : List Statement} {statement : Statement} {name file : Text}

/-! ### Names of files -/

/-- A relative name without slashes, which joined to a directory leads to what is right in it. -/
structure Plain (file : Text) : Prop where
  relative : Path.isAbsolute file = false
  noSlash : '/' ∉ file

theorem Plain.of_not_mem (h : '/' ∉ file) : Plain file := by
  refine ⟨?_, h⟩
  rw [Path.isAbsolute, beq_eq_false_iff_ne]
  exact fun hhead => h (List.mem_of_head? hhead)

theorem Plain.of_isFileName (h : isFileName file = true) : Plain file := by
  refine .of_not_mem fun hmem => ?_
  rcases (isFileName_iff.mp h).2 _ hmem with hword | hdot
  · exact absurd hword (by decide)
  · exact absurd hdot (by decide)

theorem Plain.of_stem (hsuffix : ".csv".toList.isSuffixOf file = true)
    (hword : Text.isWord (file.take (file.length - 4)) = true) : Plain file := by
  obtain ⟨stem, rfl⟩ := List.isSuffixOf_iff_suffix.mp hsuffix
  have htake : (stem ++ ".csv".toList).take ((stem ++ ".csv".toList).length - 4) = stem := by simp
  rw [htake] at hword
  refine .of_not_mem fun hmem => ?_
  rcases List.mem_append.mp hmem with hstem | hextension
  · exact absurd ((Text.isWord_iff.mp hword).2 _ hstem) (by decide)
  · exact absurd hextension (by decide)

/-- Outputs that are written to files are in files with plain names. -/
def PlainFiles (outputs : List Output) : Prop :=
  ∀ output ∈ outputs, ∀ file, output.source = .file file → Plain file

/-- The statement calls the procedure for a name, with a file whose name is assembled. -/
def Assembles (all : List Statement) (statement : Statement) (name file : Text) : Prop :=
  ∃ command bracket chain parts,
    statement = command :: .word name :: bracket :: chain :: parts ∧
    command.isWord "@EXCEL1".toList = true ∧ bracket.isSymbol ['('] = true ∧
    (chain.isWord "CHAI".toList = true ∨ chain.isWord "CHAINE".toList = true) ∧
    assemble all (parts.takeWhile (!·.isSymbol [')'])) = some (.ok file)

/-! ### Where the names come from -/

/-- A procedure takes a name that is checked, or one that is assembled. -/
theorem plain_or_assembles_of_excelOutput?
    (h : excelOutput? all statement = some (.output name (.file file))) :
    Plain file ∨ Assembles all statement name file := by
  unfold excelOutput? at h
  split at h
  case h_1 command other place =>
    rw [Option.ite_none_left_eq_some] at h
    obtain ⟨hcommand, h⟩ := h
    obtain ⟨hcommand, -⟩ : command.isWord "@EXCEL1".toList = true ∧ Text.isWord other = true := by
      simpa using hcommand
    split at h
    case h_1 written _ =>
      rw [Option.ite_none_right_eq_some, Bool.and_eq_true] at h
      obtain ⟨⟨hsuffix, hword⟩, h⟩ := h
      obtain ⟨rfl, rfl⟩ : other = name ∧ written = file := by simpa using h
      exact Or.inl (.of_stem hsuffix hword)
    case h_2 bracket chain parts _ =>
      rw [Option.ite_none_right_eq_some, Bool.and_eq_true, Bool.or_eq_true] at h
      obtain ⟨⟨hbracket, hchain⟩, h⟩ := h
      obtain ⟨assembled, hassemble, h⟩ := Option.map_eq_some_iff.mp h
      cases assembled with
      | ok written =>
          obtain ⟨rfl, rfl⟩ : other = name ∧ written = file := by simpa using h
          exact Or.inr ⟨command, bracket, chain, parts, rfl, hcommand, hbracket, hchain, hassemble⟩
      | error _ => cases h
    case h_3 => cases h
  case h_2 => cases h

theorem isFileName_of_sortFile? (h : sortFile? statement = some file) : isFileName file = true := by
  unfold sortFile? at h
  split at h
  case h_1 =>
    rw [Option.ite_none_right_eq_some, Bool.and_eq_true, Option.some.injEq] at h
    obtain ⟨⟨-, hfile⟩, rfl⟩ := h
    exact hfile
  case h_2 => cases h

/-- Among what is said, neighbouring statements write a variable to a file. -/
def Writes (said : List Statement) (kind : SortKind) (name file : Text) : Prop :=
  ∃ before first second after, said = before ++ first :: second :: after ∧
    sortFile? first = some file ∧ sortTarget? second = some (kind, name)

theorem not_writes_nil {kind : SortKind} : ¬ Writes [] kind name file := by
  rintro ⟨before, _, _, _, hsaid, -⟩
  simp at hsaid

theorem writes_cons_iff {kind : SortKind} {first : Statement} {rest : List Statement} :
    Writes (first :: rest) kind name file ↔
      (∃ second after, rest = second :: after ∧ sortFile? first = some file ∧
        sortTarget? second = some (kind, name)) ∨ Writes rest kind name file := by
  constructor
  · rintro ⟨before, opened, second, after, hsaid, hfile, htarget⟩
    cases before with
    | nil =>
        obtain ⟨rfl, rfl⟩ := List.cons.inj hsaid
        exact Or.inl ⟨second, after, rfl, hfile, htarget⟩
    | cons _ before =>
        obtain ⟨-, rfl⟩ := List.cons.inj hsaid
        exact Or.inr ⟨before, opened, second, after, rfl, hfile, htarget⟩
  · rintro (⟨second, after, rfl, hfile, htarget⟩ | ⟨before, opened, second, after, rfl, h⟩)
    · exact ⟨[], first, second, after, rfl, hfile, htarget⟩
    · exact ⟨first :: before, opened, second, after, rfl, h⟩

/-- These are the statements that are declared by writing. -/
theorem mem_sortOutputs_iff {said : List Statement} {declaration : Declaration} :
    declaration ∈ sortOutputs all said ↔
      ∃ kind target file, Writes said kind target file ∧
        declaration ∈ sortDeclarations all kind target file := by
  induction said with
  | nil => simp [sortOutputs, not_writes_nil]
  | cons first rest ih =>
      cases rest with
      | nil => simp [sortOutputs, writes_cons_iff, not_writes_nil]
      | cons second rest =>
          rw [sortOutputs, List.mem_append, ih]
          constructor
          · rintro (h | ⟨kind, target, file, hwrites, h⟩)
            · split at h
              case h_1 file kind target hfile htarget =>
                exact ⟨kind, target, file,
                  writes_cons_iff.mpr (Or.inl ⟨second, rest, rfl, hfile, htarget⟩), h⟩
              case h_2 => cases h
            · exact ⟨kind, target, file, writes_cons_iff.mpr (Or.inr hwrites), h⟩
          · rintro ⟨kind, target, file, hwrites, h⟩
            rcases writes_cons_iff.mp hwrites with ⟨_, _, heq, hfile, htarget⟩ | hwrites
            · obtain ⟨rfl, rfl⟩ := List.cons.inj heq
              rw [hfile, htarget]
              exact Or.inl h
            · exact Or.inr ⟨kind, target, file, hwrites, h⟩

theorem eq_of_mem_sortDeclarations {kind : SortKind} {target written : Text}
    (h : .output name (.file file) ∈ sortDeclarations all kind target written) :
    file = written := by
  cases kind with
  | chain =>
      obtain ⟨-, hfile⟩ : name = target ∧ file = written := by simpa [sortDeclarations] using h
      exact hfile
  | excel =>
      rw [sortDeclarations] at h
      cases hcolumns : tableColumns all target with
      | nil => simp [hcolumns] at h
      | cons column columns =>
          rw [hcolumns] at h
          obtain ⟨column, -, heq⟩ := List.mem_map.mp h
          obtain ⟨-, hfile⟩ : column = name ∧ written = file := by simpa using heq
          exact hfile.symm

/-- What is declared by printing and by neighbouring statements. -/
def uncalled (all : List Statement) : List Output :=
  ((all.filterMap printedName?).map (Declaration.output · .console) ++
    sortOutputs all all).filterMap Declaration.output?

/-- What is declared by calls of the procedure. -/
def called (all : List Statement) : List Output :=
  (all.filterMap (excelOutput? all)).filterMap Declaration.output?

/-- Calls are recorded last. -/
theorem outputsOf_declarations (all : List Statement) :
    outputsOf (declarations all) = latest (uncalled all ++ called all) := by
  rw [outputsOf_eq_latest, declarations, List.filterMap_append]
  rfl

/-- Without calls, all names are checked. -/
theorem plainFiles_uncalled (all : List Statement) : PlainFiles (uncalled all) := by
  intro output houtput file hfile
  have hdeclared := declaration_mem_of_mem_filterMap houtput
  rw [Output.declaration, hfile, List.mem_append] at hdeclared
  rcases hdeclared with h | h
  · obtain ⟨_, -, heq⟩ := List.mem_map.mp h
    cases heq
  · obtain ⟨kind, target, written, ⟨_, _, _, _, -, hwritten, -⟩, h⟩ := mem_sortOutputs_iff.mp h
    obtain rfl := eq_of_mem_sortDeclarations h
    exact .of_isFileName (isFileName_of_sortFile? hwritten)

/-- A call gives a name that is checked, or one that is assembled. -/
theorem plain_or_assembles_of_mem_called {output : Output} (h : output ∈ called all)
    (hfile : output.source = .file file) :
    Plain file ∨ ∃ statement ∈ all, Assembles all statement output.name file := by
  have hdeclared := declaration_mem_of_mem_filterMap h
  rw [Output.declaration, hfile] at hdeclared
  obtain ⟨statement, hmem, hcall⟩ := List.mem_filterMap.mp hdeclared
  rcases plain_or_assembles_of_excelOutput? hcall with hplain | hassembles
  · exact Or.inl hplain
  · exact Or.inr ⟨statement, hmem, hassembles⟩

/-- Where everything before has plain names, what comes after decides. -/
theorem plainFiles_latest_append_iff {before after : List Output} (hbefore : PlainFiles before) :
    PlainFiles (latest (before ++ after)) ↔ PlainFiles (latest after) := by
  constructor
  · intro h output houtput
    refine h output ?_
    rw [mem_latest_iff] at houtput ⊢
    rw [lastOf_append, houtput, Option.some_or]
  · intro h output houtput
    rw [mem_latest_iff, lastOf_append] at houtput
    cases hlast : lastOf after output.name with
    | none =>
        rw [hlast, Option.none_or] at houtput
        exact hbefore output (lastOf_eq_some houtput).2
    | some last =>
        rw [hlast, Option.some_or] at houtput
        obtain rfl := Option.some.inj houtput
        exact h last (mem_latest_iff.mpr hlast)

/-! ### What is looked up -/

section Lookup

variable {m : Type → Type} [Monad m] {host host' : Host m} {directory : Text}

theorem mapM_congr {α β : Type} {f g : α → m β} {items : List α} (h : ∀ a ∈ items, f a = g a) :
    items.mapM f = items.mapM g := by
  have hloop : ∀ read, List.mapM.loop f items read = List.mapM.loop g items read := by
    induction items with
    | nil => exact fun _ => rfl
    | cons a items ih =>
        intro read
        unfold List.mapM.loop
        rw [h a List.mem_cons_self]
        exact bind_congr fun b => ih (fun a ha => h a (List.mem_cons_of_mem _ ha)) _
  exact hloop []

/-- The values of outputs are read from their files alone. -/
theorem runEntries_congr {outputs : List Output}
    (h : ∀ file ∈ consoleFile :: outputs.map (·.source.fileName),
      host.lookup (Path.join directory file) = host'.lookup (Path.join directory file)) :
    Program.runEntries host directory outputs = Program.runEntries host' directory outputs := by
  have hentries : ∀ file ∈ consoleFile :: outputs.map (·.source.fileName),
      (do return (file, ← host.lookup (Path.join directory file)) : m (Text × Entry)) =
        do return (file, ← host'.lookup (Path.join directory file)) := by
    intro file hfile
    rw [h file hfile]
  unfold Program.runEntries
  dsimp only
  rw [mapM_congr hentries]

end Lookup

/-! ### Names that are assembled -/

/-- The command that assembles the name of a file, up to its first string. -/
def callHead (name : Name) : Text := "@EXCEL1 ".toList ++ name.text ++ " (CHAI '".toList

/-- The script that assembles the name of a file from one string. -/
def calling (name : Name) (file : Text) : Text := callHead name ++ (doubled file ++ "');".toList)

/-- The statement of that script. -/
def callStatement (name : Name) (file : Text) : Statement :=
  [.word "@EXCEL1".toList, .word name.text, .symbol ['('], .word "CHAI".toList, .literal file,
    .symbol [')']]

theorem not_mem_callHead (name : Name) : '\n' ∉ callHead name ∧ '\r' ∉ callHead name := by
  have hfeed : '\n' ∉ name.text := Text.not_mem_of_isWord name.isWord (by decide)
  have hreturn : '\r' ∉ name.text := Text.not_mem_of_isWord name.isWord (by decide)
  unfold callHead
  simp [hfeed, hreturn]

section Scripts

variable {lexer : Lexer} {string header : lexer.rules.StateId}
  (hformed : Formed lexer.rules string header)
  (hkeywords : KeywordTable.ofWords keywordLists = .ok lexer.keywords)

include hformed hkeywords

/-- The script that assembles a name has one statement, and ends outside strings. -/
theorem scanText_calling (name : Name) (file : Text) :
    scanText lexer lexer.start [] (calling name file) .empty =
      (⟨[callStatement name file], [], none⟩, lexer.start) := by
  let before : Statement :=
    [.word "@EXCEL1".toList, .word name.text, .symbol ['('], .word "CHAI".toList]
  have hcall : scanText lexer lexer.start [] (calling name file) .empty =
      scanText lexer string ([] ++ callHead name) (doubled file ++ "');".toList)
        ⟨[], before, some []⟩ := by
    refine scanText_of_scan (not_mem_callHead name).1 ?_
    intro line _
    have hline : callHead name ++ line = '@' :: ("EXCEL1".toList ++ ' ' ::
        (name.text ++ ' ' :: '(' :: ("CHAI".toList ++ ' ' :: '\'' :: line))) := by
      unfold callHead
      simp
    rw [hline, Grouping.empty,
      scan_call hformed hkeywords name.isName (by decide) (by decide) (by decide),
      scan_leftParen hformed,
      scan_name_blank hformed hkeywords ⟨by decide, by decide⟩
        (isWordChar_of_getLast?_append (by decide)) (by decide) (by decide) (by decide),
      scan_quote hformed, marked_concat (by decide)]
    unfold callHead
    simp [before]
  have hstring : ∃ passed, scanText lexer string ([] ++ callHead name)
      (doubled file ++ '\'' :: [')', ';']) ⟨[], before, some []⟩ =
        scanText lexer lexer.start passed [')', ';']
          ⟨[], before ++ [.literal ([] ++ file)], none⟩ :=
    scanText_doubled hformed file _ _ (by decide)
  obtain ⟨passed, hstring⟩ := hstring
  rw [hcall]
  refine Eq.trans hstring ?_
  rw [scanText_line (by decide), scan_rightParen hformed, scan_semicolon hformed, scan_nil]
  rfl

/-- The script is read as its statement, whatever the string is. -/
theorem statements_calling (name : Name) (hpair : ¬ file.HasReturn) :
    statements (lexer.tokenizeDocument (calling name file)) = [callStatement name file] := by
  have hquoted : ¬ Text.HasReturn (doubled file ++ '\'' :: [')', ';']) :=
    not_hasReturn_doubled hpair (by simp)
  have hpair' : ¬ (calling name file).HasReturn := by
    unfold calling
    rw [Text.hasReturn_append_of_not_mem (not_mem_callHead name).2]
    exact hquoted
  have hlast : (calling name file).getLast? = some ';' := by
    unfold calling
    rw [← List.append_assoc, List.getLast?_append_of_ne_nil _ (by decide)]
    decide
  obtain ⟨hstatements, -⟩ := scanText_document lexer hpair' (by rw [hlast]; decide)
  rw [hstatements, scanText_calling hformed hkeywords]
  rfl

end Scripts

/-- The name that is given is the one output, and its file is the string. -/
theorem declarations_callStatement (name : Name) (file : Text) :
    declarations [callStatement name file] = [.output name.text (.file file)] := by
  have hprinted : printedName? (callStatement name file) = none := rfl
  have hcalled : excelOutput? [callStatement name file] (callStatement name file) =
      some (.output name.text (.file file)) := by
    simp [callStatement, excelOutput?, eqIgnoreCase_refl, name.isWord, Item.isSymbol, assemble,
      Except.map]
  rw [declarations, List.filterMap_cons_none hprinted, List.filterMap_cons_some hcalled]
  rfl

/-- A file is taken from wherever the string says. -/
theorem exists_lexer_calling :
    ∃ lexer, Gibiane.lexer = .ok lexer ∧ ∀ (name : Name) (file : Text), ¬ file.HasReturn →
      statements (lexer.tokenizeDocument (calling name file)) = [callStatement name file] ∧
      discover (lexer.tokenizeDocument (calling name file)) = [⟨name.text, .file file⟩] := by
  obtain ⟨lexer, hlexer, ⟨string, header, hformed⟩, hkeywords⟩ := exists_lexer_formed
  refine ⟨lexer, hlexer, ?_⟩
  intro name file hpair
  have hstatements := statements_calling hformed hkeywords name hpair
  refine ⟨hstatements, ?_⟩
  rw [discover, hstatements, declarations_callStatement]
  rfl

/-! ### Confinement -/

theorem plain_fileName {outputs : List Output} (hplain : PlainFiles outputs) :
    ∀ file ∈ consoleFile :: outputs.map (·.source.fileName), Plain file := by
  intro file hfile
  rcases List.mem_cons.mp hfile with rfl | hfile
  · exact .of_not_mem (by decide)
  obtain ⟨output, houtput, rfl⟩ := List.mem_map.mp hfile
  cases hsource : output.source with
  | console => exact .of_not_mem (by decide)
  | file file => exact hplain output houtput file hsource

/-- **When the values of a script are read from the run directory alone.**  The files that discovery
finds all have plain names exactly if the last call for each name gives one, and then the program
looks up nothing but plain names in the run directory.  A file whose name is not plain has a name
that a call assembles. -/
theorem discover_plain_iff {n : Nat} (document : Document n) :
    (PlainFiles (discover document) ↔ PlainFiles (latest (called (statements document)))) ∧
    (PlainFiles (discover document) →
      ∀ {m : Type → Type} [Monad m] (host host' : Host m) (directory : Text),
        (∀ file, Plain file →
          host.lookup (Path.join directory file) = host'.lookup (Path.join directory file)) →
        Program.runEntries host directory (discover document) =
          Program.runEntries host' directory (discover document)) ∧
    ∀ output ∈ discover document, ∀ file, output.source = .file file → ¬ Plain file →
      ∃ statement ∈ statements document,
        Assembles (statements document) statement output.name file := by
  have hdiscover : discover document =
      latest (uncalled (statements document) ++ called (statements document)) :=
    outputsOf_declarations _
  refine ⟨?_, ?_, ?_⟩
  · rw [hdiscover]
    exact plainFiles_latest_append_iff (plainFiles_uncalled _)
  · intro hplain m _ host host' directory hsame
    exact runEntries_congr fun file hfile => hsame file (plain_fileName hplain file hfile)
  · intro output houtput file hfile hslash
    rw [hdiscover, mem_latest_iff] at houtput
    rcases List.mem_append.mp (lastOf_eq_some houtput).2 with hmem | hmem
    · exact absurd (plainFiles_uncalled _ output hmem file hfile) hslash
    · exact (plain_or_assembles_of_mem_called hmem hfile).resolve_left hslash

/-- A plain name that is assembled is looked up in the run directory. -/
theorem discover_plain_evolution :
    ∃ (text : Text) (lexer : Lexer), text = "@EXCEL1 EVOL2 (CHAI 'evol_3.csv');".toList ∧
      Gibiane.lexer = .ok lexer ∧
      discover (lexer.tokenizeDocument text) =
        [⟨"EVOL2".toList, .file "evol_3.csv".toList⟩] ∧
      PlainFiles (discover (lexer.tokenizeDocument text)) ∧
      ∀ (host host' : Host Id) (directory : Text),
        (∀ file, Plain file →
          host.lookup (Path.join directory file) = host'.lookup (Path.join directory file)) →
        Program.runEntries host directory (discover (lexer.tokenizeDocument text)) =
          Program.runEntries host' directory (discover (lexer.tokenizeDocument text)) := by
  let name : Name := ⟨"EVOL2".toList, by decide, by decide⟩
  have htext : calling name "evol_3.csv".toList =
      "@EXCEL1 EVOL2 (CHAI 'evol_3.csv');".toList := by decide
  obtain ⟨lexer, hlexer, hcalling⟩ := exists_lexer_calling
  obtain ⟨hstatements, hdiscover⟩ := hcalling name "evol_3.csv".toList (by simp)
  rw [htext] at hstatements hdiscover
  obtain ⟨hiff, hlookup, -⟩ := discover_plain_iff
    (lexer.tokenizeDocument "@EXCEL1 EVOL2 (CHAI 'evol_3.csv');".toList)
  have hplain : PlainFiles
      (discover (lexer.tokenizeDocument "@EXCEL1 EVOL2 (CHAI 'evol_3.csv');".toList)) := by
    rw [hiff, hstatements]
    have hcalled : latest (called [callStatement name "evol_3.csv".toList]) =
        [⟨"EVOL2".toList, .file "evol_3.csv".toList⟩] := by decide
    intro output houtput file hfile
    rw [hcalled, List.mem_singleton] at houtput
    subst houtput
    obtain rfl := OutputSource.file.inj hfile
    exact .of_not_mem (by decide)
  refine ⟨_, lexer, rfl, hlexer, hdiscover, hplain, ?_⟩
  intro host host' directory hsame
  exact hlookup hplain host host' directory hsame

/-- A script can name a file above the run directory. -/
theorem discover_escapes :
    ∃ (text : Text) (lexer : Lexer), text = "@EXCEL1 x (CHAI '../secret.csv');".toList ∧
      Gibiane.lexer = .ok lexer ∧
      discover (lexer.tokenizeDocument text) = [⟨"x".toList, .file "../secret.csv".toList⟩] ∧
      ¬ Plain "../secret.csv".toList ∧
      Path.join "run".toList "../secret.csv".toList = "run/../secret.csv".toList := by
  let name : Name := ⟨"x".toList, by decide, by decide⟩
  have htext : calling name "../secret.csv".toList =
      "@EXCEL1 x (CHAI '../secret.csv');".toList := by decide
  obtain ⟨lexer, hlexer, hcalling⟩ := exists_lexer_calling
  have hdiscover := (hcalling name "../secret.csv".toList (by simp)).2
  rw [htext] at hdiscover
  refine ⟨_, lexer, rfl, hlexer, hdiscover, ?_, by decide⟩
  intro hplain
  exact hplain.noSlash (by decide)

end LineLexer.Gibiane
