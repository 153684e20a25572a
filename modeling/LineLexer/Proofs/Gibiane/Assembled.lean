/-
Names of files put together from strings and variables.

A call of the procedure may put the name of its file together: strings stand for themselves,
and a variable for the string it is first assigned, wherever in the script that is.  The
script is one line for each assignment and one for the call, and each line is one statement
whatever its strings hold, since a quote in a string is written twice and everything else
between quotes belongs to the string (`scan_doubled`).  The names are of variables that the
keyword table does not know, so no rule takes them for words of its own.

Putting the parts together stops at the first variable that is never assigned, and then there
is no output (`assemble_items`).
-/
import LineLexer.Proofs.Gibiane.Exposed
import LineLexer.Proofs.Gibiane.Literals
import LineLexer.Proofs.Gibiane.Reserved

namespace LineLexer.Gibiane

open Grouping

/-! ### Scripts -/

/-- An identifier that the keyword table does not know. -/
structure Variable (keywords : KeywordTable) where
  /-- The identifier. -/
  text : Text
  isIdentifier : text.isIdentifier = true
  unknown : keywords.classify text = none

/-- A string without line ends, which may be anything else. -/
structure OneLine where
  /-- The string. -/
  text : Text
  feed_not_mem : '\n' ∉ text
  return_not_mem : '\r' ∉ text

/-- A string as a script writes it. -/
def OneLine.render (s : OneLine) : Text := '\'' :: (doubled s.text ++ ['\''])

/-- A string is assigned to a variable. -/
structure Assignment (keywords : KeywordTable) where
  /-- The variable. -/
  target : Variable keywords
  /-- The string. -/
  value : OneLine

/-- A part of the name of a file. -/
inductive Part (keywords : KeywordTable) where
  /-- What a variable stands for. -/
  | named (v : Variable keywords)
  /-- A string. -/
  | literal (s : OneLine)

/-- Strings are assigned to variables, and a call puts the name of its file together. -/
structure Assembly (keywords : KeywordTable) where
  /-- The assignments in order, of which several may be to one variable. -/
  assignments : List (Assignment keywords)
  /-- The name of the output. -/
  name : Variable keywords
  /-- The parts of the name of its file. -/
  parts : List (Part keywords)

variable {keywords : KeywordTable}

/-- The line of an assignment. -/
def Assignment.line (a : Assignment keywords) : Text :=
  a.target.text ++ " = ".toList ++ a.value.render ++ ";".toList

/-- A part as a script writes it. -/
def Part.render : Part keywords → Text
  | .named v => v.text
  | .literal s => s.render

/-- Parts as a script writes them, each behind a blank. -/
def renderParts : List (Part keywords) → Text
  | [] => []
  | part :: parts => ' ' :: (part.render ++ renderParts parts)

namespace Assembly

variable (script : Assembly keywords)

/-- The line of the call. -/
def callLine : Text :=
  "@EXCEL1 ".toList ++ script.name.text ++ " (CHAI".toList ++ renderParts script.parts ++
    ");".toList

/-- The lines of the script, one for each statement. -/
def lines : List Text := script.assignments.map Assignment.line ++ [script.callLine]

/-- The first assignment to a variable. -/
def firstAssignment? (v : Variable keywords) : Option (Assignment keywords) :=
  script.assignments.find? fun a => Text.eqIgnoreCase a.target.text v.text

/-- What a part stands for: a variable for the string it is first assigned. -/
def valueOf : Part keywords → Text
  | .named v => ((script.firstAssignment? v).map (·.value.text)).getD []
  | .literal s => s.text

/-- The name of the file. -/
def file : Text := script.parts.flatMap script.valueOf

/-- Every variable among some parts is assigned, in any case of its letters. -/
def Assigns (parts : List (Part keywords)) : Prop :=
  ∀ v, .named v ∈ parts →
    ∃ a ∈ script.assignments, Text.eqIgnoreCase a.target.text v.text = true

end Assembly

/-! ### Statements -/

/-- The statement of an assignment. -/
def Assignment.statement (a : Assignment keywords) : Statement :=
  [.word a.target.text, .symbol ['='], .literal a.value.text]

/-- The item of a part. -/
def Part.item : Part keywords → Item
  | .named v => .word v.text
  | .literal s => .literal s.text

namespace Assembly

variable (script : Assembly keywords)

/-- The statement of the call. -/
def callStatement : Statement :=
  [.word "@EXCEL1".toList, .word script.name.text, .symbol ['('], .word "CHAI".toList] ++
    script.parts.map Part.item ++ [.symbol [')']]

/-- The statements of the script. -/
def statements : List Statement :=
  script.assignments.map Assignment.statement ++ [script.callStatement]

end Assembly

/-! ### Lines -/

theorem Assembly.callLine_eq (script : Assembly keywords) :
    script.callLine = '@' :: ("EXCEL1".toList ++ ' ' :: (script.name.text ++ ' ' :: '(' ::
      ("CHAI".toList ++ (renderParts script.parts ++ ");".toList)))) := by
  unfold Assembly.callLine
  simp

/-- What follows a part ends its word and is no quote. -/
theorem stop_parts (parts : List (Part keywords)) :
    ∀ c ∈ (renderParts parts ++ ");".toList).head?,
      isWordChar c = false ∧ c ≠ '\'' := by
  cases parts with
  | nil =>
      rintro _ ⟨⟩
      decide
  | cons part parts =>
      rintro _ ⟨⟩
      decide

section Lines

variable {lexer : Lexer} {string header : lexer.rules.StateId} {passed w rest body : Text}
  {done : List Statement} {current : Statement}
  (hformed : Formed lexer.rules string header)

include hformed

/-- Reading a string to its end undoes the doubling of its quotes. -/
theorem scan_doubled (s : Text) (hrest : rest.head? ≠ some '\'') :
    scan lexer string passed (doubled s ++ '\'' :: rest) ⟨done, current, some body⟩ =
      scan lexer lexer.start (passed ++ doubled s ++ ['\'']) rest
        ⟨done, current ++ [.literal (body ++ s)], none⟩ := by
  induction s generalizing passed body with
  | nil =>
      rw [doubled, List.flatMap_nil, List.nil_append, scan_close hformed hrest, List.append_nil,
        List.append_nil]
  | cons c s ih =>
      by_cases hquote : c = '\''
      · subst hquote
        rw [doubled_quote, List.cons_append, List.cons_append, scan_escape hformed, ih]
        simp
      · rw [doubled_cons hquote, List.cons_append, scan_inside hformed hquote, ih]
        simp

/-- **A string between quotes is one literal**, whatever it holds. -/
theorem scan_render (s : OneLine) (hrest : rest.head? ≠ some '\'') :
    scan lexer lexer.start passed (s.render ++ rest) ⟨done, current, none⟩ =
      scan lexer lexer.start (passed ++ s.render) rest
        ⟨done, current ++ [.literal s.text], none⟩ := by
  have hline : s.render ++ rest = '\'' :: (doubled s.text ++ '\'' :: rest) := by
    simp [OneLine.render]
  rw [hline, scan_quote hformed, scan_doubled hformed s.text hrest]
  simp [OneLine.render]

variable (hkeywords : KeywordTable.ofWords keywordLists = .ok lexer.keywords)

include hkeywords

/-- Behind the start of its line a name that begins no header is one word. -/
theorem scan_word_behind (hname : IsName w) (hw : WholeWord w rest) (hpassed : passed ≠ [])
    (hbefore : ∀ c ∈ passed.getLast?, isWordChar c = false)
    (hheaders : ∀ node ∈ headers, node.matchAt? (.between passed (w ++ rest)) = none) :
    scan lexer lexer.start passed (w ++ rest) ⟨done, current, none⟩ =
      scan lexer lexer.start (passed ++ w) rest
        ⟨done, current ++ [.word (marked passed w)], none⟩ := by
  have hstart : (Cursor.between passed (w ++ rest)).before ≠ none := by simpa using hpassed
  exact scan_word hformed hkeywords hname hw hbefore hheaders
    (Node.matchAt?_eq_none_of_before hstart) (Node.matchAt?_eq_none_of_before hstart)

/-- An assignment is one statement. -/
theorem yields_assignment (a : Assignment lexer.keywords) :
    Yields lexer a.line [a.statement] := by
  intro done
  have hname : IsName a.target.text :=
    isName_of_unknown hkeywords a.target.isIdentifier a.target.unknown
  have hline : a.line = a.target.text ++ ' ' :: '=' :: ' ' :: (a.value.render ++ [';']) := by
    simp [Assignment.line]
  rw [hline, scan_assigned hformed hname, scan_blank hformed (by simp),
    scan_render hformed a.value (by decide), scan_semicolon hformed, scan_nil]
  simp [endStatement, Assignment.statement]

/-- A part behind a blank is one item. -/
theorem scan_part (part : Part lexer.keywords)
    (hstop : ∀ c ∈ rest.head?, isWordChar c = false ∧ c ≠ '\'') :
    scan lexer lexer.start (passed ++ [' ']) (part.render ++ rest) ⟨done, current, none⟩ =
      scan lexer lexer.start (passed ++ [' '] ++ part.render) rest
        ⟨done, current ++ [part.item], none⟩ := by
  cases part with
  | named v =>
      have hw : WholeWord v.text rest :=
        wholeWord_of_isIdentifier v.isIdentifier fun c hc => (hstop c hc).1
      rw [Part.render, Part.item, scan_word_behind hformed hkeywords
        (isName_of_unknown hkeywords v.isIdentifier v.unknown) hw (by simp)
        (isWordChar_of_getLast?_append (by decide)) (headers_of_unknown hkeywords hw v.unknown),
        marked_blank]
  | literal s =>
      apply scan_render hformed s
      intro hquote
      exact (hstop _ hquote).2 rfl

/-- Parts behind blanks are read one by one. -/
theorem scan_parts (parts : List (Part lexer.keywords)) (hpassed : passed ≠ []) :
    scan lexer lexer.start passed
        (renderParts parts ++ ");".toList) ⟨done, current, none⟩ =
      scan lexer lexer.start (passed ++ renderParts parts) ");".toList
        ⟨done, current ++ parts.map Part.item, none⟩ := by
  induction parts generalizing passed current with
  | nil => rw [renderParts, List.nil_append, List.append_nil, List.map_nil, List.append_nil]
  | cons part parts ih =>
      have hline : renderParts (part :: parts) ++ ");".toList =
          ' ' :: (part.render ++ (renderParts parts ++ ");".toList)) := by simp [renderParts]
      rw [hline, scan_blank hformed hpassed, scan_part hformed hkeywords part (stop_parts parts),
        ih (by simp)]
      simp [renderParts]

/-- The call is one statement. -/
theorem yields_assembly (script : Assembly lexer.keywords) :
    Yields lexer script.callLine [script.callStatement] := by
  intro done
  have hname : IsName script.name.text :=
    isName_of_unknown hkeywords script.name.isIdentifier script.name.unknown
  have hchain : WholeWord "CHAI".toList
      (renderParts script.parts ++ ");".toList) :=
    wholeWord_of_isIdentifier (by decide) fun c hc => (stop_parts script.parts c hc).1
  have hinitial : ∀ tail : Text, ∀ c ∈ ("CHAI".toList ++ tail).head?,
      headerInitials.contains c = false := by
    rintro tail _ ⟨⟩
    decide
  rw [script.callLine_eq, scan_call hformed hkeywords hname (by decide) (by decide) (by decide),
    scan_leftParen hformed,
    scan_word_behind hformed hkeywords ⟨by decide, by decide⟩ hchain (by simp)
      (isWordChar_of_getLast?_append (by decide)) (headers_of_initial (hinitial _)),
    scan_parts hformed hkeywords script.parts (by simp), marked_concat (by decide)]
  show scan lexer lexer.start _ (')' :: [';']) _ = _
  rw [scan_rightParen hformed, scan_semicolon hformed, scan_nil]
  simp [endStatement, Assembly.callStatement]

/-- The lines of a script are its statements. -/
theorem statements_of_assembly (script : Assembly lexer.keywords) {text : Text}
    (htext : text.bareLines = script.lines) :
    Gibiane.statements (lexer.tokenizeDocument text) = script.statements := by
  have hyields : List.Forall₂ (Yields lexer) text.bareLines (script.statements.map ([·])) := by
    rw [htext, Assembly.lines, Assembly.statements, List.map_append, List.map_map]
    refine List.rel_append ?_ (.cons (yields_assembly hformed hkeywords script) .nil)
    rw [List.forall₂_map_left_iff, List.forall₂_map_right_iff, List.forall₂_same]
    intro a _
    exact yields_assignment hformed hkeywords a
  rw [statements_of_lines hyields, ← List.flatMap_def, List.flatMap_singleton']

end Lines

/-! ### Putting parts together -/

namespace Assembly

variable (script : Assembly keywords)

/-- A variable has the string it is first assigned. -/
theorem valueOf?_statements (v : Variable keywords) :
    valueOf? script.statements v.text = (script.firstAssignment? v).map (·.value.text) := by
  have hcall : assigned? v.text script.callStatement = none := by
    simp [callStatement, assigned?, Item.isSymbol]
  have hfind : script.statements.findSome? (assigned? v.text) =
      (script.firstAssignment? v).map fun a => [.literal a.value.text] := by
    rw [statements, List.findSome?_append, firstAssignment?]
    induction script.assignments with
    | nil => simp [hcall]
    | cons a assignments ih =>
        rw [List.map_cons, List.findSome?_cons, List.find?_cons]
        cases hcase : Text.eqIgnoreCase a.target.text v.text with
        | true => simp [Assignment.statement, assigned?, Item.isSymbol, hcase]
        | false => simpa [Assignment.statement, assigned?, Item.isSymbol, hcase] using ih
  rw [valueOf?, hfind]
  cases script.firstAssignment? v with
  | none => rfl
  | some a => simp [Item.text, List.intercalate]

theorem firstAssignment?_isSome_iff (v : Variable keywords) :
    (script.firstAssignment? v).isSome = true ↔
      ∃ a ∈ script.assignments, Text.eqIgnoreCase a.target.text v.text = true := by
  rw [firstAssignment?, List.find?_isSome]

theorem assigns_cons_named_iff {v : Variable keywords} {parts : List (Part keywords)} :
    script.Assigns (.named v :: parts) ↔
      (script.firstAssignment? v).isSome = true ∧ script.Assigns parts := by
  unfold Assigns
  simp only [List.mem_cons, firstAssignment?_isSome_iff]
  constructor
  · intro h
    exact ⟨h v (Or.inl rfl), fun u hu => h u (Or.inr hu)⟩
  · intro h u hu
    rcases hu with heq | hu
    · obtain rfl := Part.named.inj heq
      exact h.1
    · exact h.2 u hu

theorem assigns_cons_literal_iff {s : OneLine} {parts : List (Part keywords)} :
    script.Assigns (.literal s :: parts) ↔ script.Assigns parts := by
  unfold Assigns
  simp

/-- Parts that all stand for something are put together. -/
theorem assemble_of_assigns {parts : List (Part keywords)} (h : script.Assigns parts) :
    assemble script.statements (parts.map Part.item) =
      some (.ok (parts.flatMap script.valueOf)) := by
  induction parts with
  | nil => rfl
  | cons part parts ih =>
      cases part with
      | named v =>
          obtain ⟨hv, hparts⟩ := script.assigns_cons_named_iff.mp h
          obtain ⟨a, ha⟩ := Option.isSome_iff_exists.mp hv
          simp [Part.item, assemble, valueOf?_statements, valueOf, ha, ih hparts, Except.map]
      | literal s =>
          have hparts := script.assigns_cons_literal_iff.mp h
          simp [Part.item, assemble, valueOf, ih hparts, Except.map]

/-- Putting parts together stops at the first variable that is never assigned. -/
theorem assemble_of_not_assigns {parts : List (Part keywords)} (h : ¬ script.Assigns parts) :
    ∃ missing, assemble script.statements (parts.map Part.item) = some (.error missing) := by
  induction parts with
  | nil => exact absurd (fun v hv => absurd hv (by simp)) h
  | cons part parts ih =>
      cases part with
      | named v =>
          rw [assigns_cons_named_iff] at h
          cases hfirst : script.firstAssignment? v with
          | none =>
              exact ⟨v.text, by simp [Part.item, assemble, valueOf?_statements, hfirst]⟩
          | some a =>
              have hsome : (script.firstAssignment? v).isSome = true := by rw [hfirst]; rfl
              obtain ⟨missing, hmissing⟩ := ih fun hparts => h ⟨hsome, hparts⟩
              exact ⟨missing, by
                simp [Part.item, assemble, valueOf?_statements, hfirst, hmissing, Except.map]⟩
      | literal s =>
          rw [assigns_cons_literal_iff] at h
          obtain ⟨missing, hmissing⟩ := ih h
          exact ⟨missing, by simp [Part.item, assemble, hmissing, Except.map]⟩

/-! ### What is discovered -/

theorem isSymbol_item (part : Part keywords) (symbol : Text) :
    part.item.isSymbol symbol = false := by
  cases part <;> rfl

/-- What the call declares: an output in a file, or that a variable is missing. -/
def declared : Except Text Text → Declaration
  | .ok file => .output script.name.text (.file file)
  | .error missing => .notice (.unresolvedName script.name.text missing)

/-- The call declares what its parts are put together to. -/
theorem excelOutput?_callStatement (all : List Statement) :
    excelOutput? all script.callStatement =
      (assemble all (script.parts.map Part.item)).map script.declared := by
  have hparts : (script.parts.map Part.item ++ [Item.symbol [')']]).takeWhile
      (!·.isSymbol [')']) = script.parts.map Part.item := by
    have hitems : ∀ item ∈ script.parts.map Part.item, (!item.isSymbol [')']) = true := by
      intro item hitem
      obtain ⟨part, -, rfl⟩ := List.mem_map.mp hitem
      rw [isSymbol_item]
      rfl
    have hclose : [Item.symbol [')']].takeWhile (!·.isSymbol [')']) = [] := by decide
    rw [List.takeWhile_append_of_pos hitems, hclose, List.append_nil]
  have hword : Text.isWord script.name.text = true :=
    Text.isWord_of_isIdentifier script.name.isIdentifier
  have hchain : (Item.word "CHAI".toList).isWord "CHAI".toList = true := by decide
  have hcommand : (Item.word "@EXCEL1".toList).isWord "@EXCEL1".toList = true := by decide
  have hbracket : (Item.symbol ['(']).isSymbol ['('] = true := by decide
  simp only [callStatement, List.cons_append, List.nil_append, excelOutput?, hcommand, hword,
    hbracket, hchain, hparts, Bool.and_self, Bool.not_true, Bool.false_eq_true, if_false,
    Bool.true_or, if_true]
  rfl

/-- The call is all that is declared. -/
theorem declarations_statements_assembly :
    declarations script.statements =
      ((assemble script.statements (script.parts.map Part.item)).map script.declared).toList := by
  have hassignments : ∀ {α : Type} {look : Statement → Option α},
      (∀ a : Assignment keywords, look a.statement = none) →
        script.statements.filterMap look = (look script.callStatement).toList := by
    intro α look hnone
    have hnil : (script.assignments.map Assignment.statement).filterMap look = [] := by
      rw [List.filterMap_eq_nil_iff]
      intro statement hstatement
      obtain ⟨a, -, rfl⟩ := List.mem_map.mp hstatement
      exact hnone a
    rw [statements, List.filterMap_append, hnil, List.nil_append]
    cases hcall : look script.callStatement with
    | none =>
        rw [List.filterMap_cons_none hcall]
        rfl
    | some found =>
        rw [List.filterMap_cons_some hcall]
        rfl
  have hsorted : sortOutputs script.statements script.statements = [] := by
    have hfile : ∀ statement ∈ script.statements, sortFile? statement = none := by
      intro statement hstatement
      rcases List.mem_append.mp hstatement with hstatement | hstatement
      · obtain ⟨a, -, rfl⟩ := List.mem_map.mp hstatement
        have hsign : (Item.symbol ['=']).isWord "SORT".toList = false := rfl
        rw [Assignment.statement, sortFile?, hsign, Bool.and_false, Bool.false_and,
          if_neg Bool.false_ne_true]
      · obtain rfl := List.mem_singleton.mp hstatement
        rfl
    have hall := Exposure.sortOutputs_append_of_none script.statements hfile []
    rwa [List.append_nil] at hall
  rw [declarations, hassignments (fun a => rfl), hassignments (fun a => rfl), hsorted,
    excelOutput?_callStatement]
  rfl

end Assembly

/-- **The name of a file is put together from strings and variables.**  The script has one output,
in the file whose name is put together, if every variable among the parts is assigned, and none
otherwise. -/
theorem discover_assembled :
    ∃ lexer, Gibiane.lexer = .ok lexer ∧ ∀ (script : Assembly lexer.keywords) (text : Text),
      text.bareLines = script.lines →
        (script.Assigns script.parts →
          discover (lexer.tokenizeDocument text) = [⟨script.name.text, .file script.file⟩]) ∧
        (¬ script.Assigns script.parts → discover (lexer.tokenizeDocument text) = []) := by
  obtain ⟨lexer, hlexer, ⟨string, header, hformed⟩, hkeywords⟩ := exists_lexer_formed
  refine ⟨lexer, hlexer, ?_⟩
  intro script text htext
  have hdiscover : discover (lexer.tokenizeDocument text) =
      outputsOf (declarations script.statements) := by
    rw [discover, statements_of_assembly hformed hkeywords script htext]
  rw [hdiscover, script.declarations_statements_assembly]
  refine ⟨?_, ?_⟩
  · intro hassigns
    rw [script.assemble_of_assigns hassigns]
    rfl
  · intro hassigns
    obtain ⟨missing, hmissing⟩ := script.assemble_of_not_assigns hassigns
    rw [hmissing]
    rfl

/-- A variable that is assigned twice and written in another case, and a string that holds what
would end the call. -/
theorem discover_assembled_essay :
    ∃ (lexer : Lexer) (script : Assembly lexer.keywords) (text : Text),
      Gibiane.lexer = .ok lexer ∧
      text = "_f = 'l''essai';\n_F = 'x';\r\n@EXCEL1 _out (CHAI _F '_1);.csv');\n".toList ∧
      text.bareLines = script.lines ∧ script.Assigns script.parts ∧
      discover (lexer.tokenizeDocument text) =
        [⟨"_out".toList, .file "l'essai_1);.csv".toList⟩] := by
  obtain ⟨lexer, hlexer, hdiscover⟩ := discover_assembled
  obtain ⟨lexer', hlexer', -, hkeywords⟩ := exists_lexer_formed
  obtain rfl : lexer' = lexer := Except.ok.inj (hlexer'.symm.trans hlexer)
  let file : Variable lexer'.keywords :=
    ⟨['_', 'f'], by decide, classify_underscore hkeywords ['f']⟩
  let capital : Variable lexer'.keywords :=
    ⟨['_', 'F'], by decide, classify_underscore hkeywords ['F']⟩
  let name : Variable lexer'.keywords :=
    ⟨['_', 'o', 'u', 't'], by decide, classify_underscore hkeywords ['o', 'u', 't']⟩
  let script : Assembly lexer'.keywords := {
    assignments := [⟨file, "l'essai".toList, by decide, by decide⟩,
      ⟨capital, "x".toList, by decide, by decide⟩]
    name := name
    parts := [.named capital, .literal ⟨"_1);.csv".toList, by decide, by decide⟩] }
  have hlines : Text.bareLines
      "_f = 'l''essai';\n_F = 'x';\r\n@EXCEL1 _out (CHAI _F '_1);.csv');\n".toList =
        ["_f = 'l''essai';".toList, "_F = 'x';".toList,
          "@EXCEL1 _out (CHAI _F '_1);.csv');".toList] := by decide
  have hcase : Text.eqIgnoreCase ['_', 'f'] ['_', 'F'] = true := by decide
  have hassigns : script.Assigns script.parts := by
    intro v hv
    obtain rfl : v = capital := by simpa [script] using hv
    exact ⟨_, List.mem_cons_self, hcase⟩
  exact ⟨lexer', script, _, hlexer, rfl, hlines, hassigns, (hdiscover script _ hlines).1 hassigns⟩

end LineLexer.Gibiane
