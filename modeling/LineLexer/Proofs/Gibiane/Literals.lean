/-
Strings with quotes and line feeds in them.

A quote inside a string is written twice.  Reading undoes this one character at a time and
carries the body over the ends of lines, so it makes no difference where the quotes stand:
at either end of the string, next to a line feed, or alone on a line (`scanText_doubled`).
A command that prints a string is one statement with the string as it was meant.

`scanText` groups a text that may have several lines, as `scan` does what is left of one,
and a line feed is one more piece with an equation of its own.

What discovery makes of a printed string is a question about the string alone: there is an
output if it is a word and the sign, with nothing but blanks around the sign
(`printedName?_eq_some_iff`).
-/
import LineLexer.Proofs.Gibiane.Scripts

namespace LineLexer.Gibiane

open Grouping

/-! ### Text of several lines -/

/-- Lexes and groups what is left of a text: what is found by then, and the state after it. -/
def scanText (lexer : Lexer) (state : lexer.rules.StateId) (passed text : Text) (g : Grouping) :
    Grouping × lexer.rules.StateId :=
  scanLines lexer state passed text.rawLines g

variable {lexer : Lexer} {state next string header : lexer.rules.StateId}
  {passed read text : Text} {g found : Grouping} {done : List Statement}
  {current : Statement} {body : Text}

/-- A document without carriage returns at the ends of lines is grouped as a text. -/
theorem scanText_document (lexer : Lexer) (hpair : ¬ text.HasReturn)
    (hlast : text.getLast? ≠ some '\r') :
    statements (lexer.tokenizeDocument text) =
        (scanText lexer lexer.start [] text .empty).1.statements ∧
      (lexer.tokenizeDocument text).exit = (scanText lexer lexer.start [] text .empty).2 := by
  obtain ⟨hlines, hexit⟩ := lexer.tokenizeDocument_eq text
  have hscan := scanLines_eq lexer text.rawLines lexer.start 0 .empty
  rw [Text.map_stripReturn_of_not_hasReturn hpair hlast] at hscan
  rw [statements, hlines, hexit, scanText, hscan]
  exact ⟨rfl, rfl⟩

theorem scanText_line (htext : '\n' ∉ text) (state : lexer.rules.StateId) (passed : Text)
    (g : Grouping) :
    scanText lexer state passed text g =
      ((scan lexer state passed text g).1.endLine, (scan lexer state passed text g).2) := by
  rw [scanText, Text.rawLines_of_not_mem htext, scanLines, scanLines]

/-- A line feed ends the line. -/
theorem scanText_newline (passed : Text) :
    scanText lexer state passed ('\n' :: text) g = scanText lexer state [] text g.endLine := by
  rw [scanText, Text.rawLines_cons, if_pos rfl, scanLines, scan_nil]
  rfl

/-- What is read of the first line is read of the text. -/
theorem scanText_of_scan (hread : '\n' ∉ read)
    (h : ∀ line ∈ text.rawLines.head?,
      scan lexer state passed (read ++ line) g = scan lexer next (passed ++ read) line found) :
    scanText lexer state passed (read ++ text) g =
      scanText lexer next (passed ++ read) text found := by
  rw [scanText, scanText, Text.rawLines_append_of_not_mem hread]
  cases hlines : text.rawLines with
  | nil => exact absurd hlines text.rawLines_ne_nil
  | cons line lines =>
      have hline := h line (by rw [hlines]; rfl)
      rw [List.modifyHead_cons, scanLines, scanLines, hline]

/-! ### Quotes -/

/-- A text with each of its quotes written twice. -/
def doubled (text : Text) : Text := text.flatMap fun c => if c = '\'' then ['\'', '\''] else [c]

theorem doubled_quote (text : Text) : doubled ('\'' :: text) = '\'' :: '\'' :: doubled text := rfl

theorem doubled_cons {c : Char} (hc : c ≠ '\'') (text : Text) :
    doubled (c :: text) = c :: doubled text := by
  simp [doubled, hc]

/-- Doubling quotes puts no line feed after a carriage return. -/
theorem not_hasReturn_doubled {text rest : Text} (htext : ¬ text.HasReturn)
    (hrest : ¬ Text.HasReturn ('\'' :: rest)) :
    ¬ Text.HasReturn (doubled text ++ '\'' :: rest) := by
  induction text with
  | nil => exact hrest
  | cons c text ih =>
      rw [Text.hasReturn_cons, not_or] at htext
      have hmore := ih htext.2
      by_cases hc : c = '\''
      · subst hc
        rw [doubled_quote]
        simpa using hmore
      · rw [doubled_cons hc, List.cons_append, Text.hasReturn_cons, not_or]
        refine ⟨?_, hmore⟩
        rintro ⟨hreturn, hfeed⟩
        refine htext.1 ⟨hreturn, ?_⟩
        cases text with
        | nil => simp [doubled] at hfeed
        | cons d text =>
            by_cases hd : d = '\''
            · subst hd
              simp [doubled_quote] at hfeed
            · rwa [doubled_cons hd] at hfeed

section Strings

variable (hformed : Formed lexer.rules string header)

include hformed

/-- A doubled quote is one quote of the string. -/
theorem scan_escape (passed rest : Text) :
    scan lexer string passed ('\'' :: '\'' :: rest) ⟨done, current, some body⟩ =
      scan lexer string (passed ++ ['\'', '\'']) rest
        ⟨done, current, some (body ++ ['\''])⟩ :=
  scan_of_whole (first?_escape hformed passed rest) (by simp)

/-- **Reading a string undoes the doubling of its quotes**, whatever stands around them. -/
theorem scanText_doubled (s passed body : Text) (htext : text.head? ≠ some '\'') :
    ∃ before, scanText lexer string passed (doubled s ++ '\'' :: text) ⟨done, current, some body⟩ =
      scanText lexer lexer.start before text ⟨done, current ++ [.literal (body ++ s)], none⟩ := by
  induction s generalizing passed body with
  | nil =>
      refine ⟨passed ++ ['\''], ?_⟩
      rw [List.append_nil]
      show scanText lexer string passed (['\''] ++ text) _ = _
      refine scanText_of_scan (by decide) ?_
      intro line hline
      refine scan_close hformed ?_
      intro hquote
      exact htext (Text.mem_head?_of_mem_head?_rawLines hline hquote)
  | cons c s ih =>
      by_cases hquote : c = '\''
      · subst hquote
        obtain ⟨before, hscan⟩ := ih (passed ++ ['\'', '\'']) (body ++ ['\''])
        refine ⟨before, ?_⟩
        have hread : scanText lexer string passed (['\'', '\''] ++ (doubled s ++ '\'' :: text))
            ⟨done, current, some body⟩ =
            scanText lexer string (passed ++ ['\'', '\'']) (doubled s ++ '\'' :: text)
              ⟨done, current, some (body ++ ['\''])⟩ :=
          scanText_of_scan (by decide) fun line _ => scan_escape hformed passed line
        rw [List.append_assoc, List.singleton_append] at hscan
        exact hread.trans hscan
      · by_cases hfeed : c = '\n'
        · subst hfeed
          obtain ⟨before, hscan⟩ := ih [] (body ++ ['\n'])
          refine ⟨before, ?_⟩
          rw [List.append_assoc, List.singleton_append] at hscan
          rw [doubled_cons hquote, List.cons_append, scanText_newline]
          exact hscan
        · obtain ⟨before, hscan⟩ := ih (passed ++ [c]) (body ++ [c])
          refine ⟨before, ?_⟩
          have hread : scanText lexer string passed ([c] ++ (doubled s ++ '\'' :: text))
              ⟨done, current, some body⟩ =
              scanText lexer string (passed ++ [c]) (doubled s ++ '\'' :: text)
                ⟨done, current, some (body ++ [c])⟩ := by
            refine scanText_of_scan ?_ fun line _ => scan_inside hformed hquote
            rw [List.mem_singleton]
            exact fun h => hfeed h.symm
          rw [List.append_assoc, List.singleton_append] at hscan
          rw [doubled_cons hquote]
          exact hread.trans hscan

end Strings

/-! ### Printed strings -/

/-- The script that prints a string and nothing else. -/
def printing (s : Text) : Text := "MESS '".toList ++ (doubled s ++ "';".toList)

/-- The string is a name and the sign, with nothing but blanks around the sign. -/
def Announces (s name : Text) : Prop :=
  name.isWord = true ∧ ∃ before after : Text,
    s = name ++ (before ++ '=' :: after) ∧ before.allBlank = true ∧ after.allBlank = true

theorem isBlank_sign : isBlank '=' = false := by decide

/-- A blank or the sign ends the name. -/
theorem not_isWordChar_of_blanks {before : Text} (hbefore : before.allBlank = true)
    (after : Text) :
    ∀ c ∈ (before ++ '=' :: after).head?, isWordChar c = false := by
  intro c hc
  cases before with
  | nil =>
      obtain rfl := Option.some.inj hc
      decide
  | cons d before =>
      obtain rfl := Option.some.inj hc
      have hblank := List.all_eq_true.mp hbefore d List.mem_cons_self
      by_contra hword
      rw [isBlank_of_isWordChar (by simpa using hword)] at hblank
      exact Bool.noConfusion hblank

/-- **A statement prints a name** if its string announces the name, and no other. -/
theorem printedName?_eq_some_iff {command : Item} {s name : Text} {rest : List Item} :
    printedName? (command :: .literal s :: rest) = some name ↔
      command.isWord "MESS".toList = true ∧ Announces s name := by
  unfold printedName?
  simp only [Option.ite_none_right_eq_some, Option.some.injEq, Bool.and_eq_true, beq_iff_eq,
    Text.trim_eq_singleton_iff isBlank_sign]
  constructor
  · rintro ⟨⟨⟨hcommand, hword⟩, before, after, hdrop, hblank⟩, rfl⟩
    refine ⟨hcommand, hword, before, after, ?_, hblank⟩
    rw [← hdrop, List.takeWhile_append_dropWhile]
  · rintro ⟨hcommand, hword, before, after, rfl, hbefore, hafter⟩
    have hchars := (Text.isWord_iff.mp hword).2
    have hstop := not_isWordChar_of_blanks hbefore after
    rw [takeWhile_run hchars hstop, dropWhile_run hchars hstop]
    exact ⟨⟨⟨hcommand, hword⟩, before, after, rfl, hbefore, hafter⟩, rfl⟩

section Scripts

variable (hformed : Formed lexer.rules string header)
  (hkeywords : KeywordTable.ofWords keywordLists = .ok lexer.keywords)

include hformed hkeywords

/-- The script that prints a string has one statement, and ends outside strings. -/
theorem scanText_printing (s : Text) :
    scanText lexer lexer.start [] (printing s) .empty =
      (⟨[[.word "MESS".toList, .literal s]], [], none⟩, lexer.start) := by
  have hcommand : scanText lexer lexer.start [] (printing s) .empty =
      scanText lexer string ([] ++ "MESS '".toList) (doubled s ++ "';".toList)
        ⟨[], [.word "MESS".toList], some []⟩ := by
    refine scanText_of_scan (by decide) ?_
    intro line _
    have hline : "MESS '".toList ++ line = "MESS".toList ++ ' ' :: '\'' :: line := rfl
    rw [hline, Grouping.empty,
      scan_word_blank hformed hkeywords ⟨by decide, by decide⟩ (by simp)
        (headers_of_initial (by rintro _ ⟨⟩; decide)) (by decide) (by decide),
      scan_quote hformed]
    rfl
  have hstring : ∃ before, scanText lexer string ([] ++ "MESS '".toList)
      (doubled s ++ '\'' :: [';']) ⟨[], [.word "MESS".toList], some []⟩ =
        scanText lexer lexer.start before [';']
          ⟨[], [.word "MESS".toList] ++ [.literal ([] ++ s)], none⟩ :=
    scanText_doubled hformed s _ _ (by decide)
  obtain ⟨before, hstring⟩ := hstring
  rw [hcommand]
  refine Eq.trans hstring ?_
  rw [scanText_line (by decide), scan_semicolon hformed, scan_nil]
  rfl

end Scripts

/-- A printed string declares at most the name it announces. -/
theorem declarations_printing (s : Text) :
    declarations [[.word "MESS".toList, .literal s]] =
      (printedName? [.word "MESS".toList, .literal s]).toList.map (.output · .console) := by
  rw [declarations, List.filterMap_cons]
  cases printedName? [.word "MESS".toList, .literal s] with
  | none => rfl
  | some name => rfl

/-- **A string is read as it was meant.**  The script that prints it ends in the start state and is
one statement with that string; what discovery finds in it is an output if the string announces a
name, and nothing else. -/
theorem statements_printing (s : Text) (hpair : ¬ s.HasReturn) :
    ∃ lexer, Gibiane.lexer = .ok lexer ∧
      (lexer.tokenizeDocument (printing s)).exit = lexer.start ∧
      statements (lexer.tokenizeDocument (printing s)) =
        [[.word "MESS".toList, .literal s]] ∧
      ∀ output, output ∈ discover (lexer.tokenizeDocument (printing s)) ↔
        output.source = .console ∧ Announces s output.name := by
  obtain ⟨lexer, hlexer, ⟨string, header, hformed⟩, hkeywords⟩ := exists_lexer_formed
  have hpair' : ¬ (printing s).HasReturn := by
    have hquoted : ¬ Text.HasReturn (doubled s ++ '\'' :: [';']) :=
      not_hasReturn_doubled hpair (by simp)
    unfold printing
    rw [Text.hasReturn_append_of_not_mem (by decide)]
    exact hquoted
  have hlast : (printing s).getLast? = some ';' := by
    unfold printing
    rw [← List.append_assoc, List.getLast?_append_of_ne_nil _ (by decide)]
    decide
  obtain ⟨hstatements, hexit⟩ := scanText_document lexer hpair' (by rw [hlast]; decide)
  rw [scanText_printing hformed hkeywords] at hstatements hexit
  refine ⟨lexer, hlexer, hexit, hstatements, ?_⟩
  intro output
  have hannounces : Announces s output.name ↔
      printedName? [.word "MESS".toList, .literal s] = some output.name := by
    rw [printedName?_eq_some_iff, iff_and_self]
    exact fun _ => rfl
  rw [discover, hstatements, hannounces]
  show output ∈ outputsOf (declarations [[.word "MESS".toList, .literal s]]) ↔ _
  rw [declarations_printing]
  obtain ⟨name, source⟩ := output
  cases printedName? [.word "MESS".toList, .literal s] with
  | none => simp [outputsOf]
  | some other =>
      show (⟨name, source⟩ : Output) ∈ [(⟨other, .console⟩ : Output)] ↔ _
      rw [List.mem_singleton, Output.mk.injEq, Option.some.injEq]
      exact ⟨fun ⟨hname, hsource⟩ => ⟨hsource, hname.symm⟩,
        fun ⟨hsource, hname⟩ => ⟨hname.symm, hsource⟩⟩

/-- A string with quotes at both ends and around line feeds. -/
theorem statements_printing_quotes :
    ∃ s : Text, s = ['\'', 'é', ';', '\n', '\'', '\'', '\r', '*', '\n', '=', '\''] ∧
      ¬ s.HasReturn ∧
      ∃ lexer, Gibiane.lexer = .ok lexer ∧
        (lexer.tokenizeDocument (printing s)).exit = lexer.start ∧
        statements (lexer.tokenizeDocument (printing s)) = [[.word "MESS".toList, .literal s]] ∧
        ∀ output, output ∈ discover (lexer.tokenizeDocument (printing s)) ↔
          output.source = .console ∧ Announces s output.name := by
  have hpair : ¬ Text.HasReturn
      ['\'', 'é', ';', '\n', '\'', '\'', '\r', '*', '\n', '=', '\''] := by simp
  exact ⟨_, rfl, hpair, statements_printing _ hpair⟩

end LineLexer.Gibiane
