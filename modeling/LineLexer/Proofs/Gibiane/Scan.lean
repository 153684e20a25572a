/-
Grouping a line piece by piece.

A line of a script is lexed and its tokens are grouped into statements.  `scan` does both
for what is left of a line, so each kind of piece has one equation: a quote, a character
between quotes, a sign, a blank, a word.  What a whole line adds to the statements follows
by rewriting with the equations of its pieces, from left to right.

A word at the end of a procedure takes the blank after it along.  That blank is dropped
like any other, so the equation for a word and a blank does not tell the two apart
(`scan_name_blank`).
-/
import LineLexer.Gibiane.Statement
import LineLexer.Proofs.Gibiane.Matches

namespace LineLexer.Gibiane

open Grouping

/-- Lexes and groups what is left of a line: what is found by then, and the state after it. -/
def scan (lexer : Lexer) (state : lexer.rules.StateId) (passed rest : Text) (g : Grouping) :
    Grouping × lexer.rules.StateId :=
  let (tokens, exit) := lexer.tokenizeRest state (.between passed rest)
  (tokens.foldl (addToken (passed ++ rest)) g, exit)

variable {lexer : Lexer} {state string header : lexer.rules.StateId}
  {passed read rest s w : Text} {c d : Char} {g : Grouping} {done : List Statement}
  {current : Statement} {body : Text}

/-! ### Steps -/

theorem scan_nil (state : lexer.rules.StateId) (passed : Text) (g : Grouping) :
    scan lexer state passed [] g = (g, state) := by
  simp [scan, Lexer.tokenizeRest_nil]

theorem scan_of_matched {meaning : Meaning lexer.rules.size} {closed : Captures}
    (hfirst : Meaning.first? (lexer.rules.state state).meanings (.between passed (read ++ rest)) =
      some (meaning, ⟨.between (passed ++ read) rest, closed⟩)) (hne : read ≠ []) :
    scan lexer state passed (read ++ rest) g =
      scan lexer (meaning.next.getD state) (passed ++ read) rest
        ((lexer.emit meaning.emit (.between passed (read ++ rest))
          ⟨.between (passed ++ read) rest, closed⟩).foldl
            (addToken (passed ++ (read ++ rest))) g) := by
  simp only [scan, Lexer.tokenizeRest_of_matched hfirst hne, List.foldl_append,
    List.append_assoc]

/-- A match that is one token adds that token. -/
theorem scan_of_whole {node : Node} {label : Label} {next : Option lexer.rules.StateId}
    {closed : Captures}
    (hfirst : Meaning.first? (lexer.rules.state state).meanings (.between passed (read ++ rest)) =
      some (⟨node, .whole label, next⟩, ⟨.between (passed ++ read) rest, closed⟩))
    (hne : read ≠ []) :
    scan lexer state passed (read ++ rest) g =
      scan lexer (next.getD state) (passed ++ read) rest
        (addToken (passed ++ (read ++ rest)) g
          ⟨lexer.resolve label read, passed.byteLength, read⟩) := by
  simp only [scan, Lexer.tokenizeRest_of_whole hfirst hne, List.foldl_cons, List.append_assoc]

theorem scan_of_unmatched
    (hfirst : Meaning.first? (lexer.rules.state state).meanings (.between passed (c :: rest)) =
      none) :
    scan lexer state passed (c :: rest) g =
      scan lexer state (passed ++ [c]) rest
        (((lexer.rules.state state).default.toList.map (⟨·, passed.byteLength, [c]⟩)).foldl
          (addToken (passed ++ c :: rest)) g) := by
  simp only [scan, Lexer.tokenizeRest_of_unmatched hfirst, List.foldl_append, List.append_assoc,
    List.singleton_append]

/-! ### Signs and blanks -/

/-- Two rules can begin with a blank, and both ask for the start of a line. -/
theorem openings_asciiSpace {n : Nat} (string header : Fin n) :
    Meaning.openings .asciiSpace (Form.start string header) =
      [⟨Form.comment, .whole (.fixed .comment), none⟩,
        ⟨Form.dotted, .groups dottedName, none⟩] := rfl

section Signs

variable (hformed : Formed lexer.rules string header)

include hformed

/-- A character with which only one rule can begin is read by that rule. -/
theorem scan_of_only (set : CharSet) {node : Node} {label : Label}
    {next : Option lexer.rules.StateId}
    (hopenings : Meaning.openings set (Form.start string header) = [⟨node, .whole label, next⟩])
    (hc : set.contains c = true)
    (hlead : node.Leads (.between passed (c :: rest)) [] (.between (passed ++ [c]) rest)) :
    scan lexer lexer.start passed (c :: rest) g =
      scan lexer (next.getD lexer.start) (passed ++ [c]) rest
        (addToken (passed ++ c :: rest) g ⟨lexer.resolve label [c], passed.byteLength, [c]⟩) := by
  have hfirst : Meaning.first? (lexer.rules.state lexer.start).meanings
      (.between passed ([c] ++ rest)) =
      some (⟨node, .whole label, next⟩, ⟨.between (passed ++ [c]) rest, []⟩) := by
    rw [Lexer.start, hformed.startRules,
      Meaning.first?_openings set (by rintro _ ⟨⟩; exact hc), hopenings]
    exact Meaning.first?_cons_of_matchAt? (Node.matchAt?_of_leads hlead)
  exact scan_of_whole hfirst (by simp)

/-- A character that no rule matches is dropped. -/
theorem scan_of_none (set : CharSet) (hc : set.contains c = true)
    (hnone : Meaning.first? (Meaning.openings set (Form.start string header))
      (.between passed (c :: rest)) = none) :
    scan lexer lexer.start passed (c :: rest) g =
      scan lexer lexer.start (passed ++ [c]) rest g := by
  have hfirst : Meaning.first? (lexer.rules.state lexer.start).meanings
      (.between passed (c :: rest)) = none := by
    rw [Lexer.start, hformed.startRules,
      Meaning.first?_openings set (by rintro _ ⟨⟩; exact hc), hnone]
  rw [scan_of_unmatched hfirst, Lexer.start, hformed.startDefault]
  rfl

/-- A semicolon ends the statement. -/
theorem scan_semicolon :
    scan lexer lexer.start passed (';' :: rest) ⟨done, current, none⟩ =
      scan lexer lexer.start (passed ++ [';']) rest (endStatement ⟨done, current, none⟩) :=
  scan_of_only hformed (Form.oneOf [';']) rfl (by decide) (Node.Leads.chars passed (by decide))

/-- A bracket that opens is a symbol. -/
theorem scan_leftParen :
    scan lexer lexer.start passed ('(' :: rest) ⟨done, current, none⟩ =
      scan lexer lexer.start (passed ++ ['(']) rest ⟨done, current ++ [.symbol ['(']], none⟩ :=
  scan_of_only hformed (Form.oneOf ['(']) rfl (by decide) (Node.Leads.chars passed (by decide))

/-- A bracket that closes is a symbol. -/
theorem scan_rightParen :
    scan lexer lexer.start passed (')' :: rest) ⟨done, current, none⟩ =
      scan lexer lexer.start (passed ++ [')']) rest ⟨done, current ++ [.symbol [')']], none⟩ :=
  scan_of_only hformed (Form.oneOf [')']) rfl (by decide) (Node.Leads.chars passed (by decide))

/-- A sign of equality and a dot are operators. -/
theorem scan_sign (hc : c ∈ ['=', '.']) :
    scan lexer lexer.start passed (c :: rest) ⟨done, current, none⟩ =
      scan lexer lexer.start (passed ++ [c]) rest ⟨done, current ++ [.symbol [c]], none⟩ := by
  rw [scan_of_only hformed (Form.oneOf ['=', '.']) rfl (oneOf_contains.mpr hc)
    (leads_operator_sign hc)]
  rcases List.mem_cons.mp hc with rfl | hc
  · rfl
  · obtain rfl := List.mem_singleton.mp hc
    rfl

/-- A blank is dropped, except at the start of a line. -/
theorem scan_space (hpassed : passed ≠ []) (hc : CharSet.asciiSpace.contains c = true) :
    scan lexer lexer.start passed (c :: rest) g =
      scan lexer lexer.start (passed ++ [c]) rest g := by
  have hbefore : (Cursor.between passed (c :: rest)).before ≠ none := by
    simpa using hpassed
  refine scan_of_none hformed .asciiSpace hc ?_
  rw [openings_asciiSpace, Meaning.first?_cons_of_none (Node.matchAt?_eq_none_of_before hbefore),
    Meaning.first?_cons_of_none (Node.matchAt?_eq_none_of_before hbefore), Meaning.first?_nil]

/-- So are all blanks of a run. -/
theorem scan_spaces (hpassed : passed ≠ []) (hs : Spaces s) :
    scan lexer lexer.start passed (s ++ rest) g = scan lexer lexer.start (passed ++ s) rest g := by
  induction s generalizing passed with
  | nil => rw [List.nil_append, List.append_nil]
  | cons c s ih =>
      rw [List.cons_append, scan_space hformed hpassed (hs c List.mem_cons_self),
        ih (by simp) fun d hd => hs d (List.mem_cons_of_mem _ hd)]
      simp

theorem scan_blank (hpassed : passed ≠ []) :
    scan lexer lexer.start passed (' ' :: rest) g =
      scan lexer lexer.start (passed ++ [' ']) rest g :=
  scan_space hformed hpassed rfl

/-- The at sign of a call is dropped; the word after it remembers it. -/
theorem scan_at :
    scan lexer lexer.start passed ('@' :: rest) g =
      scan lexer lexer.start (passed ++ ['@']) rest g :=
  scan_of_none hformed (Form.oneOf ['@']) (by decide) rfl

end Signs

/-! ### Strings -/

section Strings

variable (hformed : Formed lexer.rules string header)

include hformed

/-- A quote opens a string. -/
theorem scan_quote :
    scan lexer lexer.start passed ('\'' :: rest) ⟨done, current, none⟩ =
      scan lexer string (passed ++ ['\'']) rest ⟨done, current, some []⟩ :=
  scan_of_only hformed (Form.oneOf ['\'']) rfl (by decide) (Node.Leads.chars passed (by decide))

/-- No rule of a string begins with another character than a quote. -/
theorem first?_inside (hc : c ≠ '\'') :
    Meaning.first? (lexer.rules.state string).meanings (.between passed (c :: rest)) = none := by
  have hstarts : ∀ d ∈ (c :: rest).head?, (Form.oneOf ['\'']).contains d = false := by
    rintro _ ⟨⟩
    rw [← Bool.not_eq_true, oneOf_contains, List.mem_singleton]
    exact hc
  rw [hformed.stringRules, Form.string,
    Meaning.first?_cons_of_none (Node.matchAt?_eq_none_of_starts rfl hstarts),
    Meaning.first?_cons_of_none (Node.matchAt?_eq_none_of_starts rfl hstarts)]
  rfl

/-- Two quotes are an escape. -/
theorem first?_escape (passed rest : Text) :
    Meaning.first? (lexer.rules.state string).meanings
        (.between passed (['\'', '\''] ++ rest)) =
      some (⟨.seq (.chars (Form.oneOf ['\''])) (.chars (Form.oneOf ['\''])),
        .whole (.fixed .escape), none⟩, ⟨.between (passed ++ ['\'', '\'']) rest, []⟩) := by
  rw [hformed.stringRules, Form.string]
  have hquote : (Form.oneOf ['\'']).contains '\'' = true := by decide
  have hlead : (Node.chars (Form.oneOf ['\''])).Leads (.between passed ('\'' :: '\'' :: rest)) []
      (.between (passed ++ ['\'']) ('\'' :: rest)) := Node.Leads.chars passed hquote
  have hpair := hlead.seq (Node.Leads.chars _ hquote)
  rw [List.append_assoc] at hpair
  exact Meaning.first?_cons_of_matchAt? (Node.matchAt?_of_leads hpair)

/-- One quote leads back to the start state. -/
theorem first?_close (hrest : rest.head? ≠ some '\'') :
    Meaning.first? (lexer.rules.state string).meanings (.between passed (['\''] ++ rest)) =
      some (⟨.chars (Form.oneOf ['\'']), .whole (.fixed .string), some lexer.start⟩,
        ⟨.between (passed ++ ['\'']) rest, []⟩) := by
  have hescape : (Node.seq (.chars (Form.oneOf ['\''])) (.chars (Form.oneOf ['\'']))).matchAt?
      (.between passed ('\'' :: rest)) = none := by
    apply Node.matchAt?_eq_none_of_not_reads
    intro read closed stop h
    cases h with
    | seq hfirst hsecond =>
        cases hfirst with
        | chars hquote _ =>
            cases hsecond with
            | chars hnext hmem =>
                obtain ⟨-, rfl⟩ := List.cons.inj hquote
                rw [Cursor.rest_pass] at hnext
                rw [hnext, List.mem_singleton.mp (oneOf_contains.mp hmem)] at hrest
                exact hrest rfl
  rw [hformed.stringRules, Form.string, List.singleton_append,
    Meaning.first?_cons_of_none hescape]
  exact Meaning.first?_cons_of_matchAt?
    (Node.matchAt?_of_leads (Node.Leads.chars passed (by decide)))

/-- A character between quotes belongs to the string. -/
theorem scan_inside (hc : c ≠ '\'') :
    scan lexer string passed (c :: rest) ⟨done, current, some body⟩ =
      scan lexer string (passed ++ [c]) rest ⟨done, current, some (body ++ [c])⟩ := by
  rw [scan_of_unmatched (first?_inside hformed hc), hformed.stringDefault]
  simp [addToken, addInside, hc]

/-- A text without quotes is read into the string as it is. -/
theorem scan_inside_text (text : Text) (htext : '\'' ∉ text) :
    scan lexer string passed (text ++ rest) ⟨done, current, some body⟩ =
      scan lexer string (passed ++ text) rest ⟨done, current, some (body ++ text)⟩ := by
  induction text generalizing passed body with
  | nil => simp
  | cons c text ih =>
      obtain ⟨hc, hmore⟩ : c ≠ '\'' ∧ '\'' ∉ text := by
        simpa [eq_comm] using htext
      rw [List.cons_append, scan_inside hformed hc, ih hmore]
      simp

/-- A quote that no other follows closes the string. -/
theorem scan_close (hrest : rest.head? ≠ some '\'') :
    scan lexer string passed ('\'' :: rest) ⟨done, current, some body⟩ =
      scan lexer lexer.start (passed ++ ['\'']) rest
        ⟨done, current ++ [.literal body], none⟩ :=
  scan_of_whole (first?_close hformed hrest) (by simp)

/-- **A text between quotes is one literal**, if it holds no quote. -/
theorem scan_literal (text : Text) (htext : '\'' ∉ text) (hrest : rest.head? ≠ some '\'') :
    scan lexer lexer.start passed ('\'' :: (text ++ '\'' :: rest)) ⟨done, current, none⟩ =
      scan lexer lexer.start (passed ++ ['\''] ++ text ++ ['\'']) rest
        ⟨done, current ++ [.literal text], none⟩ := by
  rw [scan_quote hformed, scan_inside_text hformed text htext, scan_close hformed hrest,
    List.nil_append]

end Strings

/-! ### Words -/

/-- A word with the at sign of a call before it, which no rule matches. -/
def marked (passed w : Text) : Text := if passed.getLast? = some '@' then '@' :: w else w

theorem wordAt_eq (passed w rest : Text) (category : Category) :
    wordAt (passed ++ rest) ⟨category, passed.byteLength, w⟩ = marked passed w := by
  simp [wordAt, marked, Text.charBefore?, Text.splitBytes?_append]

/-- Tokens of these categories are words of a statement. -/
def plainCategories : List Category := .identifier :: .numeric :: wordCategories

theorem addToken_word {category : Category} (h : category ∈ plainCategories) :
    addToken (passed ++ rest) ⟨done, current, none⟩ ⟨category, passed.byteLength, w⟩ =
      ⟨done, current ++ [.word (marked passed w)], none⟩ := by
  simp only [plainCategories, wordCategories, List.mem_cons, List.not_mem_nil, or_false] at h
  rcases h with rfl | rfl | rfl | rfl | rfl | rfl <;>
    simp [addToken, addOutside, itemsOf, push, wordAt_eq]

theorem Spaces.allBlank (hs : Spaces s) : s.allBlank = true := by
  refine List.all_eq_true.mpr fun c hc => ?_
  have hcode := hs c hc
  simp [CharSet.asciiSpace, CharSet.ofPairs, CharSet.contains, CharSet.containsCode,
    CharRange.contains] at hcode
  simp [isBlank, blankRanges]
  omega

theorem addToken_spaces (line : Text) (offset : Nat) (hs : Spaces s) :
    addToken line ⟨done, current, none⟩ ⟨.text, offset, s⟩ = ⟨done, current, none⟩ := by
  simp [addToken, addOutside, itemsOf, push, Text.trim_of_allBlank hs.allBlank]

/-- A variable at the start of its line is a word. -/
theorem addToken_var {line tail : Text} (hw : WholeWord w tail) :
    addToken line ⟨done, current, none⟩ ⟨.var, 0, w⟩ =
      ⟨done, current ++ [.word w], none⟩ := by
  have hlast : w.getLast? ≠ some '.' := by
    intro h
    have hword := hw.chars '.' (List.mem_of_getLast? h)
    exact absurd hword (by decide)
  simp [addToken, addOutside, itemsOf, push, hlast, wordAt, Text.charBefore?, Text.splitBytes?]

/-- A variable with a dot is a word and the dot, whatever blanks are around it. -/
theorem addToken_dotted {line i tail : Text} (hw : WholeWord w tail) (hi : Spaces i)
    (hs : Spaces s) :
    addToken line ⟨done, current, none⟩ ⟨.var, 0, i ++ w ++ s ++ ['.']⟩ =
      ⟨done, current ++ [.word w, .symbol ['.']], none⟩ := by
  have htrim : Text.trim (i ++ w ++ s) = w :=
    Text.trim_between hi.allBlank (fun c hc => isBlank_of_isWordChar (hw.chars c hc)) hw.ne_nil
      hs.allBlank
  have hlast : (i ++ w ++ s ++ ['.']).getLast? = some '.' := List.getLast?_concat
  have hdrop : (i ++ w ++ s ++ ['.']).dropLast = i ++ w ++ s := List.dropLast_concat
  simp only [addToken, addOutside, itemsOf, push, if_pos hlast, hdrop, htrim]

/-- A name and a dot are read together at the start of a line, if the rule for them is the first
that matches; there may be one blank before and after the name. -/
theorem scan_of_dotted {i : Text} (hname : w.isIdentifier = true) (hi : Spaces i)
    (hione : i.length ≤ 1) (hs : Spaces s) (hsone : s.length ≤ 1)
    (hfirst : ∀ found, Form.dotted.matchAt? (.between [] (i ++ w ++ s ++ ['.'] ++ rest)) =
        some found →
      Meaning.first? (lexer.rules.state lexer.start).meanings
        (.between [] (i ++ w ++ s ++ ['.'] ++ rest)) =
          some (⟨Form.dotted, .groups dottedName, none⟩, found)) :
    scan lexer lexer.start [] (i ++ w ++ s ++ ['.'] ++ rest) ⟨done, current, none⟩ =
      scan lexer lexer.start (i ++ w ++ s ++ ['.']) rest
        ⟨done, current ++ [.word w, .symbol ['.']], none⟩ := by
  have hw : WholeWord w (s ++ '.' :: rest) :=
    wholeWord_spaces hname hs (by rintro _ ⟨⟩; decide)
  have hscan := scan_of_matched (g := ⟨done, current, none⟩)
    (hfirst _ (Node.matchAt?_of_leads (leads_dotted hname hi hione hs hsone hw))) (by simp)
  have htokens : lexer.emit (.groups dottedName) (.between [] (i ++ w ++ s ++ ['.'] ++ rest))
      ⟨.between (i ++ w ++ s ++ ['.']) rest, [(1, .across [] (i ++ w ++ s ++ ['.']) rest)]⟩ =
      [⟨.var, 0, i ++ w ++ s ++ ['.']⟩] := by
    simp [Lexer.emit, dottedName, Match.group?, List.lookup_cons, Lexer.tokenOf, Lexer.resolve]
  rw [hscan, List.nil_append, htokens, List.foldl_cons, addToken_dotted hw hi hs]
  rfl

section Words

variable (hformed : Formed lexer.rules string header)

include hformed

/-- Digits are a number. -/
theorem scan_number {tail : Text} (hw : WholeWord w tail) (hdigits : ∀ c ∈ w, c.isDigit = true)
    (hdot : tail.head? ≠ some '.') (hpassed : passed.getLast? ≠ some '@') :
    scan lexer lexer.start passed (w ++ tail) ⟨done, current, none⟩ =
      scan lexer lexer.start (passed ++ w) tail ⟨done, current ++ [.word w], none⟩ := by
  have hopenings : Meaning.openings .asciiDigit (Form.start string header) =
      [⟨Form.number, .whole (.fixed .numeric), none⟩, ⟨Form.word, .whole .keyword, none⟩] := rfl
  have hhead : ∀ c ∈ (w ++ tail).head?, CharSet.asciiDigit.contains c = true := by
    intro c hc
    have hmem : c ∈ w := by
      obtain ⟨d, more, rfl⟩ := List.exists_cons_of_ne_nil hw.ne_nil
      obtain rfl := Option.some.inj hc
      exact List.mem_cons_self
    exact asciiDigit_contains (hdigits c hmem)
  have hfirst : Meaning.first? (lexer.rules.state lexer.start).meanings
      (.between passed (w ++ tail)) =
      some (⟨Form.number, .whole (.fixed .numeric), none⟩, ⟨.between (passed ++ w) tail, []⟩) := by
    rw [Lexer.start, hformed.startRules, Meaning.first?_openings .asciiDigit hhead, hopenings]
    exact Meaning.first?_cons_of_matchAt?
      (Node.matchAt?_of_leads (leads_number hw hdigits hdot))
  rw [scan_of_whole hfirst hw.ne_nil, addToken_word (by simp [Lexer.resolve, plainCategories]),
    marked, if_neg hpassed]
  rfl

/-- Eight rules can begin with the first letter of a name. -/
theorem first?_name {tail : Text} (hname : w.isIdentifier = true) :
    Meaning.first? (lexer.rules.state lexer.start).meanings (.between passed (w ++ tail)) =
      Meaning.first? [
        ⟨Form.procedureStart, .groups procedureHeader, some header⟩,
        ⟨Form.loopStart, .groups loopHeader, none⟩,
        ⟨Form.loopStop, .groups loopEnd, none⟩,
        ⟨Form.procedureStop, .groups procedureEnd, none⟩,
        ⟨Form.assigned, .groups assignment, none⟩,
        ⟨Form.dotted, .groups dottedName, none⟩,
        ⟨Form.operator, .whole (.fixed .operator), none⟩,
        ⟨Form.word, .whole .keyword, none⟩] (.between passed (w ++ tail)) := by
  obtain ⟨c, more, rfl, hc, -⟩ := exists_of_isIdentifier hname
  rw [Lexer.start, hformed.startRules,
    Meaning.first?_openings Form.nameStart (by rintro _ ⟨⟩; exact hc)]
  rfl

/-- Four of them are left where no header matches. -/
theorem first?_name_of_headers {tail : Text} (hname : w.isIdentifier = true)
    (hheaders : ∀ node ∈ headers, node.matchAt? (.between passed (w ++ tail)) = none) :
    Meaning.first? (lexer.rules.state lexer.start).meanings (.between passed (w ++ tail)) =
      Meaning.first? [
        ⟨Form.assigned, .groups assignment, none⟩,
        ⟨Form.dotted, .groups dottedName, none⟩,
        ⟨Form.operator, .whole (.fixed .operator), none⟩,
        ⟨Form.word, .whole .keyword, none⟩] (.between passed (w ++ tail)) := by
  rw [first?_name hformed hname,
    Meaning.first?_cons_of_none (hheaders _ (by simp [headers])),
    Meaning.first?_cons_of_none (hheaders _ (by simp [headers])),
    Meaning.first?_cons_of_none (hheaders _ (by simp [headers])),
    Meaning.first?_cons_of_none (hheaders _ (by simp [headers]))]

/-- A name is looked up where no header, assignment or dotted name begins with it. -/
theorem first?_word {tail : Text} (hname : IsName w) (hw : WholeWord w tail)
    (hbefore : ∀ c ∈ passed.getLast?, isWordChar c = false)
    (hheaders : ∀ node ∈ headers, node.matchAt? (.between passed (w ++ tail)) = none)
    (hassigned : Form.assigned.matchAt? (.between passed (w ++ tail)) = none)
    (hdotted : Form.dotted.matchAt? (.between passed (w ++ tail)) = none) :
    Meaning.first? (lexer.rules.state lexer.start).meanings (.between passed (w ++ tail)) =
      some (⟨Form.word, .whole .keyword, none⟩, ⟨.between (passed ++ w) tail, []⟩) := by
  have hoperator : Form.operator.matchAt? (.between passed (w ++ tail)) = none :=
    Node.matchAt?_eq_none_of_not_reads fun _ _ _ => not_reads_operator hname hw
  rw [first?_name_of_headers hformed hname.identifier hheaders,
    Meaning.first?_cons_of_none hassigned, Meaning.first?_cons_of_none hdotted,
    Meaning.first?_cons_of_none hoperator]
  exact Meaning.first?_cons_of_matchAt? (Node.matchAt?_of_leads (leads_word hw hbefore))

/-- **A name is one word**, where no header, assignment or dotted name begins with it. -/
theorem scan_word (hkeywords : KeywordTable.ofWords keywordLists = .ok lexer.keywords)
    {tail : Text} (hname : IsName w) (hw : WholeWord w tail)
    (hbefore : ∀ c ∈ passed.getLast?, isWordChar c = false)
    (hheaders : ∀ node ∈ headers, node.matchAt? (.between passed (w ++ tail)) = none)
    (hassigned : Form.assigned.matchAt? (.between passed (w ++ tail)) = none)
    (hdotted : Form.dotted.matchAt? (.between passed (w ++ tail)) = none) :
    scan lexer lexer.start passed (w ++ tail) ⟨done, current, none⟩ =
      scan lexer lexer.start (passed ++ w) tail
        ⟨done, current ++ [.word (marked passed w)], none⟩ := by
  have hfirst := first?_word hformed hname hw hbefore hheaders hassigned hdotted
  have hcategory : lexer.resolve .keyword w ∈ plainCategories := by
    show (lexer.keywords.classify w).getD .identifier ∈ plainCategories
    cases hclassify : lexer.keywords.classify w with
    | none => simp [plainCategories]
    | some category =>
        have hmem := mem_wordCategories hkeywords hclassify
        simp [plainCategories, hmem]
  rw [scan_of_whole hfirst hw.ne_nil, addToken_word hcategory]
  rfl

/-- The end of a procedure takes the blank after its word along. -/
theorem scan_endsProcedure (hname : IsName w) (hc : CharSet.asciiSpace.contains c = true)
    (h : EndsProcedure passed w c rest) :
    scan lexer lexer.start passed (w ++ c :: rest) ⟨done, current, none⟩ =
      scan lexer lexer.start (passed ++ w ++ [c]) rest
        ⟨done, current ++ [.word (marked passed w)], none⟩ := by
  have hw : WholeWord w (c :: rest) :=
    wholeWord_of_isIdentifier hname.identifier (by rintro _ ⟨⟩; exact isWordChar_of_asciiSpace hc)
  have hfirst : Meaning.first? (lexer.rules.state lexer.start).meanings
      (.between passed (w ++ c :: rest)) =
      some (⟨Form.procedureStop, .groups procedureEnd, none⟩,
        ⟨.between (passed ++ w ++ [c]) rest,
          [(2, .across (passed ++ w) [c] rest), (1, .across passed w (c :: rest))]⟩) := by
    rw [first?_name hformed hname.identifier, Meaning.first?_cons_of_none (h.others _ (by simp)),
      Meaning.first?_cons_of_none (h.others _ (by simp)),
      Meaning.first?_cons_of_none (h.others _ (by simp))]
    exact Meaning.first?_cons_of_matchAt? h.found
  have hline : w ++ c :: rest = (w ++ [c]) ++ rest := by simp
  have hpassed : passed ++ w ++ [c] = passed ++ (w ++ [c]) := by simp
  rw [hline, hpassed] at hfirst ⊢
  rw [scan_of_matched hfirst (by simp)]
  have htokens : lexer.emit (.groups procedureEnd) (.between passed (w ++ [c] ++ rest))
      ⟨.between (passed ++ (w ++ [c])) rest,
        [(2, .across (passed ++ w) [c] rest), (1, .across passed w (c :: rest))]⟩ =
      [⟨.controlKeyword, passed.byteLength, w⟩, ⟨.text, (passed ++ w).byteLength, [c]⟩] := by
    simp [Lexer.emit, procedureEnd, Match.group?, List.lookup_cons, Lexer.tokenOf, Lexer.resolve,
      hw.ne_nil]
  rw [htokens, List.foldl_cons, addToken_word (by simp [plainCategories, wordCategories]),
    List.foldl_cons, addToken_spaces _ _ (spaces_singleton.mpr hc)]
  rfl

/-- A name that no blank follows is one word. -/
theorem scan_name_stop (hkeywords : KeywordTable.ofWords keywordLists = .ok lexer.keywords)
    (hname : IsName w) (hbefore : ∀ c ∈ passed.getLast?, isWordChar c = false)
    (hword : isWordChar d = false) (hd : CharSet.asciiSpace.contains d = false)
    (hsign : d ∉ ['=', '.']) :
    scan lexer lexer.start passed (w ++ d :: rest) ⟨done, current, none⟩ =
      scan lexer lexer.start (passed ++ w) (d :: rest)
        ⟨done, current ++ [.word (marked passed w)], none⟩ := by
  have hw : WholeWord w (d :: rest) :=
    wholeWord_of_isIdentifier hname.identifier (by rintro _ ⟨⟩; exact hword)
  obtain ⟨hequal, hdot⟩ : d ≠ '=' ∧ d ≠ '.' := by simpa using hsign
  have hblank : ∀ c ∈ (d :: rest).head?, CharSet.asciiSpace.contains c = false := by
    rintro _ ⟨⟩
    exact hd
  exact scan_word hformed hkeywords hname hw hbefore
    (headers_of_no_blank hw hblank)
    (matchAt?_assigned (s := []) hw spaces_nil hblank (by simpa using hequal))
    (matchAt?_dotted (s := []) hname.identifier hw spaces_nil hblank (by simpa using hdot))

/-- A name that begins no header is one word, and the blank after it is dropped. -/
theorem scan_word_blank (hkeywords : KeywordTable.ofWords keywordLists = .ok lexer.keywords)
    (hname : IsName w) (hbefore : ∀ c ∈ passed.getLast?, isWordChar c = false)
    (hheaders : ∀ node ∈ headers,
      node.matchAt? (.between passed (w ++ ' ' :: d :: rest)) = none)
    (hd : CharSet.asciiSpace.contains d = false) (hsign : d ∉ ['=', '.']) :
    scan lexer lexer.start passed (w ++ ' ' :: d :: rest) ⟨done, current, none⟩ =
      scan lexer lexer.start (passed ++ w ++ [' ']) (d :: rest)
        ⟨done, current ++ [.word (marked passed w)], none⟩ := by
  have hw : WholeWord w (' ' :: d :: rest) :=
    wholeWord_blank hname.identifier
  obtain ⟨hequal, hdot⟩ : d ≠ '=' ∧ d ≠ '.' := by simpa using hsign
  have hblank : ∀ c ∈ (d :: rest).head?, CharSet.asciiSpace.contains c = false := by
    rintro _ ⟨⟩
    exact hd
  rw [scan_word hformed hkeywords hname hw hbefore hheaders
      (matchAt?_assigned (s := [' ']) hw spaces_blank hblank (by simpa using hequal))
      (matchAt?_dotted (s := [' ']) hname.identifier hw spaces_blank hblank
        (by simpa using hdot)),
    scan_blank hformed (by simp [hw.ne_nil])]

/-- **A name and the blank after it are one word**, wherever they do not begin an assignment or a
dotted name. -/
theorem scan_name_blank (hkeywords : KeywordTable.ofWords keywordLists = .ok lexer.keywords)
    (hname : IsName w) (hbefore : ∀ c ∈ passed.getLast?, isWordChar c = false)
    (hd : CharSet.asciiSpace.contains d = false) (hnext : Form.nameStart.contains d = false)
    (hsign : d ∉ [';', '=', '.']) :
    scan lexer lexer.start passed (w ++ ' ' :: d :: rest) ⟨done, current, none⟩ =
      scan lexer lexer.start (passed ++ w ++ [' ']) (d :: rest)
        ⟨done, current ++ [.word (marked passed w)], none⟩ := by
  have hw : WholeWord w (' ' :: d :: rest) :=
    wholeWord_blank hname.identifier
  obtain ⟨hsemicolon, hsign⟩ : d ≠ ';' ∧ d ∉ ['=', '.'] := by simpa using hsign
  rcases headers_of_blank passed hw hd hnext hsemicolon with hheaders | hends
  · exact scan_word_blank hformed hkeywords hname hbefore hheaders hd hsign
  · exact scan_endsProcedure hformed hname rfl hends

/-- A name, blanks and the sign begin an assignment, where no header begins with the name. -/
theorem scan_of_assigned (hname : w.isIdentifier = true) (hs : Spaces s)
    (hheaders : ∀ node ∈ headers, node.matchAt? (.between [] (w ++ (s ++ '=' :: rest))) = none) :
    scan lexer lexer.start [] (w ++ (s ++ '=' :: rest)) ⟨done, current, none⟩ =
      scan lexer lexer.start (w ++ s ++ ['=']) rest
        ⟨done, current ++ [.word w, .symbol ['=']], none⟩ := by
  have hw : WholeWord w (s ++ '=' :: rest) :=
    wholeWord_spaces hname hs (by rintro _ ⟨⟩; decide)
  have hline : w ++ (s ++ '=' :: rest) = (w ++ s ++ ['=']) ++ rest := by simp
  have hfirst : Meaning.first? (lexer.rules.state lexer.start).meanings
      (.between [] ((w ++ s ++ ['=']) ++ rest)) =
      some (⟨Form.assigned, .groups assignment, none⟩,
        ⟨.between ([] ++ (w ++ s ++ ['='])) rest,
          (3, .across (w ++ s) ['='] rest) :: blankGroup w s ('=' :: rest) ++
            [(1, .across [] w (s ++ '=' :: rest))]⟩) := by
    rw [← hline, first?_name_of_headers hformed hname hheaders]
    exact Meaning.first?_cons_of_matchAt? (Node.matchAt?_of_leads (leads_assigned rest hname hs hw))
  rw [hline, scan_of_matched hfirst (by simp)]
  have htokens : lexer.emit (.groups assignment) (.between [] ((w ++ s ++ ['=']) ++ rest))
      ⟨.between ([] ++ (w ++ s ++ ['='])) rest,
        (3, .across (w ++ s) ['='] rest) :: blankGroup w s ('=' :: rest) ++
          [(1, .across [] w (s ++ '=' :: rest))]⟩ =
      ⟨.var, 0, w⟩ :: ((if s = [] then [] else [⟨.text, w.byteLength, s⟩]) ++
        [⟨.operator, (w ++ s).byteLength, ['=']⟩]) := by
    by_cases hempty : s = [] <;>
      simp [Lexer.emit, assignment, Match.group?, List.lookup_cons, Lexer.tokenOf, Lexer.resolve,
        hw.ne_nil, blankGroup, hempty]
  have hblanks : (if s = [] then [] else [⟨.text, w.byteLength, s⟩]).foldl
      (addToken ([] ++ ((w ++ s ++ ['=']) ++ rest))) ⟨done, current ++ [.word w], none⟩ =
        ⟨done, current ++ [.word w], none⟩ := by
    split
    · rfl
    · exact addToken_spaces _ _ hs
  have hsign : Text.trim ['='] = ['='] := by decide
  rw [htokens, List.foldl_cons, addToken_var hw, List.foldl_append, hblanks]
  simp [addToken, addOutside, itemsOf, push, hsign]

/-- **A name, a blank and the sign** begin an assignment at the start of a line. -/
theorem scan_assigned (hname : IsName w) :
    scan lexer lexer.start [] (w ++ ' ' :: '=' :: rest) ⟨done, current, none⟩ =
      scan lexer lexer.start (w ++ [' ', '=']) rest
        ⟨done, current ++ [.word w, .symbol ['=']], none⟩ := by
  have hw : WholeWord w (' ' :: '=' :: rest) :=
    wholeWord_blank hname.identifier
  rcases headers_of_blank [] hw (by decide) (by decide) (by decide) with
    hheaders | hends
  · have hline : w ++ ' ' :: '=' :: rest = w ++ ([' '] ++ '=' :: rest) := rfl
    rw [hline, scan_of_assigned hformed hname.identifier spaces_blank hheaders]
    simp
  · rw [scan_endsProcedure hformed hname rfl hends, scan_sign hformed (by decide)]
    simp [marked]

/-- **A name and a dot** are a name and a dot at the start of a line, with or without a blank
between them. -/
theorem scan_dotted (hname : IsName w) (hs : Spaces s) (hsone : s.length ≤ 1) :
    scan lexer lexer.start [] (w ++ (s ++ '.' :: rest)) ⟨done, current, none⟩ =
      scan lexer lexer.start (w ++ s ++ ['.']) rest
        ⟨done, current ++ [.word w, .symbol ['.']], none⟩ := by
  have hw : WholeWord w (s ++ '.' :: rest) :=
    wholeWord_spaces hname.identifier hs (by rintro _ ⟨⟩; decide)
  have hassigned : Form.assigned.matchAt? (.between [] (w ++ (s ++ '.' :: rest))) = none :=
    matchAt?_assigned hw hs (by rintro _ ⟨⟩; decide) (by simp)
  have hscan : (∀ node ∈ headers, node.matchAt? (.between [] (w ++ (s ++ '.' :: rest))) = none) →
      scan lexer lexer.start [] (w ++ (s ++ '.' :: rest)) ⟨done, current, none⟩ =
        scan lexer lexer.start (w ++ s ++ ['.']) rest
          ⟨done, current ++ [.word w, .symbol ['.']], none⟩ := by
    intro hheaders
    have hline : w ++ (s ++ '.' :: rest) = [] ++ w ++ s ++ ['.'] ++ rest := by simp
    have hfirst := first?_name_of_headers hformed hname.identifier hheaders
    rw [Meaning.first?_cons_of_none hassigned, hline] at hfirst
    rw [hline]
    refine scan_of_dotted hname.identifier spaces_nil (by simp) hs hsone fun found hfound => ?_
    rw [hfirst]
    exact Meaning.first?_cons_of_matchAt? hfound
  cases s with
  | nil => exact hscan (headers_of_no_blank hw (by rintro _ ⟨⟩; decide))
  | cons b s =>
      obtain rfl : s = [] := List.length_eq_zero_iff.mp (by simpa using hsone)
      rcases headers_of_blank [] hw (by decide) (by decide) (by decide) with hheaders | hends
      · exact hscan hheaders
      · rw [List.cons_append, List.nil_append,
          scan_endsProcedure hformed hname (hs b List.mem_cons_self) hends,
          scan_sign hformed (by decide)]
        simp [marked]

end Words

end LineLexer.Gibiane
