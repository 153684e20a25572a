/-
Lines that are indented.

Two rules take a name together with the sign or the dot that comes after it, and they ask for
the start of a line.  Behind blanks the same name is a word and the sign an operator.  Grouping
makes the same items of both, so indentation changes the tokens of a line and not what the line
says (`scan_indented`).

Names that a header begins with are read by the rule for it in both places, and the end of a
procedure even takes a blank along that another rule would want for its dot, so the cases are
those of what comes after the name.  Left out are lines that begin with a star, which are comments
at the start of a line and hardly anywhere else, and those that begin with an operator that is a
word, which is a name only at the start of a line and only before a sign or a dot.
-/
import LineLexer.Proofs.Gibiane.Replaced
import LineLexer.Proofs.Gibiane.Unanchored
import Mathlib.Data.List.TakeWhile

namespace LineLexer.Gibiane

open Grouping

variable {lexer : Lexer} {string header : lexer.rules.StateId} {passed passed' rest i s t w : Text}
  {c : Char} {g : Grouping} {done : List Statement} {current : Statement} {indent body : Text}

/-! ### Texts behind blanks -/

/-- A line is a comment if it begins with a star, or with a blank and a star. -/
theorem matchAt?_comment (hindent : Spaces indent)
    (hbody : ∀ c ∈ body.head?, CharSet.asciiSpace.contains c = false)
    (hstar : body.head? ≠ some '*') :
    Form.comment.matchAt? (.between [] (indent ++ body)) = none := by
  refine Node.matchAt?_eq_none_of_not_reads fun read closed stop h => ?_
  cases h with
  | seq hlook h =>
      cases hlook
      obtain ⟨_, _, _, -, h, -⟩ := h.split .asciiSpace (by decide) (by decide) (by decide) hindent
        hbody
      obtain ⟨c, _, -, hrest, hc⟩ := h.exists_rest (by decide)
      rw [Cursor.rest_between] at hrest
      rw [hrest, List.mem_singleton.mp (oneOf_contains.mp hc)] at hstar
      exact hstar rfl

/-- A dotted name begins with a name. -/
theorem matchAt?_dotted_of_head (hindent : Spaces indent)
    (hbody : ∀ c ∈ body.head?, CharSet.asciiSpace.contains c = false)
    (hhead : ∀ c ∈ body.head?, Form.nameStart.contains c = false) :
    Form.dotted.matchAt? (.between [] (indent ++ body)) = none := by
  refine Node.matchAt?_eq_none_of_not_reads fun read closed stop h => ?_
  cases h with
  | seq hlook h =>
      cases hlook
      cases h with
      | group h =>
          obtain ⟨_, _, _, -, h, -⟩ := h.split .asciiSpace (by decide) (by decide) (by decide)
            hindent hbody
          exact Node.not_reads_of_starts (by decide) hhead h

/-- The rules for headers, which are tried first where a name begins. -/
def headings {n : Nat} (header : Fin n) : List (Meaning n) := [
  ⟨Form.procedureStart, .groups procedureHeader, some header⟩,
  ⟨Form.loopStart, .groups loopHeader, none⟩,
  ⟨Form.loopStop, .groups loopEnd, none⟩,
  ⟨Form.procedureStop, .groups procedureEnd, none⟩]

theorem headers_of_headings {n : Nat} {header : Fin n} {cur : Cursor}
    (h : Meaning.first? (headings header) cur = none) :
    ∀ node ∈ headers, node.matchAt? cur = none := by
  have hnodes : headers = (headings header).map Meaning.node := rfl
  rw [hnodes, List.forall_mem_map]
  exact Meaning.first?_eq_none_iff.mp h

/-- The characters with which no rule begins that asks for the start of a line. -/
def others : CharSet :=
  CharSet.all.diff ((CharSet.asciiSpace.union Form.nameStart).union (Form.oneOf ['*']))

theorem others_contains (hspace : CharSet.asciiSpace.contains c = false)
    (hname : Form.nameStart.contains c = false) (hstar : c ≠ '*') : others.contains c = true := by
  have hsign : (Form.oneOf ['*']).contains c = false := by
    rw [← Bool.not_eq_true, oneOf_contains, List.mem_singleton]
    exact hstar
  rw [others, CharSet.contains_diff, CharSet.contains_union, CharSet.contains_union, all_contains,
    hspace, hname, hsign]
  rfl

/-- A text that begins with a name is the name, the blanks after it, and what comes then. -/
theorem exists_name (hhead : ∃ c ∈ body.head?, Form.nameStart.contains c = true)
    (hoperator : ∀ operator ∈ Form.wordOperators,
      Text.eqIgnoreCase (body.takeWhile isWordChar) operator = false) :
    ∃ w s t, body = w ++ (s ++ t) ∧ IsName w ∧ WholeWord w (s ++ t) ∧
      Spaces s ∧ ∀ c ∈ t.head?, CharSet.asciiSpace.contains c = false := by
  obtain ⟨c, hc, hstart⟩ := hhead
  obtain ⟨more, rfl⟩ := List.head?_eq_some_iff.mp hc
  rw [nameStart_contains, Bool.and_eq_true, Bool.not_eq_true'] at hstart
  obtain ⟨hword, hdigit⟩ := hstart
  have hwhole := wholeWord_takeWhile hword more
  have hname : Text.isIdentifier ((c :: more).takeWhile isWordChar) = true := by
    rw [Text.isIdentifier, Bool.and_eq_true, Text.isWord_iff]
    refine ⟨⟨hwhole.ne_nil, hwhole.chars⟩, ?_⟩
    rw [List.takeWhile_cons_of_pos hword]
    simp [hdigit]
  generalize htail : (c :: more).dropWhile isWordChar = tail at hwhole
  refine ⟨(c :: more).takeWhile isWordChar, tail.takeWhile CharSet.asciiSpace.contains,
    tail.dropWhile CharSet.asciiSpace.contains, ?_, ⟨hname, hoperator⟩, ?_, ?_, ?_⟩
  · rw [List.takeWhile_append_dropWhile, ← htail, List.takeWhile_append_dropWhile]
  · rw [List.takeWhile_append_dropWhile]
    exact hwhole
  · exact fun d hd => List.mem_takeWhile_imp hd
  · exact fun d hd => not_of_mem_head?_dropWhile hd

/-! ### Lines behind blanks -/

section Scan

variable (hformed : Formed lexer.rules string header)

include hformed

/-- The blanks before a text are dropped, unless the text is a dotted name and takes one along. -/
theorem scan_indent (hindent : Spaces indent)
    (hbody : ∀ c ∈ body.head?, CharSet.asciiSpace.contains c = false)
    (hstar : body.head? ≠ some '*')
    (hdotted : Form.dotted.matchAt? (.between [] (indent ++ body)) = none) :
    scan lexer lexer.start [] (indent ++ body) g = scan lexer lexer.start indent body g := by
  have hcomment := matchAt?_comment hindent hbody hstar
  cases indent with
  | nil => rfl
  | cons b indent =>
      rw [List.cons_append] at hcomment hdotted ⊢
      rw [scan_of_none hformed .asciiSpace (hindent b List.mem_cons_self),
        scan_spaces hformed (by simp) fun c hc => hindent c (List.mem_cons_of_mem _ hc)]
      · rfl
      · rw [openings_asciiSpace, Meaning.first?_cons_of_none hcomment,
          Meaning.first?_cons_of_none hdotted, Meaning.first?_nil]

/-- Behind blanks a name is a word and the sign after it an operator, where no header begins with
the name. -/
theorem scan_word_sign (hkeywords : KeywordTable.ofWords keywordLists = .ok lexer.keywords)
    (hindent : Spaces indent) (hne : indent ≠ []) (hname : IsName w) (hs : Spaces s)
    (hc : c ∈ ['=', '.'])
    (hheaders : ∀ node ∈ headers,
      node.matchAt? (.between indent (w ++ (s ++ c :: rest))) = none) :
    scan lexer lexer.start indent (w ++ (s ++ c :: rest)) ⟨done, current, none⟩ =
      scan lexer lexer.start (indent ++ (w ++ s ++ [c])) rest
        ⟨done, current ++ [.word w, .symbol [c]], none⟩ := by
  have hbefore : (Cursor.between indent (w ++ (s ++ c :: rest))).before ≠ none := by
    simpa using hne
  have hw : WholeWord w (s ++ c :: rest) := by
    refine wholeWord_spaces hname.identifier hs ?_
    rintro _ ⟨⟩
    rcases List.mem_cons.mp hc with rfl | hc
    · decide
    · obtain rfl := List.mem_singleton.mp hc
      decide
  rw [scan_word hformed hkeywords hname hw (isWordChar_of_getLast?_spaces hindent) hheaders
      (Node.matchAt?_eq_none_of_before hbefore) (Node.matchAt?_eq_none_of_before hbefore),
    scan_spaces hformed (by simp [hne]) hs, scan_sign hformed hc, marked,
    if_neg (getLast?_spaces_ne_at hindent)]
  simp

/-- A name and a dot are a word and a dot behind blanks, with or without a blank between them. -/
theorem scan_word_dot (hkeywords : KeywordTable.ofWords keywordLists = .ok lexer.keywords)
    (hindent : Spaces indent) (hne : indent ≠ []) (hname : IsName w) (hs : Spaces s)
    (hsone : s.length ≤ 1) :
    scan lexer lexer.start indent (w ++ (s ++ '.' :: rest)) ⟨done, current, none⟩ =
      scan lexer lexer.start (indent ++ (w ++ s ++ ['.'])) rest
        ⟨done, current ++ [.word w, .symbol ['.']], none⟩ := by
  have hw : WholeWord w (s ++ '.' :: rest) :=
    wholeWord_spaces hname.identifier hs (by rintro _ ⟨⟩; decide)
  cases s with
  | nil =>
      exact scan_word_sign hformed hkeywords hindent hne hname hs (by decide)
        (headers_of_no_blank hw (by rintro _ ⟨⟩; decide))
  | cons b s =>
      obtain rfl : s = [] := List.length_eq_zero_iff.mp (by simpa using hsone)
      rcases headers_of_blank indent hw (by decide) (by decide) (by decide) with hheaders | hends
      · exact scan_word_sign hformed hkeywords hindent hne hname hs (by decide) hheaders
      · rw [List.cons_append, List.nil_append,
          scan_endsProcedure hformed hname (hs b List.mem_cons_self) hends,
          scan_sign hformed (by decide), marked, if_neg (getLast?_spaces_ne_at hindent)]
        simp

/-- **A name and a dot say the same behind blanks**, one of which the rule for them may take
along. -/
theorem scan_indented_dotted
    (hkeywords : KeywordTable.ofWords keywordLists = .ok lexer.keywords)
    (hindent : Spaces indent) (hname : IsName w) (hs : Spaces s) (hsone : s.length ≤ 1)
    (hbody : ∀ c ∈ (w ++ (s ++ '.' :: rest)).head?, CharSet.asciiSpace.contains c = false)
    (hstar : (w ++ (s ++ '.' :: rest)).head? ≠ some '*') :
    scan lexer lexer.start [] (indent ++ (w ++ (s ++ '.' :: rest))) ⟨done, current, none⟩ =
      scan lexer lexer.start [] (w ++ (s ++ '.' :: rest)) ⟨done, current, none⟩ := by
  rw [scan_dotted hformed hname hs hsone]
  by_cases hone : indent.length ≤ 1
  · cases indent with
    | nil => exact scan_dotted hformed hname hs hsone
    | cons b indent =>
        have hcomment := matchAt?_comment hindent hbody hstar
        have hline : b :: indent ++ (w ++ (s ++ '.' :: rest)) =
            b :: indent ++ w ++ s ++ ['.'] ++ rest := by simp
        rw [hline] at hcomment ⊢
        rw [scan_of_dotted hname.identifier hindent hone hs hsone]
        · exact scan_after _ _ _ (by simp)
        · intro found hfound
          rw [Lexer.start, hformed.startRules,
            Meaning.first?_openings .asciiSpace
              (by rintro _ ⟨⟩; exact hindent b List.mem_cons_self),
            openings_asciiSpace, Meaning.first?_cons_of_none hcomment]
          exact Meaning.first?_cons_of_matchAt? hfound
  · have hw : WholeWord w (s ++ '.' :: rest) :=
      wholeWord_spaces hname.identifier hs (by rintro _ ⟨⟩; decide)
    have hdotted :
        Form.dotted.matchAt? (.between [] (indent ++ (w ++ (s ++ '.' :: rest)))) = none :=
      Node.matchAt?_eq_none_of_not_reads fun _ _ _ h =>
        hone (of_reads_dotted hname.identifier hw hindent hs (by rintro _ ⟨⟩; decide) h).1
    have hne : indent ≠ [] := by
      rintro rfl
      exact hone (by simp)
    rw [scan_indent hformed hindent hbody hstar hdotted,
      scan_word_dot hformed hkeywords hindent hne hname hs hsone]
    exact scan_after indent [] _ (by simp)

theorem first?_name_of_heading {tail : Text} {taken : Meaning lexer.rules.size × Match}
    (hname : w.isIdentifier = true)
    (htaken : Meaning.first? (headings header) (.between passed (w ++ tail)) = some taken) :
    Meaning.first? (lexer.rules.state lexer.start).meanings (.between passed (w ++ tail)) =
      some taken := by
  have hfirst := Meaning.first?_append (headings header) [
    ⟨Form.assigned, .groups assignment, none⟩, ⟨Form.dotted, .groups dottedName, none⟩,
    ⟨Form.operator, .whole (.fixed .operator), none⟩, ⟨Form.word, .whole .keyword, none⟩]
    (.between passed (w ++ tail))
  rw [htaken] at hfirst
  exact (first?_name hformed hname).trans hfirst

/-- **A name that no dot follows says the same behind blanks.** -/
theorem scan_indented_name
    (hkeywords : KeywordTable.ofWords keywordLists = .ok lexer.keywords)
    (hindent : Spaces indent) (hne : indent ≠ []) (hname : IsName w)
    (hw : WholeWord w (s ++ t)) (hs : Spaces s)
    (ht : ∀ c ∈ t.head?, CharSet.asciiSpace.contains c = false)
    (hdot : ¬ (s.length ≤ 1 ∧ t.head? = some '.')) :
    scan lexer lexer.start [] (w ++ (s ++ t)) ⟨done, current, none⟩ =
      scan lexer lexer.start indent (w ++ (s ++ t)) ⟨done, current, none⟩ := by
  have hunanchored : ∀ meaning ∈ headings header, Unanchored meaning.node :=
    List.forall_mem_map.mp (show ∀ node ∈ headers, Unanchored node by decide)
  have htaken := Likeness.first?_alike
    (fun meaning hmeaning => Likeness.keeps_shifted (hunanchored meaning hmeaning).2)
    (alike_indented hindent (w ++ (s ++ t)))
  generalize htook : Meaning.first? (headings header) (.between [] (w ++ (s ++ t))) = taken,
    htook' : Meaning.first? (headings header) (.between indent (w ++ (s ++ t))) = taken' at htaken
  cases htaken with
  | some _ =>
      refine scan_unanchored hformed hindent hunanchored ?_
      simp only [List.forall_mem_cons, List.not_mem_nil, false_imp_iff, implies_true, and_true]
      exact ⟨by rw [first?_name_of_heading hformed hname.identifier htook, htook],
        by rw [first?_name_of_heading hformed hname.identifier htook', htook']⟩
  | none =>
      have hheaders := headers_of_headings htook
      have hheaders' := headers_of_headings htook'
      by_cases hequal : t.head? = some '='
      · obtain ⟨rest, rfl⟩ : ∃ rest, t = '=' :: rest := List.head?_eq_some_iff.mp hequal
        rw [scan_of_assigned hformed hname.identifier hs hheaders,
          scan_word_sign hformed hkeywords hindent hne hname hs (by decide) hheaders']
        exact scan_after [] indent _ (by simp)
      · have hbefore : (Cursor.between indent (w ++ (s ++ t))).before ≠ none := by
          simpa using hne
        have hdotted : Form.dotted.matchAt? (.between [] (w ++ (s ++ t))) = none :=
          Node.matchAt?_eq_none_of_not_reads fun _ _ _ h =>
            hdot (of_reads_dotted hname.identifier hw spaces_nil hs ht h).2
        rw [scan_word hformed hkeywords hname hw (by simp) hheaders
            (matchAt?_assigned hw hs ht hequal) hdotted,
          scan_word hformed hkeywords hname hw (isWordChar_of_getLast?_spaces hindent) hheaders'
            (Node.matchAt?_eq_none_of_before hbefore) (Node.matchAt?_eq_none_of_before hbefore),
          marked, marked, if_neg (getLast?_spaces_ne_at hindent), if_neg (by simp)]
        exact scan_after [] indent _ hw.ne_nil

/-- **A text that begins with no name says the same behind blanks.** -/
theorem scan_indented_other (hindent : Spaces indent)
    (hbody : ∀ c ∈ body.head?, CharSet.asciiSpace.contains c = false)
    (hstar : body.head? ≠ some '*')
    (hhead : ∀ c ∈ body.head?, Form.nameStart.contains c = false) :
    scan lexer lexer.start [] (indent ++ body) g = scan lexer lexer.start [] body g := by
  have hother : ∀ c ∈ body.head?, others.contains c = true := by
    intro c hc
    refine others_contains (hbody c hc) (hhead c hc) ?_
    rintro rfl
    exact hstar hc
  have hnodes : (Meaning.openings others (Form.start string header)).map Meaning.node =
      [.chars (Form.oneOf ['\'']), .chars (Form.oneOf ['[', '(', '\x7b']),
        .chars (Form.oneOf [']', ')', '\x7d']), Form.number, Form.parameter, Form.operator,
        Form.word, .chars (Form.oneOf [';'])] := rfl
  have hunanchored : ∀ meaning ∈ Meaning.openings others (Form.start string header),
      Unanchored meaning.node := by
    rw [← List.forall_mem_map, hnodes]
    decide
  rw [scan_indent hformed hindent hbody hstar (matchAt?_dotted_of_head hindent hbody hhead)]
  refine (scan_unanchored hformed hindent hunanchored fun passed _ => ?_).symm
  rw [Lexer.start, hformed.startRules]
  exact Meaning.first?_openings others hother

/-- **Indentation makes no difference to what a line says.** -/
theorem scan_indented (hkeywords : KeywordTable.ofWords keywordLists = .ok lexer.keywords)
    (hindent : Spaces indent)
    (hbody : ∀ c ∈ body.head?, CharSet.asciiSpace.contains c = false)
    (hstar : body.head? ≠ some '*')
    (hoperator : ∀ operator ∈ Form.wordOperators,
      Text.eqIgnoreCase (body.takeWhile isWordChar) operator = false) :
    scan lexer lexer.start [] (indent ++ body) ⟨done, current, none⟩ =
      scan lexer lexer.start [] body ⟨done, current, none⟩ := by
  by_cases hhead : ∃ c ∈ body.head?, Form.nameStart.contains c = true
  · obtain ⟨w, s, t, rfl, hname, hw, hs, ht⟩ := exists_name hhead hoperator
    by_cases hdot : s.length ≤ 1 ∧ t.head? = some '.'
    · obtain ⟨hsone, hdot⟩ := hdot
      obtain ⟨rest, rfl⟩ := List.head?_eq_some_iff.mp hdot
      exact scan_indented_dotted hformed hkeywords hindent hname hs hsone hbody hstar
    · have hdotted : Form.dotted.matchAt? (.between [] (indent ++ (w ++ (s ++ t)))) = none :=
        Node.matchAt?_eq_none_of_not_reads fun _ _ _ h =>
          hdot (of_reads_dotted hname.identifier hw hindent hs ht h).2
      rw [scan_indent hformed hindent hbody hstar hdotted]
      by_cases hne : indent = []
      · rw [hne]
      · rw [scan_indented_name hformed hkeywords hindent hne hname hw hs ht hdot]
  · refine scan_indented_other hformed hindent hbody hstar fun c hc => ?_
    rw [← Bool.not_eq_true]
    exact fun hstart => hhead ⟨c, hc, hstart⟩

end Scan

/-! ### Other blanks at the start of a line -/

/-- The blanks with which a line can be indented. -/
def isIndent (c : Char) : Bool := c ∈ [' ', '\t', '\x0b', '\x0c', '\r']

/-- What a line says behind the blanks it begins with. -/
def unindented (line : Text) : Text := line.dropWhile isIndent

/-- The text with other blanks before what its line number `i` says. -/
def reindent (text : Text) (i : Nat) (indent : Text) : Text :=
  text.replaceLine i fun line => indent ++ unindented line

theorem spaces_of_isIndent (hindent : ∀ c ∈ indent, isIndent c = true) : Spaces indent := by
  have hblanks : [' ', '\t', '\x0b', '\x0c', '\r'].all CharSet.asciiSpace.contains = true := by
    decide
  exact fun c hc => List.all_eq_true.mp hblanks c (by simpa [isIndent] using hindent c hc)

/-- The only other blank is the one that ends a line. -/
theorem isIndent_of_asciiSpace (hc : CharSet.asciiSpace.contains c = true) (hfeed : c ≠ '\n') :
    isIndent c = true := by
  have hcode : ∀ n < 128, CharSet.asciiSpace.contains (Char.ofNat n) = true →
      Char.ofNat n ≠ '\n' → isIndent (Char.ofNat n) = true := by decide
  have hsmall : c.toNat < 128 := by
    simp [CharSet.asciiSpace, CharSet.ofPairs, CharSet.contains, CharSet.containsCode,
      CharRange.contains] at hc
    omega
  have hchar : Char.ofNat c.toNat = c := Char.ofNat_toNat c
  have hspace := hcode c.toNat hsmall
  rw [hchar] at hspace
  exact hspace hc hfeed

theorem unindented_suffix (line : Text) : unindented line <:+ line := List.dropWhile_suffix isIndent

/-- What is behind the blanks of a line begins with none. -/
theorem asciiSpace_unindented {line : Text} (hline : '\n' ∉ line) :
    ∀ c ∈ (unindented line).head?, CharSet.asciiSpace.contains c = false := by
  intro c hc
  have hindent : isIndent c = false := not_of_mem_head?_dropWhile hc
  rw [← Bool.not_eq_true] at hindent ⊢
  refine fun hspace => hindent (isIndent_of_asciiSpace hspace ?_)
  rintro rfl
  exact hline ((unindented_suffix line).subset (List.mem_of_mem_head? hc))

/-- Of a line that is nothing but blanks, the line end may take the last one; else the line is what
was put there. -/
theorem exists_blanks {line raw : Text} (hline : line = Text.stripReturn raw)
    (hindent : ∀ c ∈ indent, isIndent c = true) :
    ∃ blanks : Text, Spaces blanks ∧
      Text.stripReturn (indent ++ unindented line ++ Text.lineEnd raw) =
        blanks ++ unindented line := by
  have hspace := spaces_of_isIndent hindent
  by_cases hbody : unindented line = []
  · refine ⟨Text.stripReturn (indent ++ Text.lineEnd raw), fun c hc => ?_, by simp [hbody]⟩
    have hmem : c ∈ indent ++ Text.lineEnd raw := by
      unfold Text.stripReturn at hc
      split at hc
      · exact List.dropLast_subset _ hc
      · exact hc
    rcases List.mem_append.mp hmem with hmem | hmem
    · exact hspace c hmem
    · unfold Text.lineEnd at hmem
      split at hmem
      · rw [List.mem_singleton.mp hmem]
        decide
      · exact absurd hmem List.not_mem_nil
  · exact ⟨indent, hspace, Text.stripReturn_append_append_lineEnd
      (hline ▸ unindented_suffix line) fun hempty => absurd hempty hbody⟩

/-- **Indentation never changes what is discovered.**  Whatever blanks a line that is entered in the
start state begins with, it leaves the same state, and the script has the same statements and
outputs; unless what comes then begins with a star or with an operator that is a word. -/
theorem exists_lexer_indented :
    ∃ lexer, Gibiane.lexer = .ok lexer ∧
      ∀ (text : Text) (i : Nat) (line : LexedLine lexer.rules.size) (indent : Text),
        (lexer.tokenizeDocument text).lines[i]? = some line → line.entered = lexer.start →
          (unindented line.text).head? ≠ some '*' →
          (∀ operator ∈ Form.wordOperators,
            Text.eqIgnoreCase ((unindented line.text).takeWhile isWordChar) operator = false) →
          (∀ c ∈ indent, isIndent c = true) →
            (lexer.tokenizeLine lexer.start (indent ++ unindented line.text)).2 =
                (lexer.tokenizeLine lexer.start line.text).2 ∧
              (∃ line', (lexer.tokenizeDocument (reindent text i indent)).lines[i]? = some line' ∧
                line'.entered = lexer.start ∧
                (lexer.tokenizeLine lexer.start line'.text).2 =
                  (lexer.tokenizeLine lexer.start line.text).2) ∧
              statements (lexer.tokenizeDocument (reindent text i indent)) =
                statements (lexer.tokenizeDocument text) ∧
              discover (lexer.tokenizeDocument (reindent text i indent)) =
                discover (lexer.tokenizeDocument text) := by
  obtain ⟨lexer, hlexer, ⟨string, header, hformed, huniform⟩, hkeywords⟩ := exists_lexer_uniform
  refine ⟨lexer, hlexer, ?_⟩
  intro text i line indent hline hentered hstar hoperator hindent
  obtain ⟨raw, done, current, later, htext, hfeed, hreplace⟩ :=
    statements_replaceLine huniform hkeywords hformed hline hentered
  obtain ⟨raw', htext', hreplaced⟩ := Lexer.exists_replacedLine hline
  -- Behind any blanks, and so in the line as it was, the text says the same.
  have hscan : ∀ (blanks : Text) (done : List Statement) (current : Statement), Spaces blanks →
      scan lexer lexer.start [] (blanks ++ unindented line.text) ⟨done, current, none⟩ =
        scan lexer lexer.start [] line.text ⟨done, current, none⟩ := by
    intro blanks done current hblanks
    have hsplit := List.takeWhile_append_dropWhile (p := isIndent) (l := line.text)
    have hbefore : Spaces (line.text.takeWhile isIndent) :=
      spaces_of_isIndent fun c hc => List.mem_takeWhile_imp hc
    have hbody := asciiSpace_unindented hfeed
    rw [scan_indented hformed hkeywords hblanks hbody hstar hoperator,
      ← scan_indented hformed hkeywords hbefore hbody hstar hoperator, unindented, hsplit]
  have hexit : ∀ blanks : Text, Spaces blanks →
      (lexer.tokenizeLine lexer.start (blanks ++ unindented line.text)).2 =
        (lexer.tokenizeLine lexer.start line.text).2 := by
    intro blanks hblanks
    have hstate := congrArg Prod.snd (hscan blanks [] [] hblanks)
    exact hstate
  have hedit : '\n' ∉ indent ++ unindented line.text := by
    intro hmem
    rcases List.mem_append.mp hmem with hmem | hmem
    · exact absurd (hindent _ hmem) (by decide)
    · exact hfeed ((unindented_suffix _).subset hmem)
  have hstatements : statements (lexer.tokenizeDocument (reindent text i indent)) =
      statements (lexer.tokenizeDocument text) := by
    obtain ⟨blanks, hblanks, hnew⟩ := exists_blanks htext hindent
    have hsame : Text.stripReturn (id line.text ++ Text.lineEnd raw) = line.text := by
      rw [id, htext, Text.stripReturn_append_lineEnd]
    have hold := hreplace id hfeed
    rw [Text.replaceLine_id, hsame] at hold
    rw [reindent, hreplace (fun line => indent ++ unindented line) hedit, hnew, hold, scanLines,
      scanLines, hscan blanks done current hblanks]
  refine ⟨hexit indent (spaces_of_isIndent hindent), ?_, hstatements, ?_⟩
  · obtain ⟨blanks, hblanks, hnew⟩ := exists_blanks htext' hindent
    obtain ⟨line', hline', hentered', hnew'⟩ :=
      hreplaced (fun line => indent ++ unindented line) hedit
    refine ⟨line', hline', hentered'.trans hentered, ?_⟩
    rw [hnew', hnew, hexit blanks hblanks]
  · rw [discover, discover, hstatements]

/-- A blank and a tab before the name of a table leave what its line assigns. -/
theorem discover_reindented :
    ∃ (text : Text) (lexer : Lexer) (line : LexedLine lexer.rules.size),
      text = "t . 'c' = 0;".toList ∧ Gibiane.lexer = .ok lexer ∧
      (lexer.tokenizeDocument text).lines[0]? = some line ∧ line.entered = lexer.start ∧
      (unindented line.text).head? ≠ some '*' ∧
      (∀ operator ∈ Form.wordOperators,
        Text.eqIgnoreCase ((unindented line.text).takeWhile isWordChar) operator = false) ∧
      (∀ c ∈ " \t".toList, isIndent c = true) ∧
      reindent text 0 " \t".toList = " \tt . 'c' = 0;".toList ∧
      statements (lexer.tokenizeDocument (reindent text 0 " \t".toList)) =
        statements (lexer.tokenizeDocument text) ∧
      discover (lexer.tokenizeDocument (reindent text 0 " \t".toList)) =
        discover (lexer.tokenizeDocument text) := by
  obtain ⟨lexer, hlexer, hindented⟩ := exists_lexer_indented
  have hraws : Text.rawLines "t . 'c' = 0;".toList = ["t . 'c' = 0;".toList] := by decide
  obtain ⟨line, hline, hentered, htext⟩ := lexer.exists_first_line hraws
  have hstar : (unindented line.text).head? ≠ some '*' := by
    rw [htext]
    decide
  have hoperator : ∀ operator ∈ Form.wordOperators,
      Text.eqIgnoreCase ((unindented line.text).takeWhile isWordChar) operator = false := by
    rw [htext]
    decide
  have hindent : ∀ c ∈ " \t".toList, isIndent c = true := List.all_eq_true.mp (by decide)
  obtain ⟨-, -, hstatements, hdiscover⟩ :=
    hindented _ 0 line " \t".toList hline hentered hstar hoperator hindent
  exact ⟨_, lexer, line, rfl, hlexer, hline, hentered, hstar, hoperator, hindent, by decide,
    hstatements, hdiscover⟩

end LineLexer.Gibiane
