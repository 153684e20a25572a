/-
Where strings and headers end.

A document is coloured by the state each line starts in, so one string or header that
ends too early or too late colours all that follows wrongly.  A string ends at the last
quote of the first odd run of quotes, and a header at its first semicolon, whatever else
stands on the line; up to there the tokens leave nothing out, and from the next character
on the line is lexed as outside.

Both come from what one turn does.  In a string there are three cases, and the first run
that is odd is where quotes taken two by two leave one over.  In a header a turn may read
many characters at once, so all that is said of it is that it reads no semicolon
(`exists_produces_header`).
-/
import LineLexer.Proofs.Gibiane.Scan
import LineLexer.Proofs.Text.QuoteRuns

namespace LineLexer

/-! ### Stretches of a line -/

/-- The tokens make up a text that starts at an offset, with nothing between them. -/
inductive Tiles : List Token → Nat → Text → Prop
  | nil {offset : Nat} : Tiles [] offset []
  | cons {token : Token} {tokens : List Token} {text : Text} (hne : token.text ≠ [])
      (h : Tiles tokens (token.start + token.text.byteLength) text) :
      Tiles (token :: tokens) token.start (token.text ++ text)

/-- One more token at the end. -/
theorem Tiles.concat {tokens : List Token} {token : Token} {offset : Nat} {text : Text}
    (h : Tiles tokens offset text) (hstart : token.start = offset + text.byteLength)
    (hne : token.text ≠ []) : Tiles (tokens ++ [token]) offset (text ++ token.text) := by
  induction h with
  | nil =>
      obtain rfl := hstart
      have hone := Tiles.cons hne .nil
      rwa [List.append_nil] at hone
  | cons hne' _ ih =>
      rw [Text.byteLength_append, ← Nat.add_assoc] at hstart
      rw [List.append_assoc]
      exact .cons hne' (ih hstart)

namespace Lexer

variable {lexer : Lexer} {state mid next : lexer.rules.StateId} {passed read more rest : Text}
  {tokens later : List Token}

/-- Some tokens, and then those of what is left of the line, which is lexed in `next`. -/
def thenRest (lexer : Lexer) (tokens : List Token) (next : lexer.rules.StateId)
    (passed rest : Text) : List Token × lexer.rules.StateId :=
  (tokens ++ (lexer.tokenizeRest next (.between passed rest)).1,
    (lexer.tokenizeRest next (.between passed rest)).2)

/-- The stretch `read` after `passed` makes these tokens, and what follows it is lexed in `next`. -/
def Produces (lexer : Lexer) (state : lexer.rules.StateId) (passed read rest : Text)
    (tokens : List Token) (next : lexer.rules.StateId) : Prop :=
  lexer.tokenizeRest state (.between passed (read ++ rest)) =
    lexer.thenRest tokens next (passed ++ read) rest

namespace Produces

theorem refl (state : lexer.rules.StateId) (passed rest : Text) :
    lexer.Produces state passed [] rest [] state := by
  rw [Produces, thenRest, List.nil_append, List.nil_append, List.append_nil]

/-- Two stretches one after the other. -/
theorem trans (h : lexer.Produces state passed read (more ++ rest) tokens mid)
    (h' : lexer.Produces mid (passed ++ read) more rest later next) :
    lexer.Produces state passed (read ++ more) rest (tokens ++ later) next := by
  rw [Produces, thenRest] at h'
  rw [Produces, List.append_assoc, h, thenRest, thenRest, h', List.append_assoc, List.append_assoc]

/-- A stretch that starts its line. -/
theorem tokenizeLine_eq (h : lexer.Produces state [] read rest tokens next) :
    lexer.tokenizeLine state (read ++ rest) = lexer.thenRest tokens next read rest := h

/-- A stretch that is its line. -/
theorem tokenizeLine_whole (h : lexer.Produces state [] read [] tokens next) :
    lexer.tokenizeLine state read = (tokens, next) := by
  have hline := h.tokenizeLine_eq
  rwa [List.append_nil, thenRest, tokenizeRest_nil, List.append_nil] at hline

end Produces

end Lexer

namespace Gibiane

variable {lexer : Lexer} {string header : lexer.rules.StateId} {passed read text rest : Text}
  {c : Char}

/-! ### Strings -/

/-- The tokens of a text in a string: quotes in pairs, taken from the left, and any other character
by itself. -/
def quotedTokens (offset : Nat) : Text → List Token
  | [] => []
  | '\'' :: '\'' :: rest => ⟨.escape, offset, ['\'', '\'']⟩ :: quotedTokens (offset + 2) rest
  | c :: rest => ⟨.string, offset, [c]⟩ :: quotedTokens (offset + c.utf8Size) rest

theorem quotedTokens_of_ne (hc : c ≠ '\'') (offset : Nat) (rest : Text) :
    quotedTokens offset (c :: rest) =
      ⟨.string, offset, [c]⟩ :: quotedTokens (offset + c.utf8Size) rest :=
  quotedTokens.eq_3 _ _ _ fun _ heq _ => hc heq

/-- They leave nothing out. -/
theorem tiles_quotedTokens (offset : Nat) (text : Text) :
    Tiles (quotedTokens offset text) offset text := by
  fun_induction quotedTokens offset text with
  | case1 offset => exact .nil
  | case2 offset rest ih => exact @Tiles.cons ⟨.escape, offset, ['\'', '\'']⟩ _ _ (by simp) ih
  | case3 offset c rest _ ih => exact .cons (by simp) ih

/-- What comes after a paired text does not change how it is read. -/
theorem quotedTokens_append (h : Text.Paired text) (offset : Nat) (rest : Text) :
    quotedTokens offset (text ++ rest) =
      quotedTokens offset text ++ quotedTokens (offset + text.byteLength) rest := by
  induction h generalizing offset with
  | nil => rfl
  | @pair text _ ih =>
      have hlength : Text.byteLength ('\'' :: '\'' :: text) = 2 + text.byteLength :=
        Text.byteLength_append ['\'', '\''] text
      rw [hlength, ← Nat.add_assoc]
      exact congrArg (_ :: ·) (ih (offset + 2))
  | @other c text hc _ ih =>
      rw [List.cons_append, quotedTokens_of_ne hc, quotedTokens_of_ne hc, ih, List.cons_append,
        Text.byteLength_cons, Nat.add_assoc]

section String

variable (hformed : Formed lexer.rules string header)

include hformed

theorem produces_inside (hc : c ≠ '\'') (passed rest : Text) :
    lexer.Produces string passed [c] rest [⟨.string, passed.byteLength, [c]⟩] string := by
  have hfirst : Meaning.first? (lexer.rules.state string).meanings (.between passed (c :: rest)) =
      none := first?_inside hformed hc
  have hturn := Lexer.tokenizeRest_of_unmatched hfirst
  rwa [hformed.stringDefault] at hturn

theorem produces_escape (passed rest : Text) :
    lexer.Produces string passed ['\'', '\''] rest
      [⟨.escape, passed.byteLength, ['\'', '\'']⟩] string :=
  Lexer.tokenizeRest_of_whole (first?_escape hformed passed rest) (by simp)

theorem produces_close (hrest : rest.head? ≠ some '\'') (passed : Text) :
    lexer.Produces string passed ['\''] rest [⟨.string, passed.byteLength, ['\'']⟩] lexer.start :=
  Lexer.tokenizeRest_of_whole (first?_close hformed hrest) (by simp)

/-- **A paired text stays in the string.** -/
theorem produces_paired (h : Text.Paired text) (passed rest : Text) :
    lexer.Produces string passed text rest (quotedTokens passed.byteLength text) string := by
  induction h generalizing passed with
  | nil => exact .refl string passed rest
  | @pair text _ ih =>
      have hmore := ih (passed ++ ['\'', '\''])
      rw [Text.byteLength_append] at hmore
      exact (produces_escape hformed passed (text ++ rest)).trans hmore
  | @other c text hc _ ih =>
      have hmore := ih (passed ++ [c])
      rw [Text.byteLength_append] at hmore
      rw [quotedTokens_of_ne hc]
      exact (produces_inside hformed hc passed (text ++ rest)).trans hmore

end String

/-- How a line that is entered in a string is read. -/
structure StringRegion (lexer : Lexer) (string : lexer.rules.StateId) (line : Text) : Prop where
  /-- If all runs of quotes are even, the whole line is in the string. -/
  stays : (∀ before k rest, Text.QuoteRun line before k rest → k % 2 = 0) →
    lexer.tokenizeLine string line = (quotedTokens 0 line, string) ∧
      Tiles (quotedTokens 0 line) 0 line
  /-- Otherwise there is a first odd run. -/
  closes : (∃ before k rest, Text.QuoteRun line before k rest ∧ k % 2 = 1) →
    ∃ before k rest, Text.ClosingRun line before k rest
  /-- The string ends with the last quote of that run. -/
  ends : ∀ before k rest, Text.ClosingRun line before k rest →
    lexer.tokenizeLine string line =
        lexer.thenRest (quotedTokens 0 (before ++ List.replicate k '\'')) lexer.start
          (before ++ List.replicate k '\'') rest ∧
      Tiles (quotedTokens 0 (before ++ List.replicate k '\'')) 0
        (before ++ List.replicate k '\'')

/-- **A string ends with the last quote of the first odd run.** -/
theorem stringRegion (hformed : Formed lexer.rules string header) (line : Text) :
    StringRegion lexer string line := by
  refine ⟨fun heven => ?_, ?_, ?_⟩
  · have hpaired := Text.paired_iff.mpr heven
    exact ⟨(produces_paired hformed hpaired [] []).tokenizeLine_whole, tiles_quotedTokens 0 line⟩
  · rintro ⟨before, k, rest, hrun, hodd⟩
    exact Text.exists_closingRun hrun hodd
  · intro before k rest h
    refine ⟨?_, tiles_quotedTokens 0 _⟩
    have hodd := h.odd
    obtain ⟨j, rfl⟩ : ∃ j, k = j + 1 := ⟨k - 1, by omega⟩
    have hpaired : Text.Paired (before ++ List.replicate j '\'') := h.paired
    have hbody := produces_paired hformed hpaired [] (['\''] ++ rest)
    have hline := (hbody.trans (produces_close hformed h.noneAfter _)).tokenizeLine_eq
    rw [h.split, List.replicate_succ', ← List.append_assoc, quotedTokens_append hpaired,
      Nat.zero_add]
    exact hline

/-! ### Headers -/

/-- Every character but the semicolon. -/
def argumentChars : CharSet := CharSet.all.diff (.single ';')

/-- A rule that matches before another character than a semicolon is one token without a
semicolon. -/
theorem of_mem_header {n : Nat} {start : Fin n} {meaning : Meaning n} {found : Match}
    (hmem : meaning ∈ Form.header start)
    (hmatch : meaning.node.matchAt? (.between passed (c :: rest)) = some found) (hc : c ≠ ';') :
    (∃ category, meaning.emit = .whole (.fixed category)) ∧ meaning.next = none ∧
      meaning.node.mayBeEmpty = false ∧ ∀ set ∈ meaning.node.sets, set.Within argumentChars := by
  simp only [Form.header, List.mem_cons, List.not_mem_nil, or_false] at hmem
  rcases hmem with rfl | rfl | rfl
  · have hsets : ∀ set ∈ Form.argument.sets, set.Within argumentChars := by decide
    exact ⟨⟨.parameter, rfl⟩, rfl, rfl, hsets⟩
  · have hsets : ∀ set ∈ Form.argumentType.sets, set.Within argumentChars := by decide
    exact ⟨⟨.storageType, rfl⟩, rfl, rfl, hsets⟩
  · have hnone : (Node.chars (Form.oneOf [';'])).matchAt? (.between passed (c :: rest)) = none :=
      Node.matchAt?_eq_none_of_starts rfl (by
        rintro _ ⟨⟩
        rw [← Bool.not_eq_true, Node.starts, oneOf_contains, List.mem_singleton]
        exact hc)
    rw [hnone] at hmatch
    exact absurd hmatch (by simp)

/-- What is read before the semicolon is read of the text before it. -/
theorem exists_left_of_append_eq {tail : Text} (h : text ++ rest = read ++ tail)
    (hread : ';' ∉ read) (hrest : ∀ d ∈ rest.head?, d = ';') :
    ∃ left, text = read ++ left ∧ tail = left ++ rest := by
  rcases List.append_eq_append_iff.mp h with ⟨more, rfl, rfl⟩ | ⟨left, rfl, rfl⟩
  · cases more with
    | nil => exact ⟨[], by simp, rfl⟩
    | cons d more =>
        obtain rfl := hrest d rfl
        exact absurd (by simp) hread
  · exact ⟨left, rfl, rfl⟩

section Header

variable (hheader : StatesFormed lexer.rules string header)

include hheader

/-- A semicolon leads back to the start state. -/
theorem produces_semicolon (passed rest : Text) :
    lexer.Produces header passed [';'] rest [⟨.punctuation, passed.byteLength, [';']⟩]
      lexer.start := by
  have hopenings : Meaning.openings (Form.oneOf [';']) (Form.header lexer.start) =
      [⟨.chars (Form.oneOf [';']), .whole (.fixed .punctuation), some lexer.start⟩] := rfl
  have hfirst : Meaning.first? (lexer.rules.state header).meanings
      (.between passed ([';'] ++ rest)) =
      some (⟨.chars (Form.oneOf [';']), .whole (.fixed .punctuation), some lexer.start⟩,
        ⟨.between (passed ++ [';']) rest, []⟩) := by
    rw [hheader.headerRules, Meaning.first?_openings (Form.oneOf [';']) (by rintro _ ⟨⟩; rfl)]
    exact Meaning.first?_cons_of_matchAt?
      (Node.matchAt?_of_leads (Node.Leads.chars passed (by decide)))
  exact Lexer.tokenizeRest_of_whole hfirst (by simp)

/-- **A turn in a header reads no semicolon**, unless it begins with one. -/
theorem exists_produces_header (hc : c ≠ ';') (hrest : ∀ d ∈ rest.head?, d = ';')
    (passed text : Text) :
    ∃ token left, c :: text = token.text ++ left ∧ token.text ≠ [] ∧
      token.start = passed.byteLength ∧
      lexer.Produces header passed token.text (left ++ rest) [token] header := by
  cases hfirst : Meaning.first? (lexer.rules.state header).meanings
      (.between passed (c :: (text ++ rest))) with
  | none =>
      refine ⟨⟨.text, passed.byteLength, [c]⟩, text, rfl, by simp, rfl, ?_⟩
      have hturn := Lexer.tokenizeRest_of_unmatched hfirst
      rwa [hheader.headerDefault] at hturn
  | some first =>
      obtain ⟨⟨node, emit, next⟩, stop, closed⟩ := first
      obtain ⟨hmem, hmatch⟩ := Meaning.of_first? hfirst
      rw [hheader.headerRules] at hmem
      obtain ⟨⟨category, hemit⟩, hnext, hne, hsets⟩ := of_mem_header hmem hmatch hc
      obtain rfl : emit = .whole (.fixed category) := hemit
      obtain rfl : next = none := hnext
      obtain ⟨read, hread⟩ := Node.matchAt?_reads hmatch
      have hsemicolon : ';' ∉ read := fun hin =>
        absurd (hread.contains_of_within argumentChars hsets ';' hin) (by decide)
      have hpasses := hread.passes
      have hrem : (c :: text) ++ rest = read ++ stop.rest := hpasses.rest
      obtain ⟨left, hsplit, -⟩ := exists_left_of_append_eq hrem hsemicolon hrest
      rw [← List.cons_append, hsplit, List.append_assoc] at hpasses hfirst
      obtain rfl := hpasses.eq_between
      have hnonempty : read ≠ [] := by
        rintro rfl
        rw [hread.mayBeEmpty] at hne
        exact absurd hne (by decide)
      exact ⟨⟨category, passed.byteLength, read⟩, left, hsplit, hnonempty, rfl,
        Lexer.tokenizeRest_of_whole hfirst hnonempty⟩

/-- **A text without semicolons stays in the header.** -/
theorem exists_produces_arguments (htext : ';' ∉ text) (hrest : ∀ d ∈ rest.head?, d = ';')
    (passed : Text) :
    ∃ tokens, Tiles tokens passed.byteLength text ∧
      lexer.Produces header passed text rest tokens header := by
  induction hlength : text.length using Nat.strongRecOn generalizing text passed with
  | ind n ih =>
      cases text with
      | nil => exact ⟨[], .nil, .refl header passed rest⟩
      | cons c text =>
          obtain ⟨hc, -⟩ : c ≠ ';' ∧ ';' ∉ text := by simpa [eq_comm] using htext
          obtain ⟨token, left, hsplit, hne, hstart, hturn⟩ :=
            exists_produces_header hheader hc hrest passed text
          have hleft : ';' ∉ left := fun hmem => htext (by rw [hsplit]; simp [hmem])
          have hlt : left.length < n := by
            have hpos := List.length_pos_iff.mpr hne
            have hsum := congrArg List.length hsplit
            rw [List.length_append] at hsum
            omega
          obtain ⟨tokens, htiles, hmore⟩ := ih _ hlt hleft (passed ++ token.text) rfl
          refine ⟨token :: tokens, ?_, ?_⟩
          · rw [Text.byteLength_append, ← hstart] at htiles
            rw [← hstart, hsplit]
            exact .cons hne htiles
          · rw [hsplit]
            exact hturn.trans hmore

end Header

/-- How a line that is entered in a header is read. -/
structure HeaderRegion (lexer : Lexer) (header : lexer.rules.StateId) (line : Text) : Prop where
  /-- Without a semicolon, the whole line is in the header. -/
  stays : ';' ∉ line →
    ∃ tokens, lexer.tokenizeLine header line = (tokens, header) ∧ Tiles tokens 0 line
  /-- The header ends with the first semicolon. -/
  ends : ∀ before rest, line = before ++ ';' :: rest → ';' ∉ before →
    ∃ tokens,
      lexer.tokenizeLine header line =
          lexer.thenRest (tokens ++ [⟨.punctuation, before.byteLength, [';']⟩]) lexer.start
            (before ++ [';']) rest ∧
        Tiles (tokens ++ [⟨.punctuation, before.byteLength, [';']⟩]) 0 (before ++ [';'])

/-- **A header ends with the first semicolon.** -/
theorem headerRegion (hheader : StatesFormed lexer.rules string header) (line : Text) :
    HeaderRegion lexer header line := by
  refine ⟨fun hline => ?_, ?_⟩
  · have hend : ∀ d ∈ ([] : Text).head?, d = ';' := by simp
    obtain ⟨tokens, htiles, hproduces⟩ := exists_produces_arguments hheader hline hend []
    exact ⟨tokens, hproduces.tokenizeLine_whole, htiles⟩
  · rintro before rest rfl hbefore
    have hsemicolon : ∀ d ∈ ([';'] ++ rest).head?, d = ';' := by
      rintro _ ⟨⟩
      rfl
    obtain ⟨tokens, htiles, hproduces⟩ := exists_produces_arguments hheader hbefore hsemicolon []
    have hline := (hproduces.trans (produces_semicolon hheader ([] ++ before) rest)).tokenizeLine_eq
    rw [List.append_assoc] at hline
    exact ⟨tokens, hline, htiles.concat (Nat.zero_add _).symm (by simp)⟩

/-- **Strings and headers end exactly where the language says**, and there the start state takes
over in the same line. -/
theorem exists_lexer_regions :
    ∃ lexer, Gibiane.lexer = .ok lexer ∧
      lexer.rules.stateId? "start" = some lexer.start ∧
      ∃ string header, lexer.rules.stateId? "string" = some string ∧
        lexer.rules.stateId? "procmethdef" = some header ∧
        ∀ line, StringRegion lexer string line ∧ HeaderRegion lexer header line := by
  obtain ⟨lexer, hlexer, ⟨string, header, hstates⟩, -⟩ := exists_lexer_statesFormed
  refine ⟨lexer, hlexer, hstates.startName, string, header, hstates.stringName,
    hstates.headerName, fun line => ⟨?_, ?_⟩⟩
  · exact stringRegion hstates.formed line
  · exact headerRegion hstates line

end Gibiane

end LineLexer
