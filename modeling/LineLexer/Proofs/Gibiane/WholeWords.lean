/-
Words are tokenized whole, or cut in one of two ways.

Outside strings and headers a word should be one token.  No rule stops inside a word except
with a parameter or a comparison (`Cuts`), and what such a token leaves of its word is read
as if it were a word of its own, or dropped.  So the cursor can stand inside a word, but
only behind a cut: a turn that stops inside a word has cut it, or has dropped one more
character of a word that was cut before (`inWord_stop_of_takes`).  Everything else stays
whole (`exists_lexer_wholeWords`).
-/
import LineLexer.Proofs.Document.Geometry
import LineLexer.Proofs.Gibiane.InStep
import LineLexer.Proofs.Gibiane.WordEnds

namespace LineLexer

namespace Text

/-- The byte offset lies between two characters of a word. -/
def InsideWord (line : Text) (offset : Nat) : Prop :=
  ∃ before c d after, line = before ++ c :: d :: after ∧
    offset = byteLength (before ++ [c]) ∧ isWordChar c = true ∧ isWordChar d = true

theorem insideWord_byteLength_iff {passed rest : Text} :
    (passed ++ rest).InsideWord passed.byteLength ↔
      (∃ c ∈ passed.getLast?, isWordChar c = true) ∧ ∃ d ∈ rest.head?, isWordChar d = true := by
  constructor
  · rintro ⟨before, c, d, after, hline, hoffset, hc, hd⟩
    have hsplit : passed ++ rest = (before ++ [c]) ++ d :: after := by simpa using hline
    obtain ⟨rfl, rfl⟩ := append_inj_of_byteLength hsplit hoffset
    exact ⟨⟨c, by simp, hc⟩, d, rfl, hd⟩
  · rintro ⟨⟨c, hlast, hc⟩, d, hhead, hd⟩
    obtain ⟨before, rfl⟩ := List.getLast?_eq_some_iff.mp hlast
    obtain ⟨after, rfl⟩ := List.head?_eq_some_iff.mp hhead
    exact ⟨before, c, d, after, by simp, rfl, hc, hd⟩

end Text

namespace Cursor

variable {cur : Cursor} {line : Text}

theorem inWord_between_iff {passed rest : Text} :
    (between passed rest).InWord ↔ (passed ++ rest).InsideWord passed.byteLength := by
  have hword : CharSet.asciiWord.contains = isWordChar := funext Gibiane.asciiWord_contains
  rw [Text.insideWord_byteLength_iff, InWord, hword, Option.any_eq_true, Option.any_eq_true]
  exact Iff.rfl

/-- A cursor of a line stands in a word where its offset lies in one. -/
theorem StandsIn.insideWord_iff (h : cur.StandsIn line) :
    line.InsideWord cur.offset ↔ cur.InWord := by
  obtain ⟨passed, rest, rfl, rfl⟩ := h.exists_between
  exact inWord_between_iff.symm

end Cursor

/-- The token is emitted in a state while the line, entered in another, is lexed. -/
def Lexer.EmitsIn (lexer : Lexer) (state entered : lexer.rules.StateId) (line : Text)
    (token : Token) : Prop :=
  ∃ turn ∈ lexer.lineTurns entered line, turn.state = state ∧ token ∈ lexer.tokensOf turn

theorem Lexer.EmitsIn.isSliceOf {lexer : Lexer} {state entered : lexer.rules.StateId} {line : Text}
    {token : Token} (h : lexer.EmitsIn state entered line token) : token.IsSliceOf line := by
  obtain ⟨turn, hturn, -, htoken⟩ := h
  exact isSliceOf_of_mem_tokenizeLine entered line token
    (List.mem_flatMap.mpr ⟨turn, hturn, htoken⟩)

namespace Gibiane

/-- The token is one that can stop inside a word, and its word goes on behind it. -/
structure RunsOn (line : Text) (token : Token) : Prop where
  cuts : Cuts token.category token.text
  more : ∃ before c after, line = before ++ (token.text ++ c :: after) ∧
    before.byteLength = token.start ∧ isWordChar c = true

/-- A slice of a line stops inside a word where characters of a word meet. -/
theorem insideWord_stop_iff {line : Text} {token : Token} (hslice : token.IsSliceOf line)
    (hcuts : Cuts token.category token.text) :
    line.InsideWord token.stop ↔ RunsOn line token := by
  obtain ⟨before, after, hline, hstart, hstop⟩ := Text.slice?_eq_some_iff.mp hslice
  obtain ⟨c, hlast, hc⟩ := hcuts.exists_last
  have hjoined : line = (before ++ token.text) ++ after := by rw [hline, List.append_assoc]
  have hoffset : token.stop = (before ++ token.text).byteLength := by
    rw [Text.byteLength_append, hstart, hstop]
  have hlast' : (before ++ token.text).getLast? = some c := by
    rw [List.getLast?_append, hlast]
    rfl
  rw [hoffset]
  constructor
  · intro hin
    rw [hjoined, Text.insideWord_byteLength_iff] at hin
    obtain ⟨-, d, hhead, hd⟩ := hin
    obtain ⟨after, rfl⟩ := List.head?_eq_some_iff.mp hhead
    exact ⟨hcuts, before, d, after, hline, hstart, hd⟩
  · rintro ⟨-, before', d, after', hline', hstart', hd⟩
    obtain ⟨rfl, hafter⟩ := Text.append_inj_of_byteLength (hline.symm.trans hline')
      (hstart.trans hstart'.symm)
    obtain rfl := List.append_cancel_left hafter
    rw [hjoined, Text.insideWord_byteLength_iff]
    exact ⟨⟨c, hlast', hc⟩, d, rfl, hd⟩

/-! ### Where the tokens of a turn start and stop -/

section Turns

variable {lexer : Lexer} {string header : lexer.rules.StateId} {turn : Turn lexer.rules.size}
  {read line : Text} {token : Token}

/-- The edges of a token are edges of words, but for those of the match, where it may cut. -/
theorem exists_span_of_mem_emit {start : Cursor} {meaning : Meaning lexer.rules.size}
    {found : Match} (hmem : meaning ∈ Form.start string header)
    (hfound : meaning.node.matchAt? start = some found) (hstart : start.StandsIn line)
    (htoken : token ∈ lexer.emit meaning.emit start found) :
    ∃ span, token.Tells span ∧ start.Encloses found.stop span ∧
      (span.start.InWord → span.start = start) ∧
      (span.stop.InWord → span.stop = found.stop ∧ Cuts token.category token.text) := by
  obtain ⟨passed, rest, -, rfl⟩ := hstart.exists_between
  obtain ⟨read, hread⟩ := Node.matchAt?_reads hfound
  have hstops := (ends_of_mem_start string header passed rest meaning hmem).matchAt? hfound
  cases hemit : meaning.emit with
  | whole label =>
      rw [hemit] at htoken hstops
      obtain rfl := List.mem_singleton.mp htoken
      refine ⟨_, lexer.tells_tokenOf _ _, .refl hread.passes, fun _ => rfl, fun hin => ⟨rfl, ?_⟩⟩
      obtain ⟨category, text, hlabel, hpasses, hcuts⟩ := hstops hin
      obtain rfl : label = .fixed category := Emit.whole.inj hlabel
      rwa [Lexer.tokenOf, hpasses.text]
  | groups labels =>
      rw [hemit] at htoken hstops
      obtain ⟨i, label, span, -, hspan, -, rfl⟩ := Lexer.mem_emit_groups.mp htoken
      have hparted : meaning.node.Parted := by
        refine (parted_of_mem_start string header meaning hmem).resolve_right ?_
        rintro ⟨label, hwhole⟩
        exact Emit.noConfusion (hemit.symm.trans hwhole)
      obtain ⟨hfront, hback⟩ := hread.parted hparted _ _ (Captures.mem_of_lookup hspan)
      refine ⟨span, lexer.tells_tokenOf _ _, (hread.encloses_lookup hspan).2, hfront, ?_⟩
      intro hin
      have hstop := hback hin
      rw [hstop] at hin
      obtain ⟨_, _, hwhole, -⟩ := hstops hin
      exact Emit.noConfusion hwhole

section Formed

variable (hstates : StatesFormed lexer.rules string header) (hstart : turn.start.StandsIn line)
  (htakes : lexer.Takes turn read)

include hstates hstart htakes

/-- **A token that begins inside a word begins its turn, and one that stops there cuts the word and
ends its turn.** -/
theorem edges_of_mem_tokensOf (hadv : turn.Advances) (hstate : turn.state = lexer.start)
    (htoken : token ∈ lexer.tokensOf turn) :
    (line.InsideWord token.start → token.start = turn.start.offset) ∧
      (line.InsideWord token.stop →
        token.stop = turn.stop.offset ∧ Cuts token.category token.text) := by
  have hstop : ∀ rule found, turn.finding = .matched rule found → found.stop = turn.stop :=
    fun _ _ hfinding => htakes.stop_eq hadv hfinding
  cases htakes with
  | @matched state start _ rule found _ _ hfirst _ _ _ =>
      obtain rfl : state = lexer.start := hstate
      obtain ⟨hrule, hfound⟩ := State.mem_of_firstMatch? hfirst
      have hmem : rule.meaning ∈ Form.start string header := by
        rw [← hstates.formed.startRules]
        exact List.mem_map_of_mem hrule
      obtain ⟨span, htells, hspan, hfront, hback⟩ :=
        exists_span_of_mem_emit hmem hfound hstart htoken
      obtain ⟨_, _, _, hbefore, htext, _⟩ := id hspan
      have hstandsFront := hstart.move hbefore
      constructor
      · intro hin
        rw [htells.start] at hin ⊢
        rw [hfront (hstandsFront.insideWord_iff.mp hin)]
      · intro hin
        rw [hspan.stop_eq htells] at hin ⊢
        obtain ⟨heq, hcuts⟩ := hback ((hstandsFront.move htext).insideWord_iff.mp hin)
        rw [heq, hstop rule found rfl]
        exact ⟨rfl, hcuts⟩
  | @unmatched state cur c rest _ _ =>
      obtain rfl : state = lexer.start := hstate
      have hnone : lexer.tokensOf ⟨lexer.start, cur, .unmatched c, cur.pass c rest⟩ = [] := by
        simp [Lexer.tokensOf, Lexer.start, hstates.formed.startDefault]
      rw [hnone] at htoken
      exact absurd htoken List.not_mem_nil

/-- In the start state, a character of a word is dropped only inside its word. -/
theorem inWord_of_drops (hstate : turn.state = lexer.start) {c : Char}
    (hfinding : turn.finding = .unmatched c) (hword : isWordChar c = true) :
    turn.start.InWord := by
  obtain ⟨-, rest, hrest, -⟩ := htakes.finding_unmatched hfinding
  obtain ⟨passed, more, -, hcur⟩ := hstart.exists_between
  rw [hcur] at hrest ⊢
  obtain rfl : more = c :: rest := hrest
  by_contra hout
  have hbefore : ∀ b ∈ passed.getLast?, isWordChar b = false := by
    intro b hb
    rw [Bool.eq_false_iff]
    intro hb'
    apply hout
    rw [Cursor.inWord_between_iff, Text.insideWord_byteLength_iff]
    exact ⟨⟨b, hb, hb'⟩, c, rfl, hword⟩
  -- The rule for words would match what begins here.
  have hmatch := Node.matchAt?_of_leads (leads_word (wholeWord_takeWhile hword rest) hbefore)
  rw [List.takeWhile_append_dropWhile] at hmatch
  have hnone := htakes.first?_eq_none hfinding
  rw [hstate, Lexer.start, hstates.formed.startRules, hcur, Meaning.first?_eq_none_iff] at hnone
  have hunmatched := hnone ⟨Form.word, .whole .keyword, none⟩ (by simp [Form.start])
  rw [hmatch] at hunmatched
  exact Option.some_ne_none _ hunmatched

/-- **A turn that stops inside a word, where the start state goes on, has cut the word with its last
token, or has dropped a character of it.** -/
theorem inWord_stop_of_takes (hnames : lexer.rules.stateNames = ["start", "string", "procmethdef"])
    (hadv : turn.Advances) (hexit : turn.exit = lexer.start) (hin : turn.stop.InWord) :
    turn.state = lexer.start ∧
      ((∃ token ∈ lexer.tokensOf turn,
          Cuts token.category token.text ∧ token.stop = turn.stop.offset) ∨
        ∃ c, turn.finding = .unmatched c ∧ isWordChar c = true) := by
  have hstop : ∀ rule found, turn.finding = .matched rule found → found.stop = turn.stop :=
    fun _ _ hfinding => htakes.stop_eq hadv hfinding
  cases htakes with
  | @matched state start _ rule found _ _ hfirst hread _ _ =>
      obtain rfl := hstop rule found rfl
      obtain ⟨hrule, hfound⟩ := State.mem_of_firstMatch? hfirst
      have hmem : rule.meaning ∈ (lexer.rules.state state).meanings := List.mem_map_of_mem hrule
      by_cases hstate : state = lexer.start
      · subst hstate
        rw [Lexer.start, hstates.formed.startRules] at hmem
        obtain ⟨passed, rest, -, rfl⟩ := hstart.exists_between
        obtain ⟨category, text, hemit, hpasses, hcuts⟩ :=
          (ends_of_mem_start string header passed rest _ hmem).matchAt? hfound hin
        have htokens : lexer.tokensOf ⟨lexer.start, .between passed rest, .matched rule found,
            found.stop⟩ = [lexer.tokenOf (.fixed category) ⟨.between passed rest, found.stop⟩] :=
          Lexer.tokensOf_of_whole rfl hemit
        have hspan := Cursor.Encloses.refl hpasses
        refine ⟨rfl, .inl ⟨_, ?_, ?_, hspan.stop_eq (lexer.tells_tokenOf (.fixed category) _)⟩⟩
        · rw [htokens]
          exact List.mem_singleton_self _
        · rwa [Lexer.tokenOf, hpasses.text]
      · -- Another state is left by rules that stop at the edge of a word.
        have hnext : rule.meaning.next ≠ none := by
          intro hnone
          have hstays : rule.next.getD state = lexer.start := hexit
          rw [show rule.next = none from hnone] at hstays
          exact hstate hstays
        have hother : rule.meaning ∈ Form.string lexer.start ++ Form.header lexer.start := by
          rcases (hstates.eq_or hnames state).resolve_left hstate with rfl | rfl
          · rw [hstates.formed.stringRules] at hmem
            exact List.mem_append_left _ hmem
          · rw [hstates.headerRules] at hmem
            exact List.mem_append_right _ hmem
        exact absurd hin (hread.not_inWord_of_settles (settles_of_next hother hnext))
  | @unmatched state cur c rest _ hrest =>
      obtain ⟨hbefore, -⟩ := hin
      exact ⟨hexit, .inr ⟨c, rfl, by rw [← asciiWord_contains]; exact hbefore⟩⟩

/-- What cuts a word is a token wherever the start state comes to it. -/
theorem tokensOf_of_cuts (hstate : turn.state = lexer.start) {category : Category} {text rest : Text}
    (hcuts : Cuts category text) (hrest : turn.start.rest = text ++ rest) :
    lexer.tokensOf turn = [⟨category, turn.start.offset, text⟩] := by
  obtain ⟨passed, more, -, hcur⟩ := hstart.exists_between
  rw [hcur] at hrest
  obtain rfl : more = text ++ rest := hrest
  obtain ⟨node, hfirst⟩ := first?_of_cuts string header hcuts passed rest
  rw [← hstates.formed.startRules, ← Lexer.start, ← hstate, ← hcur] at hfirst
  obtain ⟨rule, hfinding, hmeaning⟩ := htakes.exists_rule hfirst
  have htext : (Span.mk turn.start (.between (passed ++ text) rest)).text = text := by
    rw [hcur]
    exact Span.text_across passed text rest
  rw [Lexer.tokensOf_of_whole hfinding (congrArg Meaning.emit hmeaning), Lexer.tokenOf, htext]
  rfl

end Formed

end Turns

/-! ### What is left of a word that was cut -/

section Lines

variable {lexer : Lexer} {string header entered state : lexer.rules.StateId} {line : Text}

/-- From a token that cuts a word up to the offset, there is nothing but characters of that word. -/
def RestOfCut (lexer : Lexer) (entered : lexer.rules.StateId) (line : Text) (offset : Nat) : Prop :=
  ∃ cut, lexer.EmitsIn lexer.start entered line cut ∧ RunsOn line cut ∧
    ∃ tail, line.slice? cut.stop offset = some tail ∧ ∀ c ∈ tail, isWordChar c = true

variable (hstates : StatesFormed lexer.rules string header)
  (hnames : lexer.rules.stateNames = ["start", "string", "procmethdef"])
  (hwidths : lexer.rules.WidthsSound)

include hstates hnames hwidths

/-- A turn keeps the cursor behind a cut, if it is inside a word. -/
theorem restOfCut_stop {turn : Turn lexer.rules.size} {read : Text}
    (hturn : turn ∈ lexer.lineTurns entered line) (hstart : turn.start.StandsIn line)
    (htakes : lexer.Takes turn read)
    (hrest : turn.state = lexer.start → turn.start.InWord →
      RestOfCut lexer entered line turn.start.offset)
    (hexit : turn.exit = lexer.start) (hin : turn.stop.InWord) :
    RestOfCut lexer entered line turn.stop.offset := by
  have hstop := hstart.move htakes.passes
  obtain ⟨hstate, hcut | ⟨c, hfinding, hword⟩⟩ :=
    inWord_stop_of_takes hstates hstart htakes hnames (htakes.advances hwidths) hexit hin
  · obtain ⟨token, htoken, hcuts, heq⟩ := hcut
    have hemits : lexer.EmitsIn lexer.start entered line token := ⟨turn, hturn, hstate, htoken⟩
    have hinside : line.InsideWord token.stop := by
      rw [heq]
      exact hstop.insideWord_iff.mpr hin
    refine ⟨token, hemits, (insideWord_stop_iff hemits.isSliceOf hcuts).mp hinside, [], ?_, ?_⟩
    · rw [heq]
      exact hstop.slice (.refl _)
    · intro c hc
      exact absurd hc List.not_mem_nil
  · obtain ⟨cut, hemits, hruns, tail, htail, hchars⟩ :=
      hrest hstate (inWord_of_drops hstates hstart htakes hstate hfinding hword)
    have hread : read = [c] := by
      cases htakes with
      | matched => exact absurd hfinding (by simp)
      | unmatched => rw [Finding.unmatched.inj hfinding]
    have hslice := Text.slice?_join htail (hstart.slice htakes.passes)
    refine ⟨cut, hemits, hruns, tail ++ read, hslice, ?_⟩
    rw [hread]
    exact List.forall_mem_append.mpr ⟨hchars, List.forall_mem_singleton.mpr hword⟩

/-- **The lexer comes to the inside of a word only behind a cut.** -/
theorem restOfCut_of_runs {cur : Cursor} {turns : List (Turn lexer.rules.size)}
    (h : lexer.Runs state cur turns) (hcur : cur.StandsIn line)
    (hturns : ∀ turn ∈ turns, turn ∈ lexer.lineTurns entered line)
    (hrest : state = lexer.start → cur.InWord → RestOfCut lexer entered line cur.offset) :
    ∀ turn ∈ turns, turn.state = lexer.start → turn.start.InWord →
      RestOfCut lexer entered line turn.start.offset := by
  induction h with
  | done _ =>
      intro turn hmem
      exact absurd hmem List.not_mem_nil
  | turn hstate hstart htakes _ ih =>
      subst hstate hstart
      intro turn hmem
      rcases List.mem_cons.mp hmem with rfl | hmem
      · exact hrest
      · exact ih (hcur.move htakes.passes)
          (fun turn hmem => hturns turn (List.mem_cons_of_mem _ hmem))
          (restOfCut_stop hstates hnames hwidths (hturns _ List.mem_cons_self) hcur htakes hrest)
          turn hmem

/-- In the start state, a turn is taken inside a word only behind a cut. -/
theorem restOfCut_of_mem_lineTurns {turn : Turn lexer.rules.size}
    (hturn : turn ∈ lexer.lineTurns entered line) (hstate : turn.state = lexer.start)
    (hin : turn.start.InWord) : RestOfCut lexer entered line turn.start.offset := by
  -- No line begins inside a word.
  have hfirst : ¬ (Cursor.start line).InWord := Cursor.not_inWord_of_before (by rintro _ ⟨⟩)
  exact restOfCut_of_runs hstates hnames hwidths (lexer.lineTurns_runs entered line)
    (.atStart line) (fun _ hmem => hmem) (fun _ hin => absurd hin hfirst) turn hturn hstate hin

/-- So is a token that begins there. -/
theorem restOfCut_of_emitsIn {token : Token}
    (hemits : lexer.EmitsIn lexer.start entered line token) (hin : line.InsideWord token.start) :
    RestOfCut lexer entered line token.start := by
  obtain ⟨turn, hturn, hstate, htoken⟩ := hemits
  obtain ⟨hstart, _, htakes⟩ :=
    (lexer.lineTurns_runs entered line).standsIn (.atStart line) turn hturn
  have hedges := edges_of_mem_tokensOf hstates hstart htakes (htakes.advances hwidths) hstate htoken
  have hoffset := hedges.1 hin
  rw [hoffset] at hin ⊢
  exact restOfCut_of_mem_lineTurns hstates hnames hwidths hturn hstate
    (hstart.insideWord_iff.mp hin)

/-- So is a character of a word that is dropped. -/
theorem restOfCut_of_drops {turn : Turn lexer.rules.size}
    (hturn : turn ∈ lexer.lineTurns entered line) (hstate : turn.state = lexer.start) {c : Char}
    (hfinding : turn.finding = .unmatched c) (hword : isWordChar c = true) :
    RestOfCut lexer entered line turn.start.offset := by
  obtain ⟨hstart, _, htakes⟩ :=
    (lexer.lineTurns_runs entered line).standsIn (.atStart line) turn hturn
  exact restOfCut_of_mem_lineTurns hstates hnames hwidths hturn hstate
    (inWord_of_drops hstates hstart htakes hstate hfinding hword)

omit hnames in
/-- **A token of the start state stops inside a word exactly if it is a parameter or a comparison
that runs on.** -/
theorem insideWord_stop_iff_of_emitsIn {token : Token}
    (hemits : lexer.EmitsIn lexer.start entered line token) :
    line.InsideWord token.stop ↔ RunsOn line token := by
  obtain ⟨turn, hturn, hstate, htoken⟩ := id hemits
  obtain ⟨hstart, _, htakes⟩ :=
    (lexer.lineTurns_runs entered line).standsIn (.atStart line) turn hturn
  have hedges := edges_of_mem_tokensOf hstates hstart htakes (htakes.advances hwidths) hstate htoken
  constructor
  · intro hin
    exact (insideWord_stop_iff hemits.isSliceOf (hedges.2 hin).2).mp hin
  · intro hruns
    exact (insideWord_stop_iff hemits.isSliceOf hruns.cuts).mpr hruns

omit hnames hwidths in
/-- What cuts a word is the first token of a line that begins with it. -/
theorem emitsIn_of_cuts {category : Category} {text : Text} (hcuts : Cuts category text)
    (rest : Text) : lexer.EmitsIn lexer.start lexer.start (text ++ rest) ⟨category, 0, text⟩ := by
  have hne : text ++ rest ≠ [] := by
    obtain ⟨c, hlast, -⟩ := hcuts.exists_last
    rintro hnil
    rw [(List.append_eq_nil_iff.mp hnil).1] at hlast
    exact absurd hlast (by simp)
  obtain ⟨turn, hturn, hstate, hcur⟩ := Lexer.exists_first_turn lexer.start hne
  obtain ⟨hstart, _, htakes⟩ :=
    (lexer.lineTurns_runs lexer.start (text ++ rest)).standsIn (.atStart _) turn hturn
  have hrest : turn.start.rest = text ++ rest := by
    rw [hcur]
    rfl
  refine ⟨turn, hturn, hstate, ?_⟩
  rw [tokensOf_of_cuts hstates hstart htakes hstate hcuts hrest, hcur]
  exact List.mem_singleton_self _

/-! ### Every word of every line -/

/-- How the words of a line, entered in a state, are tokenized in the start state. -/
structure WholeWords (lexer : Lexer) (entered : lexer.rules.StateId) (line : Text) : Prop where
  /-- A token stops inside a word exactly if it is a parameter or a comparison that runs on. -/
  stops : ∀ token, lexer.EmitsIn lexer.start entered line token →
    (line.InsideWord token.stop ↔ RunsOn line token)
  /-- Wherever the lexer comes to one of these, it is the token. -/
  cuts : ∀ turn ∈ lexer.lineTurns entered line, turn.state = lexer.start →
    ∀ category text rest, Cuts category text → turn.start.rest = text ++ rest →
      lexer.tokensOf turn = [⟨category, turn.start.offset, text⟩]
  /-- A token begins inside a word only behind a token that has cut it. -/
  starts : ∀ token, lexer.EmitsIn lexer.start entered line token → line.InsideWord token.start →
    RestOfCut lexer entered line token.start
  /-- A character of a word is dropped only behind a token that has cut it. -/
  dropped : ∀ turn ∈ lexer.lineTurns entered line, turn.state = lexer.start →
    ∀ c, turn.finding = .unmatched c → isWordChar c = true →
      RestOfCut lexer entered line turn.start.offset
  /-- The words are whole, and nothing of them is dropped, exactly if no such token runs on. -/
  whole : ((∀ token, lexer.EmitsIn lexer.start entered line token →
      ¬ line.InsideWord token.start ∧ ¬ line.InsideWord token.stop) ∧
    ∀ turn ∈ lexer.lineTurns entered line, turn.state = lexer.start →
      ∀ c, turn.finding = .unmatched c → isWordChar c = false) ↔
    ∀ token, lexer.EmitsIn lexer.start entered line token → ¬ RunsOn line token

end Lines

/-- **Words are tokenized whole, but for parameters with longer names than two characters and for
comparisons that are spelled with letters.**  In every line, whichever state it is entered in, only
these stop inside a word, and nothing but what they leave of it begins there or is dropped. -/
theorem exists_lexer_wholeWords (line : Text) :
    ∃ lexer, Gibiane.lexer = .ok lexer ∧ ∀ entered : lexer.rules.StateId,
      WholeWords lexer entered line := by
  obtain ⟨lexer, hlexer, ⟨string, header, hstates⟩, -⟩ := exists_lexer_statesFormed
  obtain ⟨other, hother, -, hsound⟩ := exists_lexer
  obtain rfl := Except.ok.inj (hlexer.symm.trans hother)
  have hwidths := hsound.widths.widthsSound
  refine ⟨lexer, hlexer, fun entered => ?_⟩
  have hstops : ∀ token, lexer.EmitsIn lexer.start entered line token →
      (line.InsideWord token.stop ↔ RunsOn line token) :=
    fun _ hemits => insideWord_stop_iff_of_emitsIn hstates hwidths hemits
  have hstarts : ∀ token, lexer.EmitsIn lexer.start entered line token →
      line.InsideWord token.start → RestOfCut lexer entered line token.start :=
    fun _ hemits hin => restOfCut_of_emitsIn hstates hsound.names hwidths hemits hin
  have hdropped : ∀ turn ∈ lexer.lineTurns entered line, turn.state = lexer.start →
      ∀ c, turn.finding = .unmatched c → isWordChar c = true →
        RestOfCut lexer entered line turn.start.offset :=
    fun _ hturn hstate _ hfinding hword =>
      restOfCut_of_drops hstates hsound.names hwidths hturn hstate hfinding hword
  refine ⟨hstops, ?_, hstarts, hdropped, ?_⟩
  · intro turn hturn hstate category text rest hcuts hrest
    obtain ⟨hstart, _, htakes⟩ :=
      (lexer.lineTurns_runs entered line).standsIn (.atStart line) turn hturn
    exact tokensOf_of_cuts hstates hstart htakes hstate hcuts hrest
  · constructor
    · intro hwhole token hemits hruns
      exact (hwhole.1 token hemits).2 ((hstops token hemits).mpr hruns)
    · intro hnone
      have hrest : ∀ offset, ¬ RestOfCut lexer entered line offset := by
        rintro offset ⟨cut, hemits, hruns, -⟩
        exact hnone cut hemits hruns
      refine ⟨fun token hemits => ⟨fun hin => ?_, fun hin => ?_⟩, ?_⟩
      · exact hrest _ (hstarts token hemits hin)
      · exact hnone token hemits ((hstops token hemits).mp hin)
      · intro turn hturn hstate c hfinding
        rw [Bool.eq_false_iff]
        exact fun hword => hrest _ (hdropped turn hturn hstate c hfinding hword)

/-- Nothing runs on where none of the three signs stands. -/
theorem not_runsOn_of_not_mem {line : Text} (hparameter : '&' ∉ line) (hless : '<' ∉ line)
    (hgreater : '>' ∉ line) (token : Token) : ¬ RunsOn line token := by
  rintro ⟨hcuts, before, c, after, rfl, -, -⟩
  obtain ⟨d, hhead, hd⟩ := hcuts.exists_head
  have hmem : d ∈ before ++ (token.text ++ c :: after) := by simp [List.mem_of_mem_head? hhead]
  simp only [List.mem_cons, List.not_mem_nil, or_false] at hd
  rcases hd with rfl | rfl | rfl
  · exact hparameter hmem
  · exact hless hmem
  · exact hgreater hmem

/-- Names, a keyword, an operator and a number are whole, and a comparison is cut off its word. -/
theorem wholeWords_comparison :
    ∃ lexer, Gibiane.lexer = .ok lexer ∧
      (∀ token, lexer.EmitsIn lexer.start lexer.start "si x ega 2;".toList token →
        ¬ Text.InsideWord "si x ega 2;".toList token.start ∧
          ¬ Text.InsideWord "si x ega 2;".toList token.stop) ∧
      lexer.EmitsIn lexer.start lexer.start ">egb".toList ⟨.operator, 0, ">eg".toList⟩ ∧
        Text.InsideWord ">egb".toList 3 := by
  obtain ⟨lexer, hlexer, hwhole⟩ := exists_lexer_wholeWords "si x ega 2;".toList
  obtain ⟨other, hother, hcut⟩ := exists_lexer_wholeWords ">egb".toList
  obtain rfl := Except.ok.inj (hlexer.symm.trans hother)
  obtain ⟨other, hother, ⟨string, header, hstates⟩, -⟩ := exists_lexer_statesFormed
  obtain rfl := Except.ok.inj (hlexer.symm.trans hother)
  have hnone : ∀ token, ¬ RunsOn "si x ega 2;".toList token :=
    not_runsOn_of_not_mem (by decide) (by decide) (by decide)
  have hsign : '>' ∈ ['<', '>'] := by decide
  have hcuts : Cuts .operator ">eg".toList := .comparison hsign (by decide)
  have hemits := emitsIn_of_cuts hstates hcuts ['b']
  have hruns : RunsOn ">egb".toList ⟨.operator, 0, ">eg".toList⟩ :=
    ⟨hcuts, [], 'b', [], rfl, rfl, by decide⟩
  exact ⟨lexer, hlexer, ((hwhole lexer.start).whole.mpr fun token _ => hnone token).1, hemits,
    ((hcut lexer.start).stops _ hemits).mpr hruns⟩

/-- A parameter that is cut: its third character is left for another token. -/
theorem emitsIn_cutParameter :
    ∃ lexer, Gibiane.lexer = .ok lexer ∧
      lexer.EmitsIn lexer.start lexer.start "&AB1".toList ⟨.parameter, 0, "&AB".toList⟩ ∧
        Text.InsideWord "&AB1".toList 3 := by
  obtain ⟨lexer, hlexer, ⟨string, header, hstates⟩, -⟩ := exists_lexer_statesFormed
  have hcuts : Cuts .parameter "&AB".toList := .parameter (by decide) (by decide)
  exact ⟨lexer, hlexer, emitsIn_of_cuts hstates hcuts ['1'],
    ['&', 'A'], 'B', '1', [], rfl, rfl, by decide, by decide⟩

end Gibiane

end LineLexer
