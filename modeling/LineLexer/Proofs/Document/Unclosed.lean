/-
Where an unterminated construct was opened.

The loop over the lines of a document keeps one place, where the state that is still
active was entered, and updates it line by line: forgets it in the start state, moves it
to the last match of the line that named a state, or leaves it alone.  What a host wants
to know is said of the whole run instead: `history` lists all turns of the document, and
the place must be that of its last turn that named a state.

The two agree because a line without such a turn ends in the state it was entered in
(`Runs.exitOf_eq`).  So a state other than the start state has always been entered by a
turn of the history, and the loop is never left without a place to report.
-/
import LineLexer.Proofs.Document.Restart
import LineLexer.Proofs.Line.Soundness

namespace LineLexer

/-- Whether a rule matched that names the state that follows. -/
def Turn.Switches {n : Nat} (turn : Turn n) : Prop :=
  ∃ rule found, turn.finding = .matched rule found ∧ rule.next.isSome = true

theorem Turn.switches_iff {n : Nat} {turn : Turn n} :
    turn.Switches ↔ turn.switch? = some turn.start.offset := by
  unfold Turn.Switches Turn.switch?
  cases turn.finding with
  | matched rule found => simp [Option.isSome_iff_exists]
  | unmatched c => simp

theorem Turn.switch?_eq_none_iff {n : Nat} {turn : Turn n} :
    turn.switch? = none ↔ ¬ turn.Switches := by
  unfold Turn.Switches Turn.switch?
  cases turn.finding with
  | matched rule found => simp
  | unmatched c => simp

/-- Only a turn that names a state leaves the state. -/
theorem Turn.exit_of_not_switches {n : Nat} {turn : Turn n} (h : ¬ turn.Switches) :
    turn.exit = turn.state := by
  unfold Turn.exit
  cases hfinding : turn.finding with
  | matched rule found =>
      have hnext : rule.next = none := by
        rw [Option.eq_none_iff_forall_ne_some]
        intro next hnext
        exact h ⟨rule, found, hfinding, by rw [hnext]; rfl⟩
      simp [hnext]
  | unmatched c => rfl

/-- A turn of a document, with the line on which it was taken. -/
structure PlacedTurn (n : Nat) where
  /-- The index of the line. -/
  line : Nat
  /-- Byte offset of the line in the document. -/
  offset : Nat
  /-- The turn. -/
  turn : Turn n

/-- The place of the last turn of a history that named the state that followed it. -/
def lastPlace? {n : Nat} (history : List (PlacedTurn n)) : Option OpenPlace :=
  history.reverse.findSome? fun p => p.turn.switch?.map fun column => ⟨p.line, p.offset + column⟩

theorem lastPlace?_append {n : Nat} (history more : List (PlacedTurn n)) :
    lastPlace? (history ++ more) = (lastPlace? more).or (lastPlace? history) := by
  rw [lastPlace?, List.reverse_append, List.findSome?_append]
  rfl

/-- The last switch of a history, with what came before it and after it. -/
theorem exists_of_lastPlace? {n : Nat} {history : List (PlacedTurn n)} {place : OpenPlace}
    (h : lastPlace? history = some place) :
    ∃ earlier p later, history = earlier ++ p :: later ∧ p.turn.Switches ∧
      (∀ q ∈ later, ¬ q.turn.Switches) ∧ place = ⟨p.line, p.offset + p.turn.start.offset⟩ := by
  obtain ⟨later, p, earlier, hsplit, hp, hlater⟩ := List.findSome?_eq_some_iff.mp h
  obtain ⟨column, hcolumn, rfl⟩ := Option.map_eq_some_iff.mp hp
  have hswitches : p.turn.Switches := by
    by_contra hnot
    rw [Turn.switch?_eq_none_iff.mpr hnot] at hcolumn
    simp at hcolumn
  rw [Turn.switches_iff.mp hswitches] at hcolumn
  obtain rfl := Option.some.inj hcolumn
  refine ⟨earlier.reverse, p, later.reverse, ?_, hswitches, ?_, rfl⟩
  · rw [← List.reverse_reverse history, hsplit, List.reverse_append, List.reverse_cons,
      List.append_assoc, List.singleton_append]
  · intro q hq
    rw [← Turn.switch?_eq_none_iff]
    simpa using hlater q (List.mem_reverse.mp hq)

/-- The span handed to a host, whose offsets have 32 bits; none where it would stop before it
starts. -/
def IncompleteConstruct.span? (e : IncompleteConstruct) : Option (UInt32 × UInt32) :=
  if e.start.toUInt32 ≤ e.stop.toUInt32 then some (e.start.toUInt32, e.stop.toUInt32) else none

theorem IncompleteConstruct.exists_span? {e : IncompleteConstruct} (hle : e.start ≤ e.stop)
    (hlt : e.stop < UInt32.size) :
    ∃ start stop, e.span? = some (start, stop) ∧ start.toNat = e.start ∧ stop.toNat = e.stop := by
  have hstart : e.start.toUInt32.toNat = e.start :=
    UInt32.toNat_ofNat_of_lt (Nat.lt_of_le_of_lt hle hlt)
  have hstop : e.stop.toUInt32.toNat = e.stop := UInt32.toNat_ofNat_of_lt hlt
  refine ⟨_, _, if_pos ?_, hstart, hstop⟩
  rw [UInt32.le_iff_toNat_le, hstart, hstop]
  exact hle

namespace Lexer

variable {lexer : Lexer}

/-- The turns of the line with number `index` of a document. -/
def placedTurns (lexer : Lexer) (line : LexedLine lexer.rules.size) (index : Nat) :
    List (PlacedTurn lexer.rules.size) :=
  (lexer.lineTurns line.entered line.text).map (⟨index, line.offset, ·⟩)

/-- The turns of some lines, the first of which has number `index`. -/
def historyOf (lexer : Lexer) (lines : List (LexedLine lexer.rules.size)) (index : Nat) :
    List (PlacedTurn lexer.rules.size) :=
  (lines.zipIdx index).flatMap fun (line, i) => lexer.placedTurns line i

/-- All turns of a document, from its first line to its last. -/
def history (lexer : Lexer) (text : Text) : List (PlacedTurn lexer.rules.size) :=
  lexer.historyOf (lexer.tokenizeDocument text).lines 0

theorem historyOf_cons (line : LexedLine lexer.rules.size)
    (lines : List (LexedLine lexer.rules.size)) (index : Nat) :
    lexer.historyOf (line :: lines) index =
      lexer.placedTurns line index ++ lexer.historyOf lines (index + 1) := by
  simp [historyOf]

/-! ### One line -/

/-- The last switch of a line, as a place in the document. -/
theorem lastPlace?_placedTurns (line : LexedLine lexer.rules.size) (index : Nat) :
    lastPlace? (lexer.placedTurns line index) =
      (lastSwitch? (lexer.lineTurns line.entered line.text)).map
        fun column => ⟨index, line.offset + column⟩ := by
  simp only [lastPlace?, placedTurns, lastSwitch?, ← List.map_reverse, List.findSome?_map]
  rw [List.map_findSome?]
  rfl

/-- Turns none of which names a state end in the state they were entered in. -/
theorem Runs.exitOf_eq {state : lexer.rules.StateId} {cur : Cursor}
    {turns : List (Turn lexer.rules.size)} (h : lexer.Runs state cur turns)
    (hnone : ∀ turn ∈ turns, ¬ turn.Switches) : exitOf state turns = state := by
  induction h with
  | done _ => rfl
  | @turn state cur turn turns _ hstate _ _ _ ih =>
      have hexit : turn.exit = state := by
        rw [Turn.exit_of_not_switches (hnone turn List.mem_cons_self), hstate]
      have hrest := ih fun later hlater => hnone later (List.mem_cons_of_mem _ hlater)
      rw [hexit] at hrest
      cases turns with
      | nil => simpa [exitOf] using hexit
      | cons next turns => simpa [exitOf] using hrest

/-- A line without a switch ends in the state it was entered in. -/
theorem tokenizeLine_exit_of_lastSwitch? {state : lexer.rules.StateId} {line : Text}
    (h : lastSwitch? (lexer.lineTurns state line) = none) :
    (lexer.tokenizeLine state line).2 = state := by
  refine (lexer.lineTurns_runs state line).exitOf_eq ?_
  intro turn hturn
  rw [← Turn.switch?_eq_none_iff]
  exact List.findSome?_eq_none_iff.mp h turn (List.mem_reverse.mpr hturn)

/-! ### The place the loop keeps -/

/-- The place kept is that of the last switch so far, unless the state is the start state, and a
state other than the start state has been switched to. -/
structure KeepsPlace (lexer : Lexer) (history : List (PlacedTurn lexer.rules.size))
    (state : lexer.rules.StateId) (opened : Option OpenPlace) : Prop where
  eq : opened = if lexer.isStart state then none else lastPlace? history
  isSome : lexer.isStart state = false → opened.isSome = true

theorem keepsPlace_start : lexer.KeepsPlace [] lexer.start none := by
  have hstart : lexer.isStart lexer.start = true := by simp [isStart]
  refine ⟨by simp [hstart], ?_⟩
  intro hfalse
  rw [hstart] at hfalse
  exact Bool.noConfusion hfalse

/-- Whatever place is kept before a line, one is kept after it where that is needed: either the line
has a switch, or it is the place kept before. -/
theorem KeepsPlace.isSome_of_lastSwitch? {history : List (PlacedTurn lexer.rules.size)}
    {state : lexer.rules.StateId} {opened : Option OpenPlace}
    (h : lexer.KeepsPlace history state opened) {line : Text}
    (hexit : lexer.isStart (lexer.tokenizeLine state line).2 = false)
    (hnone : lastSwitch? (lexer.lineTurns state line) = none) : opened.isSome = true := by
  rw [tokenizeLine_exit_of_lastSwitch? hnone] at hexit
  exact h.isSome hexit

theorem KeepsPlace.line {history : List (PlacedTurn lexer.rules.size)}
    {state : lexer.rules.StateId} {opened : Option OpenPlace}
    (h : lexer.KeepsPlace history state opened) (line : LexedLine lexer.rules.size) (index : Nat)
    (hentered : line.entered = state) :
    lexer.KeepsPlace (history ++ lexer.placedTurns line index)
      (lexer.tokenizeLine state line.text).2
      (lexer.openedAfter opened index line.offset (lexer.tokenizeLine state line.text).2
        (lastSwitch? (lexer.lineTurns state line.text))) := by
  have hplaced := lexer.lastPlace?_placedTurns line index
  rw [hentered] at hplaced
  cases hexit : lexer.isStart (lexer.tokenizeLine state line.text).2 with
  | true => exact ⟨by simp [openedAfter, hexit], by simp [hexit]⟩
  | false =>
      cases hlast : lastSwitch? (lexer.lineTurns state line.text) with
      | some column =>
          rw [hlast] at hplaced
          refine ⟨?_, by simp [openedAfter, hexit]⟩
          simp [openedAfter, hexit, lastPlace?_append, hplaced]
      | none =>
          rw [hlast] at hplaced
          have hsome := h.isSome_of_lastSwitch? hexit hlast
          obtain ⟨place, hplace⟩ := Option.isSome_iff_exists.mp hsome
          have hstate := tokenizeLine_exit_of_lastSwitch? hlast
          have heq := h.eq
          rw [← hstate, hexit] at heq
          refine ⟨?_, by simp [openedAfter, hexit]⟩
          simp only [openedAfter, hexit, lastPlace?_append, hplaced, Option.map_none,
            Option.none_or]
          simp_all

/-- **The loop keeps the place of the last switch of the run.** -/
theorem lexLines_keepsPlace (raws : List Text) (index offset : Nat)
    {history : List (PlacedTurn lexer.rules.size)} {state : lexer.rules.StateId}
    {opened : Option OpenPlace} (h : lexer.KeepsPlace history state opened) :
    lexer.KeepsPlace (history ++ lexer.historyOf (lexer.lexFrom state offset raws) index)
      (lexer.lexLines raws index offset state opened).2.1
      (lexer.lexLines raws index offset state opened).2.2 := by
  induction raws generalizing index offset state opened history with
  | nil => simpa [lexFrom, historyOf, lexLines] using h
  | cons raw raws ih =>
      rw [lexFrom, historyOf_cons, ← List.append_assoc]
      exact ih _ _ (h.line ⟨Text.stripReturn raw, offset, state, _⟩ index rfl)

theorem tokenizeDocument_keepsPlace (text : Text) :
    lexer.KeepsPlace (lexer.history text) (lexer.tokenizeDocument text).exit
      (lexer.tokenizeDocument text).opened := by
  have h := lexer.lexLines_keepsPlace text.rawLines 0 0 keepsPlace_start
  rw [List.nil_append, ← (lexer.tokenizeDocument_eq text).1] at h
  exact h

/-! ### Where the turns of a document stand -/

/-- A line of a document is one of the text, at the offset the lines before it leave. -/
theorem exists_raw_of_getElem?_lexFrom {raws : List Text} {state : lexer.rules.StateId}
    {offset i : Nat} {line : LexedLine lexer.rules.size}
    (h : (lexer.lexFrom state offset raws)[i]? = some line) :
    ∃ earlier raw later, raws = earlier ++ raw :: later ∧ earlier.length = i ∧
      line.offset = offset + Text.bytesOf earlier ∧ line.text = Text.stripReturn raw := by
  induction raws generalizing state offset i with
  | nil => simp [lexFrom] at h
  | cons raw raws ih =>
      cases i with
      | zero =>
          obtain rfl := Option.some.inj h
          exact ⟨[], raw, raws, rfl, rfl, rfl, rfl⟩
      | succ i =>
          obtain ⟨earlier, raw', later, rfl, rfl, hoffset, htext⟩ := ih (i := i) h
          refine ⟨raw :: earlier, raw', later, rfl, rfl, ?_, htext⟩
          rw [hoffset, Text.bytesOf_cons]
          omega

/-- The place of a turn lies before the end of the text, on the line it says. -/
theorem exists_before_of_mem_history {text : Text} {p : PlacedTurn lexer.rules.size}
    (hp : p ∈ lexer.history text) :
    ∃ before after, text = before ++ after ∧ after ≠ [] ∧
      before.byteLength = p.offset + p.turn.start.offset ∧ before.count '\n' = p.line := by
  obtain ⟨⟨line, i⟩, hplaced, hp⟩ := List.mem_flatMap.mp hp
  obtain ⟨turn, hturn, rfl⟩ := List.mem_map.mp hp
  have hline := List.mem_zipIdx_iff_getElem?.mp hplaced
  rw [(lexer.tokenizeDocument_eq text).1] at hline
  obtain ⟨earlier, raw, later, hraws, hindex, hoffset, htext⟩ :=
    exists_raw_of_getElem?_lexFrom hline
  obtain ⟨before, after, hsplit, hbytes, hcount⟩ := Text.exists_before_of_rawLines hraws
  -- The turn starts before a character of the line, so the line feeds before it are those before
  -- the line.
  obtain ⟨hstands, read, htakes⟩ :=
    (lexer.lineTurns_runs line.entered line.text).standsIn (.atStart line.text) turn hturn
  obtain ⟨passed, hpassed, hbyte, -⟩ := hstands.splitBytes
  obtain ⟨ending, hending⟩ := raw.exists_ending
  have hraw : raw = passed ++ (turn.start.rest ++ ending) := by
    rw [← List.append_assoc, ← hpassed, htext, ← hending]
  have hmem : raw ∈ text.rawLines := by
    rw [hraws]
    simp
  have hfeeds : passed.count '\n' = 0 := by
    rw [List.count_eq_zero]
    intro hfeed
    refine Text.not_mem_of_mem_rawLines hmem ?_
    rw [hraw]
    exact List.mem_append_left _ hfeed
  refine ⟨before ++ passed, turn.start.rest ++ ending ++ after, ?_, ?_, ?_, ?_⟩
  · rw [hsplit, hraw]
    simp
  · rw [htakes.passes.rest]
    have hne := htakes.ne_nil
    simp [hne]
  · rw [Text.byteLength_append, hbytes, ← hbyte]
    show _ = line.offset + turn.start.offset
    rw [hoffset, Nat.zero_add]
  · rw [List.count_append, hcount, hfeeds, hindex, Nat.add_zero]

/-! ### The report -/

/-- What the report of an unterminated construct says of the run of a text. -/
structure UnclosedReported (lexer : Lexer) (text : Text) : Prop where
  /-- There is one exactly if the document ends outside the start state. -/
  isSome_iff : (lexer.tokenizeDocument text).incompleteConstruct?.isSome = true ↔
    (lexer.tokenizeDocument text).exit ≠ lexer.start
  /-- It tells of the last match of the run that named a state, and of nothing after it. -/
  last : ∀ e, (lexer.tokenizeDocument text).incompleteConstruct? = some e →
    ∃ earlier p later, lexer.history text = earlier ++ p :: later ∧ p.turn.Switches ∧
      (∀ q ∈ later, ¬ q.turn.Switches) ∧
      e = ⟨lexer.rules.stateName (lexer.tokenizeDocument text).exit, p.line,
        p.offset + p.turn.start.offset, text.byteLength⟩
  /-- It starts before a character of the text, on the line it names. -/
  place : ∀ e, (lexer.tokenizeDocument text).incompleteConstruct? = some e →
    ∃ before after, text = before ++ after ∧ before.byteLength = e.start ∧
      before.count '\n' = e.line ∧ e.start < e.stop
  /-- Its span can be built, and nothing of it is cut off. -/
  span : ∀ e, (lexer.tokenizeDocument text).incompleteConstruct? = some e →
    ∃ start stop, e.span? = some (start, stop) ∧ start.toNat = e.start ∧ stop.toNat = e.stop
  /-- A line that ends outside the start state without a switch finds a place kept from the lines
  before it. -/
  kept : ∀ earlier raw later, text.rawLines = earlier ++ raw :: later →
    lexer.isStart
        (lexer.tokenizeLine (lexer.exitFrom lexer.start earlier) (Text.stripReturn raw)).2 = false →
    lastSwitch?
        (lexer.lineTurns (lexer.exitFrom lexer.start earlier) (Text.stripReturn raw)) = none →
    (lexer.lexLines earlier 0 0 lexer.start none).2.2.isSome = true

theorem isSome_incompleteConstruct?_iff (text : Text) :
    (lexer.tokenizeDocument text).incompleteConstruct?.isSome = true ↔
      (lexer.tokenizeDocument text).exit ≠ lexer.start := by
  have h := lexer.tokenizeDocument_keepsPlace text
  rw [Document.incompleteConstruct?, Option.isSome_map]
  constructor
  · intro hsome hexit
    rw [h.eq, if_pos (by simp [isStart, hexit])] at hsome
    simp at hsome
  · intro hexit
    exact h.isSome (by simp [isStart, hexit])

/-- The report, read off the place the loop has kept. -/
theorem exists_last_of_incompleteConstruct? {text : Text} {e : IncompleteConstruct}
    (he : (lexer.tokenizeDocument text).incompleteConstruct? = some e) :
    ∃ earlier p later, lexer.history text = earlier ++ p :: later ∧ p.turn.Switches ∧
      (∀ q ∈ later, ¬ q.turn.Switches) ∧
      e = ⟨lexer.rules.stateName (lexer.tokenizeDocument text).exit, p.line,
        p.offset + p.turn.start.offset, text.byteLength⟩ := by
  obtain ⟨place, hplace, rfl⟩ := Option.map_eq_some_iff.mp he
  rw [(lexer.tokenizeDocument_keepsPlace text).eq] at hplace
  split at hplace
  · exact absurd hplace (by simp)
  · obtain ⟨earlier, p, later, hsplit, hswitches, hlater, rfl⟩ := exists_of_lastPlace? hplace
    exact ⟨earlier, p, later, hsplit, hswitches, hlater, rfl⟩

/-- **The report of an unterminated construct is exact.**  It is there when the document ends
outside the start state, it points at the match that entered the state, and its span runs from there
to the end of the document. -/
theorem unclosedReported_of_length_lt (lexer : Lexer) (text : Text)
    (hlen : text.byteLength < UInt32.size) : lexer.UnclosedReported text := by
  have hplace : ∀ e, (lexer.tokenizeDocument text).incompleteConstruct? = some e →
      ∃ before after, text = before ++ after ∧ before.byteLength = e.start ∧
        before.count '\n' = e.line ∧ e.start < e.stop ∧ e.stop = text.byteLength := by
    intro e he
    obtain ⟨earlier, p, later, hsplit, -, -, rfl⟩ := exists_last_of_incompleteConstruct? he
    obtain ⟨before, after, htext, hne, hbytes, hcount⟩ :=
      exists_before_of_mem_history (p := p) (by rw [hsplit]; simp)
    have hpos : after.byteLength ≠ 0 := fun h0 => hne (Text.byteLength_eq_zero.mp h0)
    refine ⟨before, after, htext, hbytes, hcount, ?_, rfl⟩
    show p.offset + p.turn.start.offset < text.byteLength
    rw [htext, Text.byteLength_append]
    omega
  refine ⟨isSome_incompleteConstruct?_iff text, fun e => exists_last_of_incompleteConstruct?,
    ?_, ?_, ?_⟩
  · intro e he
    obtain ⟨before, after, htext, hbytes, hcount, hlt, -⟩ := hplace e he
    exact ⟨before, after, htext, hbytes, hcount, hlt⟩
  · intro e he
    obtain ⟨-, -, -, -, -, hlt, hstop⟩ := hplace e he
    exact IncompleteConstruct.exists_span? (Nat.le_of_lt hlt) (by rw [hstop]; exact hlen)
  · intro earlier raw later _ hexit hnone
    have h := lexer.lexLines_keepsPlace earlier 0 0 keepsPlace_start
    rw [(lexer.lexLines_eq earlier 0 0 lexer.start none).2] at h
    exact h.isSome_of_lastSwitch? hexit hnone

/-- Two quoted words, the second of which goes on to the end, after a line with a carriage
return. -/
theorem unclosedReported_quoted :
    ∃ table, RuleTable.ofSpecs
        [⟨"start", false, none, [(RuleSpec.token "\"" .string).goto "quoted", .keyword "[a-z]+"]⟩,
          ⟨"quoted", false, some .string, [(RuleSpec.token "\"" .string).goto "start"]⟩] "start" =
        .ok table ∧
      ((Lexer.mk table .empty).tokenizeDocument
        "é\r\n\"a\" y \"é\r\nmore".toList).incompleteConstruct? = some ⟨"quoted", 1, 10, 19⟩ ∧
      Text.byteLength "é\r\n\"a\" y \"é\r\nmore".toList < UInt32.size ∧
      (Lexer.mk table .empty).UnclosedReported "é\r\n\"a\" y \"é\r\nmore".toList := by
  obtain ⟨table, accepted, hreport⟩ :
      ∃ table, RuleTable.ofSpecs
        [⟨"start", false, none, [(RuleSpec.token "\"" .string).goto "quoted", .keyword "[a-z]+"]⟩,
          ⟨"quoted", false, some .string, [(RuleSpec.token "\"" .string).goto "start"]⟩] "start" =
        .ok table ∧
      ((Lexer.mk table .empty).tokenizeDocument
        "é\r\n\"a\" y \"é\r\nmore".toList).incompleteConstruct? = some ⟨"quoted", 1, 10, 19⟩ :=
    exists_of_any_decide (by decide +kernel)
  exact ⟨table, accepted, hreport, by decide, unclosedReported_of_length_lt _ _ (by decide)⟩

end Lexer

end LineLexer
