/-
Lexing a line step by step.

What is left of a line is lexed by the state alone and what stands before the cursor.  So
its tokens and its exit state are those of the next turn followed by those of what that
turn leaves (`rest_of_matched`, `rest_of_unmatched`), and a line whose text is known piece
by piece is lexed piece by piece.

All that a step needs of a rule is what it does: its node, its tokens and the state after
it (`Meaning`).  That the node comes from a pattern plays no part any more.
-/
import LineLexer.Proofs.Line.Turns
import LineLexer.Proofs.Pattern.Starts

namespace LineLexer

/-- What a rule does. -/
structure Meaning (n : Nat) where
  /-- What the rule matches. -/
  node : Node
  /-- The tokens a match emits. -/
  emit : Emit
  /-- The state that follows a match; none stays in the state. -/
  next : Option (Fin n)
deriving DecidableEq

/-- What a compiled rule does. -/
def Rule.meaning {n : Nat} (rule : Rule n) : Meaning n :=
  ⟨rule.pattern.node, rule.emit, rule.next⟩

/-- What the rules of a state do, in the order in which they are tried. -/
def State.meanings {n : Nat} (state : State n) : List (Meaning n) := state.rules.map Rule.meaning

namespace Meaning

variable {n : Nat} {meaning : Meaning n} {meanings : List (Meaning n)} {cur : Cursor}
  {found : Match}

/-- The first of some rules that matches at a cursor, with its match. -/
def first? (meanings : List (Meaning n)) (cur : Cursor) : Option (Meaning n × Match) :=
  meanings.findSome? fun meaning => (meaning.node.matchAt? cur).map (meaning, ·)

@[simp] theorem first?_nil (cur : Cursor) : first? ([] : List (Meaning n)) cur = none := rfl

theorem first?_cons_of_matchAt? (h : meaning.node.matchAt? cur = some found) :
    first? (meaning :: meanings) cur = some (meaning, found) := by
  simp [first?, h]

theorem first?_cons_of_none (h : meaning.node.matchAt? cur = none) :
    first? (meaning :: meanings) cur = first? meanings cur := by
  simp [first?, h]

theorem first?_append (meanings more : List (Meaning n)) (cur : Cursor) :
    first? (meanings ++ more) cur = (first? meanings cur).or (first? more cur) :=
  List.findSome?_append

/-- A rule that was found first is one of those that were tried. -/
theorem of_first? (h : first? meanings cur = some (meaning, found)) :
    meaning ∈ meanings ∧ meaning.node.matchAt? cur = some found := by
  obtain ⟨_, hmem, hfound⟩ := List.exists_of_findSome?_eq_some h
  obtain ⟨_, hmatch, heq⟩ := Option.map_eq_some_iff.mp hfound
  obtain ⟨rfl, rfl⟩ := Prod.mk.inj heq
  exact ⟨hmem, hmatch⟩

/-- No rule is found where none of them matches. -/
theorem first?_eq_none_iff :
    first? meanings cur = none ↔ ∀ meaning ∈ meanings, meaning.node.matchAt? cur = none := by
  simp [first?, List.findSome?_eq_none_iff]

/-- The rules that may match before a character of a set. -/
def openings (set : CharSet) (meanings : List (Meaning n)) : List (Meaning n) :=
  meanings.filter fun meaning => meaning.node.mayBeEmpty || !decide (meaning.node.starts.Apart set)

/-- **The next character decides which rules are tried at all.** -/
theorem first?_openings (set : CharSet) (h : ∀ c ∈ cur.rest.head?, set.contains c = true) :
    first? meanings cur = first? (openings set meanings) cur := by
  induction meanings with
  | nil => rfl
  | cons meaning meanings ih =>
      rw [openings, List.filter_cons]
      split
      · show first? (meaning :: meanings) cur = first? (meaning :: openings set meanings) cur
        cases hmatch : meaning.node.matchAt? cur with
        | some found => rw [first?_cons_of_matchAt? hmatch, first?_cons_of_matchAt? hmatch]
        | none => rw [first?_cons_of_none hmatch, first?_cons_of_none hmatch, ih]
      · rename_i hpassed
        obtain ⟨hne, hapart⟩ : meaning.node.mayBeEmpty = false ∧ meaning.node.starts.Apart set := by
          simpa using hpassed
        rw [first?_cons_of_none, ih, openings]
        exact Node.matchAt?_eq_none_of_starts hne fun c hc => hapart.contains_left (h c hc)

end Meaning

/-- The rule that wins in a state is the first of its rules that matches. -/
theorem State.map_meaning_firstMatch? {n : Nat} (state : State n) (cur : Cursor) :
    (state.firstMatch? cur).map (fun (rule, found) => (rule.meaning, found)) =
      Meaning.first? state.meanings cur := by
  simp only [State.firstMatch?, Meaning.first?, State.meanings, List.findSome?_map,
    List.map_findSome?]
  congr 1
  funext rule
  show ((rule.pattern.matchAt? cur).map (rule, ·)).map _ =
    (rule.pattern.node.matchAt? cur).map (rule.meaning, ·)
  rw [Option.map_map]
  rfl

namespace Lexer

variable {lexer : Lexer} {state : lexer.rules.StateId} {passed read rest : Text}

section Takes

variable {turn : Turn lexer.rules.size}

/-- A turn takes what is found first. -/
theorem Takes.exists_rule (h : lexer.Takes turn read) {meaning : Meaning lexer.rules.size}
    {found : Match}
    (hfirst : Meaning.first? (lexer.rules.state turn.state).meanings turn.start =
      some (meaning, found)) :
    ∃ rule, turn.finding = .matched rule found ∧ rule.meaning = meaning := by
  rw [← State.map_meaning_firstMatch?] at hfirst
  cases h with
  | @matched _ _ _ rule _ _ _ hmatch _ _ _ =>
      rw [hmatch] at hfirst
      obtain ⟨hmeaning, rfl⟩ := Prod.mk.inj (Option.some.inj hfirst)
      exact ⟨rule, rfl, hmeaning⟩
  | unmatched hnone _ =>
      rw [hnone] at hfirst
      exact absurd hfirst.symm (Option.some_ne_none _)

/-- A turn matches nothing only where nothing is found. -/
theorem Takes.first?_eq_none (h : lexer.Takes turn read) {c : Char}
    (hfinding : turn.finding = .unmatched c) :
    Meaning.first? (lexer.rules.state turn.state).meanings turn.start = none := by
  rw [← State.map_meaning_firstMatch?, Option.map_eq_none_iff]
  cases h with
  | matched => exact absurd hfinding (by simp)
  | unmatched hnone _ => exact hnone

end Takes

/-- The tokens of what is left of a line, and the state after it. -/
def tokenizeRest (lexer : Lexer) (state : lexer.rules.StateId) (cur : Cursor) :
    List Token × lexer.rules.StateId :=
  ((lexer.turns state cur).flatMap lexer.tokensOf, exitOf state (lexer.turns state cur))

/-- Nothing is left at the end of a line. -/
theorem tokenizeRest_nil (state : lexer.rules.StateId) (passed : Text) :
    lexer.tokenizeRest state (.between passed []) = ([], state) := by
  rw [tokenizeRest, turns]
  rfl

theorem exitOf_cons (state : lexer.rules.StateId) (turn : Turn lexer.rules.size)
    (turns : List (Turn lexer.rules.size)) :
    exitOf state (turn :: turns) = exitOf turn.exit turns := by
  cases turns with
  | nil => rfl
  | cons next turns => simp [exitOf, List.getLast?_cons]

theorem tokenizeRest_cons (state : lexer.rules.StateId) (passed : Text) (c : Char) (rest : Text) :
    lexer.tokenizeRest state (.between passed (c :: rest)) =
      let turn := lexer.turnAt state (.between passed (c :: rest)) c rest
      (lexer.tokensOf turn ++ (lexer.tokenizeRest turn.exit turn.stop).1,
        (lexer.tokenizeRest turn.exit turn.stop).2) := by
  rw [tokenizeRest, turns]
  simp only [Cursor.rest_between, List.flatMap_cons, exitOf_cons]
  rfl

/-- **A rule that matches takes the next turn**, and its state lexes what the match leaves. -/
theorem tokenizeRest_of_matched {meaning : Meaning lexer.rules.size} {closed : Captures}
    (hfirst : Meaning.first? (lexer.rules.state state).meanings (.between passed (read ++ rest)) =
      some (meaning, ⟨.between (passed ++ read) rest, closed⟩)) (hne : read ≠ []) :
    lexer.tokenizeRest state (.between passed (read ++ rest)) =
      (lexer.emit meaning.emit (.between passed (read ++ rest))
          ⟨.between (passed ++ read) rest, closed⟩ ++
        (lexer.tokenizeRest (meaning.next.getD state) (.between (passed ++ read) rest)).1,
        (lexer.tokenizeRest (meaning.next.getD state) (.between (passed ++ read) rest)).2) := by
  rw [← State.map_meaning_firstMatch?] at hfirst
  obtain ⟨⟨rule, found⟩, hmatch, heq⟩ := Option.map_eq_some_iff.mp hfirst
  obtain ⟨rfl, rfl⟩ : rule.meaning = meaning ∧ found = _ := Prod.mk.inj heq
  cases read with
  | nil => exact absurd rfl hne
  | cons c read =>
      rw [List.cons_append, tokenizeRest_cons]
      have hturn : lexer.turnAt state (.between passed (c :: (read ++ rest))) c (read ++ rest) =
          ⟨state, .between passed (c :: (read ++ rest)),
            .matched rule ⟨.between (passed ++ c :: read) rest, closed⟩,
            .between (passed ++ c :: read) rest⟩ := by
        rw [turnAt]
        simp only [List.cons_append] at hmatch
        rw [hmatch]
        simp [Cursor.remaining]
      rw [hturn]
      rfl

/-- A match that is one token is the text that was read, under the category of the rule's label. -/
theorem tokenizeRest_of_whole {node : Node} {label : Label} {next : Option lexer.rules.StateId}
    {closed : Captures}
    (hfirst : Meaning.first? (lexer.rules.state state).meanings (.between passed (read ++ rest)) =
      some (⟨node, .whole label, next⟩, ⟨.between (passed ++ read) rest, closed⟩))
    (hne : read ≠ []) :
    lexer.tokenizeRest state (.between passed (read ++ rest)) =
      (⟨lexer.resolve label read, passed.byteLength, read⟩ ::
        (lexer.tokenizeRest (next.getD state) (.between (passed ++ read) rest)).1,
        (lexer.tokenizeRest (next.getD state) (.between (passed ++ read) rest)).2) := by
  have htext : (Span.mk (.between passed (read ++ rest)) (.between (passed ++ read) rest)).text =
      read := Span.text_across passed read rest
  rw [tokenizeRest_of_matched hfirst hne]
  simp only [emit, tokenOf, htext, Cursor.offset_between, List.singleton_append]

/-- Where no rule matches, one character is passed. -/
theorem tokenizeRest_of_unmatched {c : Char}
    (hfirst : Meaning.first? (lexer.rules.state state).meanings (.between passed (c :: rest)) =
      none) :
    lexer.tokenizeRest state (.between passed (c :: rest)) =
      ((lexer.rules.state state).default.toList.map (⟨·, passed.byteLength, [c]⟩) ++
        (lexer.tokenizeRest state (.between (passed ++ [c]) rest)).1,
        (lexer.tokenizeRest state (.between (passed ++ [c]) rest)).2) := by
  rw [← State.map_meaning_firstMatch?, Option.map_eq_none_iff] at hfirst
  have hturn : lexer.turnAt state (.between passed (c :: rest)) c rest =
      ⟨state, .between passed (c :: rest), .unmatched c, .between (passed ++ [c]) rest⟩ := by
    rw [turnAt, hfirst, Cursor.pass_between]
  rw [tokenizeRest_cons, hturn]
  rfl

end Lexer

end LineLexer
