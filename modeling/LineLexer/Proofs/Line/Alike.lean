/-
Lines that the rules cannot tell apart.

A lexer takes its turns by what the patterns of its rules match, and gives a text its
category by the keyword table.  Where neither tells apart what is alike (`Respects`), the
turns of two lines correspond one by one: the same rules match, places that are alike are
left, and the tokens have the same categories (`tokenizeRest_alike`).
-/
import LineLexer.Proofs.Line.Turns
import LineLexer.Proofs.Pattern.Alike

namespace LineLexer

namespace Lexer

/-- The keyword table does not tell apart what is alike. -/
def RespectsWords (lexer : Lexer) (l : Likeness) : Prop :=
  ∀ word word', List.Forall₂ l.Same word word' →
    lexer.keywords.classify word = lexer.keywords.classify word'

/-- Neither do the rules. -/
structure Respects (lexer : Lexer) (l : Likeness) : Prop where
  rules : ∀ id, ∀ rule ∈ (lexer.rules.state id).rules, l.Keeps rule.pattern.node
  words : lexer.RespectsWords l

variable {lexer : Lexer} {state : lexer.rules.StateId} {cur : Cursor}

theorem turns_of_nil (h : cur.rest = []) : lexer.turns state cur = [] := by
  obtain ⟨before, offset, rest⟩ := cur
  obtain rfl : rest = [] := h
  rw [turns]

theorem turns_of_cons {c : Char} {rest : Text} (h : cur.rest = c :: rest) :
    lexer.turns state cur = lexer.turnAt state cur c rest ::
      lexer.turns (lexer.turnAt state cur c rest).exit (lexer.turnAt state cur c rest).stop := by
  obtain ⟨before, offset, rest'⟩ := cur
  obtain rfl : rest' = c :: rest := h
  rw [turns]

end Lexer

namespace Likeness

variable (l : Likeness)

/-- The offsets are those of places that are alike. -/
def OffsetAlike (offset offset' : Nat) : Prop :=
  ∃ cur cur', l.Alike cur cur' ∧ offset = cur.offset ∧ offset' = cur'.offset

/-- The tokens have the same category, and characters that correspond. -/
structure TokenAlike (token token' : Token) : Prop where
  category : token.category = token'.category
  start : l.OffsetAlike token.start token'.start
  text : List.Forall₂ l.Same token.text token'.text

/-- The same was found at places that are alike. -/
inductive FindingAlike {n : Nat} : Finding n → Finding n → Prop
  | matched {rule : Rule n} {found found' : Match} (h : l.MatchAlike found found') :
      FindingAlike (.matched rule found) (.matched rule found')
  | unmatched {c c' : Char} (h : l.Same c c') : FindingAlike (.unmatched c) (.unmatched c')

/-- The turns were taken in the same state and found the same. -/
structure TurnAlike {n : Nat} (turn turn' : Turn n) : Prop where
  state : turn.state = turn'.state
  start : l.Alike turn.start turn'.start
  finding : l.FindingAlike turn.finding turn'.finding
  stop : l.Alike turn.stop turn'.stop

/-- The same rule matched. -/
def RuleAlike {n : Nat} (taken taken' : Rule n × Match) : Prop :=
  taken.1 = taken'.1 ∧ l.MatchAlike taken.2 taken'.2

variable {l} {lexer : Lexer} {cur cur' : Cursor}

/-! ### One turn -/

/-- What is found first in a list is related if what is found at each of its members is. -/
theorem findSome?_rel {α β γ : Type} {R : β → γ → Prop} {f : α → Option β} {g : α → Option γ}
    {xs : List α} (h : ∀ x ∈ xs, Option.Rel R (f x) (g x)) :
    Option.Rel R (xs.findSome? f) (xs.findSome? g) := by
  induction xs with
  | nil => exact .none
  | cons x xs ih =>
      have hfirst := h x List.mem_cons_self
      rw [List.findSome?_cons, List.findSome?_cons]
      generalize f x = found, g x = found' at hfirst
      cases hfirst with
      | none => exact ih fun x hx => h x (List.mem_cons_of_mem _ hx)
      | some hfound => exact .some hfound

theorem firstMatch?_alike {n : Nat} {state : State n}
    (hkeeps : ∀ rule ∈ state.rules, l.Keeps rule.pattern.node) (h : l.Alike cur cur') :
    Option.Rel l.RuleAlike (state.firstMatch? cur) (state.firstMatch? cur') := by
  refine findSome?_rel fun rule hrule => ?_
  have hmatch : Option.Rel l.MatchAlike (rule.pattern.matchAt? cur) (rule.pattern.matchAt? cur') :=
    matchAt?_alike (hkeeps rule hrule) h
  generalize rule.pattern.matchAt? cur = found, rule.pattern.matchAt? cur' = found' at hmatch
  cases hmatch with
  | none => exact .none
  | some hmatch => exact .some ⟨rfl, hmatch⟩

theorem turnAt_alike {state : lexer.rules.StateId} {c c' : Char} {rest rest' : Text}
    (hrespects : lexer.Respects l) (h : l.Alike cur cur') (hcur : cur.rest = c :: rest)
    (hcur' : cur'.rest = c' :: rest') :
    l.TurnAlike (lexer.turnAt state cur c rest) (lexer.turnAt state cur' c' rest') := by
  have hrest := l.rest h
  rw [hcur, hcur', List.forall₂_cons] at hrest
  have hpass := l.pass h hcur hcur'
  have hfirst := firstMatch?_alike (hrespects.rules state) h
  unfold Lexer.turnAt
  generalize (lexer.rules.state state).firstMatch? cur = first,
    (lexer.rules.state state).firstMatch? cur' = first' at hfirst
  cases hfirst with
  | none => exact ⟨rfl, h, .unmatched hrest.1, hpass⟩
  | @some taken taken' htaken =>
      obtain ⟨rule, found⟩ := taken
      obtain ⟨rule', found'⟩ := taken'
      obtain ⟨rfl, hfound⟩ : rule = rule' ∧ l.MatchAlike found found' := htaken
      refine ⟨rfl, h, .matched hfound, ?_⟩
      simp only [← remaining hfound.stop, ← hrest.2.length_eq]
      split
      · exact hfound.stop
      · exact hpass

namespace TurnAlike

variable {n : Nat} {turn turn' : Turn n}

theorem exit (h : l.TurnAlike turn turn') : turn.exit = turn'.exit := by
  obtain ⟨state, _, finding, _⟩ := turn
  obtain ⟨state', _, finding', _⟩ := turn'
  obtain ⟨rfl, -, hfinding, -⟩ := h
  cases hfinding with
  | matched _ => rfl
  | unmatched _ => rfl

theorem switch? (h : l.TurnAlike turn turn') :
    Option.Rel l.OffsetAlike turn.switch? turn'.switch? := by
  obtain ⟨_, start, finding, _⟩ := turn
  obtain ⟨_, start', finding', _⟩ := turn'
  obtain ⟨-, hstart, hfinding, -⟩ := h
  cases hfinding with
  | unmatched _ => exact .none
  | @matched rule _ _ _ =>
      simp only [Turn.switch?]
      cases rule.next with
      | none => exact .none
      | some _ => exact .some ⟨_, _, hstart, rfl, rfl⟩

end TurnAlike

/-! ### The tokens of a turn -/

theorem resolve_alike (hwords : lexer.RespectsWords l) (label : Label) {text text' : Text}
    (h : List.Forall₂ l.Same text text') :
    lexer.resolve label text = lexer.resolve label text' := by
  cases label with
  | fixed category => rfl
  | keyword => rw [Lexer.resolve, Lexer.resolve, hwords text text' h]

theorem tokenOf_alike (hwords : lexer.RespectsWords l) (label : Label) {s s' : Span}
    (h : l.SpanAlike s s') : l.TokenAlike (lexer.tokenOf label s) (lexer.tokenOf label s') :=
  ⟨resolve_alike hwords label h.text, ⟨_, _, h.1, rfl, rfl⟩, h.text⟩

theorem emit_alike (hwords : lexer.RespectsWords l) (emit : Emit) {found found' : Match}
    (h : l.Alike cur cur') (hfound : l.MatchAlike found found') :
    List.Forall₂ l.TokenAlike (lexer.emit emit cur found) (lexer.emit emit cur' found') := by
  cases emit with
  | whole label => exact .cons (tokenOf_alike hwords label ⟨h, hfound.stop⟩) .nil
  | groups labels =>
      refine List.rel_filterMap ?_ (List.forall₂_eq_eq_eq ▸ rfl : List.Forall₂ (· = ·) _ _)
      rintro ⟨label, i⟩ _ rfl
      have hgroup := hfound.captures.lookup (i + 1)
      simp only [Match.group?]
      generalize found.captures.lookup (i + 1) = span, found'.captures.lookup (i + 1) = span'
        at hgroup
      cases hgroup with
      | none => exact .none
      | some hspan =>
          simp only [Option.bind_some, hspan.isEmpty]
          split
          · exact .none
          · exact .some (tokenOf_alike hwords label hspan)

theorem tokensOf_alike (hrespects : lexer.Respects l) {turn turn' : Turn lexer.rules.size}
    (h : l.TurnAlike turn turn') :
    List.Forall₂ l.TokenAlike (lexer.tokensOf turn) (lexer.tokensOf turn') := by
  obtain ⟨state, start, finding, _⟩ := turn
  obtain ⟨state', start', finding', _⟩ := turn'
  obtain ⟨rfl, hstart, hfinding, -⟩ := h
  cases hfinding with
  | @matched rule _ _ hfound => exact emit_alike hrespects.words rule.emit hstart hfound
  | @unmatched c c' hsame =>
      simp only [Lexer.tokensOf]
      cases (lexer.rules.state state).default with
      | none => exact .nil
      | some category => exact .cons ⟨rfl, ⟨_, _, hstart, rfl, rfl⟩, .cons hsame .nil⟩ .nil

/-! ### All turns of a line -/

theorem turns_alike (hrespects : lexer.Respects l) (state : lexer.rules.StateId) (cur : Cursor) :
    ∀ cur', l.Alike cur cur' →
      List.Forall₂ l.TurnAlike (lexer.turns state cur) (lexer.turns state cur') := by
  fun_induction lexer.turns state cur with
  | case1 state cur hcur =>
      intro cur' h
      have hrest := l.rest h
      rw [hcur, List.forall₂_nil_left_iff] at hrest
      rw [Lexer.turns_of_nil hrest]
      exact .nil
  | case2 state cur c rest hcur turn ih =>
      intro cur' h
      have hrest := l.rest h
      rw [hcur, List.forall₂_cons_left_iff] at hrest
      obtain ⟨c', rest', -, -, hcur'⟩ := hrest
      have hturn : l.TurnAlike turn (lexer.turnAt state cur' c' rest') :=
        turnAt_alike hrespects h hcur hcur'
      have hmore := ih _ hturn.stop
      rw [hturn.exit] at hmore ⊢
      rw [Lexer.turns_of_cons hcur']
      exact .cons hturn hmore

theorem exitOf_alike {n : Nat} (state : Fin n) {turns turns' : List (Turn n)}
    (h : List.Forall₂ l.TurnAlike turns turns') :
    Lexer.exitOf state turns = Lexer.exitOf state turns' := by
  induction h generalizing state with
  | nil => rfl
  | @cons turn turn' turns turns' hturn hturns ih =>
      cases hturns with
      | nil => exact hturn.exit
      | cons _ _ => simpa [Lexer.exitOf, List.getLast?_cons_cons] using ih state

theorem lastSwitch?_alike {n : Nat} {turns turns' : List (Turn n)}
    (h : List.Forall₂ l.TurnAlike turns turns') :
    Option.Rel l.OffsetAlike (Lexer.lastSwitch? turns) (Lexer.lastSwitch? turns') := by
  have hreverse := List.rel_reverse h
  rw [Lexer.lastSwitch?, Lexer.lastSwitch?]
  generalize turns.reverse = back, turns'.reverse = back' at hreverse
  induction hreverse with
  | nil => exact .none
  | @cons turn turn' turns turns' hturn _ ih =>
      have hswitch := hturn.switch?
      rw [List.findSome?_cons, List.findSome?_cons]
      generalize turn.switch? = offset, turn'.switch? = offset' at hswitch
      cases hswitch with
      | none => exact ih
      | some hoffset => exact .some hoffset

/-- **From places that are alike, the tokens correspond one by one.** -/
theorem tokens_alike (hrespects : lexer.Respects l) (state : lexer.rules.StateId)
    (h : l.Alike cur cur') :
    List.Forall₂ l.TokenAlike ((lexer.turns state cur).flatMap lexer.tokensOf)
      ((lexer.turns state cur').flatMap lexer.tokensOf) :=
  List.rel_flatMap (turns_alike hrespects state cur cur' h) fun _ _ => tokensOf_alike hrespects

end Likeness

end LineLexer
