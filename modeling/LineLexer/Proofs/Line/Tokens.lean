/-
What the tokens of a turn say about the text it passes.

Every token is made of a span between two cursors, the whole match, a group of it or one
character, and so it holds what the line holds there.  `Tells` keeps the span next to the
token.  What a turn says nothing about is listed as well (`Omits`): a skipped character,
and those parts of a match by groups that stand in none of its groups.  Nothing else is
left out.
-/
import LineLexer.Proofs.Line.Turns
import LineLexer.Proofs.Pattern.Groups
import LineLexer.Proofs.Table.Accepted

namespace LineLexer

/-- The token holds what stands between the cursors of the span. -/
structure Token.Tells (t : Token) (s : Span) : Prop where
  start : t.start = s.start.offset
  text : t.text = s.text

namespace Cursor.Encloses

variable {start stop : Cursor} {s : Span} {t : Token} {line : Text}

theorem stop_eq (h : start.Encloses stop s) (ht : t.Tells s) : t.stop = s.stop.offset := by
  obtain ⟨_, text, _, _, htext, _⟩ := h
  rw [Token.stop, ht.start, ht.text, htext.text, htext.offset]

theorem covers_iff (h : start.Encloses stop s) (ht : t.Tells s) (i : Nat) :
    t.Covers i ↔ s.Covers i := by
  unfold Token.Covers Span.Covers
  rw [ht.start, h.stop_eq ht]

theorem isSliceOf (h : start.Encloses stop s) (ht : t.Tells s) (hstart : start.StandsIn line) :
    t.IsSliceOf line := by
  have hstop := h.stop_eq ht
  obtain ⟨_, text, _, hbefore, htext, _⟩ := h
  rw [Token.IsSliceOf, ht.start, hstop, ht.text, htext.text]
  exact (hstart.move hbefore).slice htext

theorem text_ne_nil (h : start.Encloses stop s) (ht : t.Tells s) (hne : s.isEmpty = false) :
    t.text ≠ [] := by
  obtain ⟨_, text, _, _, htext, _⟩ := h
  rw [ht.text, htext.text]
  intro hnil
  rw [htext.isEmpty_iff.mpr hnil] at hne
  exact Bool.noConfusion hne

end Cursor.Encloses

/-- A span that holds a byte is not empty. -/
theorem Span.isEmpty_of_covers {s : Span} {read : Text} (hs : s.start.Passes read s.stop) {i : Nat}
    (h : s.Covers i) : s.isEmpty = false := by
  have hlt : s.start.offset ≤ i ∧ i < s.stop.offset := h
  have hoff := hs.offset
  rw [Bool.eq_false_iff]
  intro hempty
  rw [hs.isEmpty_iff.mp hempty, Text.byteLength_nil] at hoff
  omega

/-- If a rule matched, it matched more than nothing. -/
def Turn.Advances {n : Nat} (turn : Turn n) : Prop :=
  ∀ rule found, turn.finding = .matched rule found → turn.start.offset < found.stop.offset

namespace Lexer

variable {lexer : Lexer}

/-! ### The tokens of a match -/

theorem tells_tokenOf (label : Label) (s : Span) : (lexer.tokenOf label s).Tells s := ⟨rfl, rfl⟩

section Emit

variable {node : Node} {start : Cursor} {found : Match} {passed : Text} {labels : List Label}

/-- The tokens of a match by groups: one for each label whose group holds some text. -/
theorem mem_emit_groups {t : Token} :
    t ∈ lexer.emit (.groups labels) start found ↔
      ∃ i label s, labels[i]? = some label ∧ found.group? (i + 1) = some s ∧ s.isEmpty = false ∧
        t = lexer.tokenOf label s := by
  simp only [emit, List.mem_filterMap, Prod.exists, List.mem_zipIdx_iff_getElem?,
    Option.bind_eq_some_iff]
  constructor
  · rintro ⟨label, i, hlabel, s, hs, ht⟩
    split at ht
    · exact absurd ht (by simp)
    · rename_i hne
      exact ⟨i, label, s, hlabel, hs, by simpa using hne, (Option.some.inj ht).symm⟩
  · rintro ⟨i, label, s, hlabel, hs, hne, rfl⟩
    exact ⟨label, i, hlabel, s, hs, by simp [hne]⟩

/-- Every token of a match tells of a span inside it, and only a match of nothing has an empty
token. -/
theorem tells_of_mem_emit (hread : node.Reads start passed found.captures found.stop) {e : Emit} :
    ∀ t ∈ lexer.emit e start found,
      ∃ s, t.Tells s ∧ start.Encloses found.stop s ∧ (t.text = [] → passed = []) := by
  intro t ht
  cases e with
  | whole label =>
      obtain rfl : t = lexer.tokenOf label ⟨start, found.stop⟩ := by simpa [emit] using ht
      refine ⟨_, tells_tokenOf _ _, Cursor.Encloses.refl hread.passes, ?_⟩
      intro hnil
      exact hread.passes.text.symm.trans hnil
  | groups labels =>
      obtain ⟨i, label, s, -, hs, hne, rfl⟩ := mem_emit_groups.mp ht
      have hspan := (hread.encloses_lookup hs).2
      refine ⟨s, tells_tokenOf _ _, hspan, ?_⟩
      intro hnil
      exact absurd hnil (hspan.text_ne_nil (tells_tokenOf _ _) hne)

/-- A match that is one token has all its bytes in it. -/
theorem covers_emit_whole (hread : node.Reads start passed found.captures found.stop)
    (label : Label) (i : Nat) :
    (∃ t ∈ lexer.emit (.whole label) start found, t.Covers i) ↔
      (Span.mk start found.stop).Covers i := by
  have hspan := Cursor.Encloses.refl hread.passes
  simp only [emit, List.mem_singleton, exists_eq_left]
  exact hspan.covers_iff (tells_tokenOf _ _) i

/-- A match by groups has those bytes in tokens that stand in a group with a label. -/
theorem covers_emit_groups (hread : node.Reads start passed found.captures found.stop) (i : Nat) :
    (∃ t ∈ lexer.emit (.groups labels) start found, t.Covers i) ↔
      ∃ g s, 1 ≤ g ∧ g ≤ labels.length ∧ found.group? g = some s ∧ s.Covers i := by
  constructor
  · rintro ⟨t, ht, hcov⟩
    obtain ⟨k, label, s, hlabel, hs, -, rfl⟩ := mem_emit_groups.mp ht
    have hlt : k < labels.length := (List.getElem?_eq_some_iff.mp hlabel).1
    have hspan := (hread.encloses_lookup hs).2
    exact ⟨k + 1, s, by omega, by omega, hs, (hspan.covers_iff (tells_tokenOf _ _) i).mp hcov⟩
  · rintro ⟨g, s, hone, hle, hs, hcov⟩
    obtain ⟨k, rfl⟩ : ∃ k, g = k + 1 := ⟨g - 1, by omega⟩
    have hlt : k < labels.length := by omega
    have hspan := (hread.encloses_lookup hs).2
    have hne : s.isEmpty = false := by
      obtain ⟨_, _, _, _, htext, _⟩ := hspan
      exact Span.isEmpty_of_covers htext hcov
    exact ⟨lexer.tokenOf labels[k] s,
      mem_emit_groups.mpr ⟨k, labels[k], s, List.getElem?_eq_getElem hlt, hs, hne, rfl⟩,
      (hspan.covers_iff (tells_tokenOf _ _) i).mpr hcov⟩

end Emit

/-! ### The tokens of a turn -/

/-- The turn passes byte `i` and puts it into no token: the character is skipped, or it belongs to
a match by groups and stands in none of the groups. -/
def Omits (lexer : Lexer) (turn : Turn lexer.rules.size) (i : Nat) : Prop :=
  turn.span.Covers i ∧
    match turn.finding with
    | .unmatched _ => (lexer.rules.state turn.state).default = none
    | .matched rule found =>
      ∃ labels, rule.emit = .groups labels ∧
        ∀ g s, 1 ≤ g → g ≤ rule.pattern.groupCount → found.group? g = some s → ¬ s.Covers i

namespace Takes

variable {turn : Turn lexer.rules.size} {read : Text}

theorem finding_matched (h : lexer.Takes turn read) {rule : Rule lexer.rules.size} {found : Match}
    (hfinding : turn.finding = .matched rule found) :
    (lexer.rules.state turn.state).firstMatch? turn.start = some (rule, found) := by
  cases h with
  | matched hfirst _ _ _ =>
      obtain ⟨rfl, rfl⟩ := Finding.matched.inj hfinding
      exact hfirst
  | unmatched _ _ => simp at hfinding

/-- What a turn matched was read by a rule of its state. -/
theorem reads_matched (h : lexer.Takes turn read) {rule : Rule lexer.rules.size} {found : Match}
    (hfinding : turn.finding = .matched rule found) :
    lexer.rules.HasRule rule ∧
      ∃ passed, rule.pattern.node.Reads turn.start passed found.captures found.stop := by
  obtain ⟨hmem, hmatch⟩ := State.mem_of_firstMatch? (h.finding_matched hfinding)
  exact ⟨RuleTable.hasRule_of_mem hmem, Node.matchAt?_reads hmatch⟩

theorem finding_unmatched (h : lexer.Takes turn read) {c : Char}
    (hfinding : turn.finding = .unmatched c) :
    (lexer.rules.state turn.state).firstMatch? turn.start = none ∧
      ∃ rest, turn.start.rest = c :: rest ∧ turn.stop = turn.start.pass c rest := by
  cases h with
  | matched _ _ _ _ => simp at hfinding
  | unmatched hfirst hrest =>
      obtain rfl := Finding.unmatched.inj hfinding
      exact ⟨hfirst, _, hrest, rfl⟩

/-- A turn passes what its rule matched, and nothing after it, if that was something. -/
theorem stop_eq (h : lexer.Takes turn read) (hadv : turn.Advances) {rule : Rule lexer.rules.size}
    {found : Match} (hfinding : turn.finding = .matched rule found) : found.stop = turn.stop := by
  cases h with
  | matched _ hread hmore honce =>
      obtain ⟨rfl, rfl⟩ := Finding.matched.inj hfinding
      rcases honce with ⟨-, rfl⟩ | ⟨rfl, -⟩
      · exact hmore.eq_of_nil.symm
      · have hlt := hadv _ _ rfl
        rw [hread.passes.eq_of_nil] at hlt
        exact absurd hlt (Nat.lt_irrefl _)
  | unmatched _ _ => simp at hfinding

/-- Every token of a turn tells of a span inside the text the turn passes. -/
theorem exists_tells (h : lexer.Takes turn read) :
    ∀ t ∈ lexer.tokensOf turn, ∃ s, t.Tells s ∧ turn.start.Encloses turn.stop s := by
  intro t ht
  have hpasses := h.passes
  cases h with
  | matched _ hread hmore _ =>
      obtain ⟨s, hs, hspan, -⟩ := tells_of_mem_emit hread t ht
      exact ⟨s, hs, hspan.widenRight hmore⟩
  | unmatched _ hrest =>
      obtain ⟨category, -, rfl⟩ := List.mem_map.mp ht
      exact ⟨⟨_, _⟩, ⟨rfl, (Cursor.Passes.pass hrest).text.symm⟩, Cursor.Encloses.refl hpasses⟩

/-- A turn that advances emits no empty token. -/
theorem text_ne_nil (h : lexer.Takes turn read) (hadv : turn.Advances) :
    ∀ t ∈ lexer.tokensOf turn, t.text ≠ [] := by
  intro t ht
  cases h with
  | matched _ hread _ _ =>
      obtain ⟨s, -, -, hempty⟩ := tells_of_mem_emit hread t ht
      intro hnil
      have hlt := hadv _ _ rfl
      have hread := hread.passes
      rw [hempty hnil] at hread
      rw [hread.eq_of_nil] at hlt
      exact absurd hlt (Nat.lt_irrefl _)
  | unmatched _ _ =>
      obtain ⟨category, -, rfl⟩ := List.mem_map.mp ht
      simp

/-- **What a turn leaves out of its tokens is what it omits, and nothing else.** -/
theorem uncovered_iff (h : lexer.Takes turn read) (hadv : turn.Advances)
    (hfit : ∀ rule, lexer.rules.HasRule rule → rule.LabelsFit) {i : Nat}
    (hi : turn.span.Covers i) :
    (∀ t ∈ lexer.tokensOf turn, ¬ t.Covers i) ↔ lexer.Omits turn i := by
  have hstop : ∀ rule found, turn.finding = .matched rule found → found.stop = turn.stop :=
    fun _ _ hfinding => h.stop_eq hadv hfinding
  cases h with
  | @matched state start stop rule found passed more hfirst hread hmore _ =>
      have hall : (∀ t ∈ lexer.emit rule.emit start found, ¬ t.Covers i) ↔
          ¬ ∃ t ∈ lexer.emit rule.emit start found, t.Covers i := by simp
      simp only [Omits, tokensOf, hi, true_and]
      rw [hall]
      cases hemit : rule.emit with
      | whole label =>
          rw [covers_emit_whole hread, hstop rule found rfl]
          constructor
          · intro hout
            exact absurd hi hout
          · rintro ⟨labels, hgroups, -⟩
            simp at hgroups
      | groups labels =>
          have hlen := hfit rule (RuleTable.hasRule_of_mem (State.mem_of_firstMatch? hfirst).1)
            labels hemit
          rw [covers_emit_groups hread, hlen]
          constructor
          · intro hout
            exact ⟨labels, rfl, fun g s hone hle hs hcov => hout ⟨g, s, hone, hle, hs, hcov⟩⟩
          · rintro ⟨labels', -, hout⟩ ⟨g, s, hone, hle, hs, hcov⟩
            exact hout g s hone hle hs hcov
  | @unmatched state start c rest _ hrest =>
      simp only [Omits, tokensOf, hi, true_and]
      cases hdefault : (lexer.rules.state state).default with
      | none => simp
      | some category =>
          have hcov : Token.Covers ⟨category, start.offset, [c]⟩ i := by
            have hspan := Cursor.Encloses.refl (Cursor.Passes.pass hrest)
            exact (hspan.covers_iff ⟨rfl, (Cursor.Passes.pass hrest).text.symm⟩ i).mpr hi
          simpa using hcov

end Takes

end Lexer

end LineLexer
