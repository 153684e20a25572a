/-
Texts further on in a line.

Whether a text begins a line or comes after blanks makes no difference to most rules: their
patterns may ask for the end of a line or the edge of a word, and a blank is no part of a
word.  Such a rule takes the same turn in both places (`scan_unanchored`), and whatever is
read after that is lexed alike in any case, because the same character comes before it
(`scan_after`).

Of where a token stands, grouping takes no notice but for the at sign before it, which is no
blank either.
-/
import LineLexer.Proofs.Gibiane.Scan
import LineLexer.Proofs.Line.Shifted

namespace LineLexer.Gibiane

open Grouping

variable {lexer : Lexer} {string header : lexer.rules.StateId} {passed passed' rest : Text}
  {g : Grouping} {indent body : Text}

/-! ### The same text further on -/

/-- Of where a token stands, grouping only asks whether an at sign comes before it. -/
theorem addToken_congr {line line' : Text} {token token' : Token}
    (hcategory : token.category = token'.category) (htext : token.text = token'.text)
    (hat : line.charBefore? token.start = some '@' ↔ line'.charBefore? token'.start = some '@') :
    addToken line g token = addToken line' g token' := by
  obtain ⟨category, start, text⟩ := token
  obtain ⟨category', start', text'⟩ := token'
  obtain rfl : category = category' := hcategory
  obtain rfl : text = text' := htext
  have hword : wordAt line ⟨category, start, text⟩ = wordAt line' ⟨category, start', text⟩ := by
    simp only [wordAt, hat]
  simp only [addToken, addInside, addOutside, itemsOf, hword]

theorem foldl_addToken_shifted {Asked : Look → Prop} {tokens tokens' : List Token}
    (htokens : List.Forall₂
      (Likeness.shifted Asked passed.byteLength passed'.byteLength).TokenAlike tokens tokens')
    (hat : passed.getLast? = some '@' ↔ passed'.getLast? = some '@') :
    tokens.foldl (addToken (passed ++ rest)) g =
      tokens'.foldl (addToken (passed' ++ rest)) g := by
  induction htokens generalizing g with
  | nil => rfl
  | cons htoken _ ih =>
      rw [List.foldl_cons, List.foldl_cons, ih,
        addToken_congr htoken.category (Likeness.eq_of_same htoken.text)
          (htoken.charBefore?_shifted hat)]

/-- What comes after the same character is grouped alike. -/
theorem scan_of_getLast? (state : lexer.rules.StateId) (h : passed.getLast? = passed'.getLast?) :
    scan lexer state passed rest g = scan lexer state passed' rest g := by
  have halike : (Likeness.shifted (fun _ => True) passed.byteLength passed'.byteLength).Alike
      (.between passed rest) (.between passed' rest) :=
    ⟨rfl, fun demand _ => demand.holds_congr h rfl, 0, rfl, rfl⟩
  have hturns := Likeness.turns_alike Likeness.respects_shifted state _ _ halike
  have htokens := Likeness.tokens_alike Likeness.respects_shifted state halike
  rw [scan, scan, Lexer.tokenizeRest, Lexer.tokenizeRest, Likeness.exitOf_alike state hturns]
  dsimp only
  rw [foldl_addToken_shifted htokens (by rw [h])]

/-- **What comes after the same text is grouped alike**, whatever comes before that. -/
theorem scan_after (passed passed' : Text) (state : lexer.rules.StateId) {read : Text}
    (hne : read ≠ []) :
    scan lexer state (passed ++ read) rest g = scan lexer state (passed' ++ read) rest g :=
  scan_of_getLast? state (by
    rw [List.getLast?_append_of_ne_nil _ hne, List.getLast?_append_of_ne_nil _ hne])

/-! ### Rules that do not ask for the start of a line -/

/-- The assertions that the blanks before a text make no difference to. -/
def Form.unanchored : List Look := [.textEnd, .word .boundary false]

theorem isWordChar_of_getLast?_spaces (hindent : Spaces indent) :
    ∀ c ∈ indent.getLast?, isWordChar c = false :=
  fun c hc => isWordChar_of_asciiSpace (hindent c (List.mem_of_getLast? hc))

/-- No blank is an at sign. -/
theorem getLast?_spaces_ne_at (hindent : Spaces indent) : indent.getLast? ≠ some '@' := by
  intro hat
  have hblank := hindent '@' (List.mem_of_getLast? hat)
  exact absurd hblank (by decide)

theorem alike_indented (hindent : Spaces indent) (body : Text) :
    (Likeness.shifted (· ∈ Form.unanchored) (Text.byteLength []) indent.byteLength).Alike
      (.between [] body) (.between indent body) := by
  refine ⟨rfl, ?_, 0, rfl, rfl⟩
  have hbefore : indent.getLast?.any CharSet.asciiWord.contains = false := by
    rw [Option.any_eq_false_iff_get]
    intro h
    rw [asciiWord_contains, isWordChar_of_getLast?_spaces hindent _ (Option.get_mem h)]
  intro demand hdemand
  simp only [Form.unanchored, List.mem_cons, List.not_mem_nil, or_false] at hdemand
  rcases hdemand with rfl | rfl
  · rfl
  · simp [Look.holds, hbefore]

/-- The pattern reads something and does not ask for the start of a line. -/
def Unanchored (node : Node) : Prop :=
  node.mayBeEmpty = false ∧ ∀ demand ∈ node.looks, demand ∈ Form.unanchored

instance (node : Node) : Decidable (Unanchored node) := inferInstanceAs (Decidable (_ ∧ _))

/-- **Rules that do not ask for the start of a line take the same turn behind blanks.** -/
theorem scan_unanchored {meanings : List (Meaning lexer.rules.size)}
    (hformed : Formed lexer.rules string header) (hindent : Spaces indent)
    (hmeanings : ∀ meaning ∈ meanings, Unanchored meaning.node)
    (hfirst : ∀ passed ∈ [[], indent],
      Meaning.first? (lexer.rules.state lexer.start).meanings (.between passed body) =
        Meaning.first? meanings (.between passed body)) :
    scan lexer lexer.start [] body g = scan lexer lexer.start indent body g := by
  have halike := alike_indented hindent body
  have hat : ([] : Text).getLast? = some '@' ↔ indent.getLast? = some '@' := by
    simp [getLast?_spaces_ne_at hindent]
  have htaken := Likeness.first?_alike
    (fun meaning hmeaning => Likeness.keeps_shifted (hmeanings meaning hmeaning).2) halike
  have hstart := hfirst [] (by simp)
  have hbehind := hfirst indent (by simp)
  generalize htook : Meaning.first? meanings (.between [] body) = taken,
    htook' : Meaning.first? meanings (.between indent body) = taken' at htaken hstart hbehind
  cases htaken with
  | none =>
      cases body with
      | nil => rw [scan_nil, scan_nil]
      | cons c body =>
          have hdefault : (lexer.rules.state lexer.start).default = none := hformed.startDefault
          rw [scan_of_unmatched hstart, scan_of_unmatched hbehind, hdefault]
          exact scan_after _ _ _ (by simp)
  | @some taken taken' htaken =>
      obtain ⟨meaning, stop, closed⟩ := taken
      obtain ⟨meaning', stop', closed'⟩ := taken'
      obtain ⟨hsame, hfound⟩ := htaken
      obtain rfl : meaning = meaning' := hsame
      obtain ⟨hmem, hmatch⟩ := Meaning.of_first? htook
      obtain ⟨-, hmatch'⟩ := Meaning.of_first? htook'
      obtain ⟨read, rest, hne, rfl, rfl, rfl⟩ :=
        Likeness.exists_read_shifted (hmeanings _ hmem).1 hmatch hmatch' hfound
      have hwords : lexer.RespectsWords (.shifted (· ∈ Form.unanchored) (Text.byteLength [])
          indent.byteLength) := Likeness.respectsWords_shifted
      have htokens := Likeness.emit_alike hwords meaning.emit halike hfound
      rw [scan_of_matched hstart hne, scan_of_matched hbehind hne,
        foldl_addToken_shifted htokens hat]
      exact scan_after _ _ _ hne

end LineLexer.Gibiane
