/-
Lexing without regard to case.

Whether rules ignore case is a property of their trees: each set holds both cases of a
letter or neither, and no assertion asks for more of a letter than that it is one.  Keyword
tables fold what they are asked, so they ignore case as well.  Lines that differ in nothing
but the case of ASCII letters are then lexed alike, turn by turn, and the offsets do not
shift, because both cases of a letter have the same size.  What a document keeps from one
line to the next is a state and an offset, so documents follow line by line.
-/
import LineLexer.Document
import LineLexer.Proofs.Line.Alike
import LineLexer.Proofs.Text.Case

namespace LineLexer

/-! ### Rules that ignore case -/

/-- The set holds both cases of each letter, or neither. -/
def CharSet.IgnoresCase (set : CharSet) : Prop :=
  ∀ i < 26, set.containsCode (65 + i) = set.containsCode (97 + i)

instance (set : CharSet) : Decidable set.IgnoresCase :=
  inferInstanceAs (Decidable (∀ i < 26, _ = _))

/-- The words at whose edges the assertion looks are words in either case. -/
def Look.IgnoresCase : Look → Prop
  | .word _ unicode => unicode = false
  | _ => True

instance (demand : Look) : Decidable demand.IgnoresCase :=
  match demand with
  | .word _ unicode => inferInstanceAs (Decidable (unicode = false))
  | .textStart | .textEnd | .lineStart _ | .lineEnd _ => isTrue trivial

/-- The pattern matches a letter in either case. -/
structure Node.IgnoresCase (node : Node) : Prop where
  sets : ∀ set ∈ node.sets, set.IgnoresCase
  looks : ∀ demand ∈ node.looks, demand.IgnoresCase

instance (node : Node) : Decidable node.IgnoresCase :=
  decidable_of_iff
    ((∀ set ∈ node.sets, set.IgnoresCase) ∧ ∀ demand ∈ node.looks, demand.IgnoresCase)
    ⟨fun ⟨sets, looks⟩ => ⟨sets, looks⟩, fun ⟨sets, looks⟩ => ⟨sets, looks⟩⟩

/-- All rules of the table match a letter in either case. -/
def RuleTable.IgnoresCase (table : RuleTable) : Prop :=
  ∀ id, ∀ rule ∈ (table.state id).rules, rule.pattern.node.IgnoresCase

instance (table : RuleTable) : Decidable table.IgnoresCase :=
  inferInstanceAs (Decidable (∀ id, ∀ rule ∈ (table.state id).rules, _))

theorem CharSet.IgnoresCase.contains {set : CharSet} (h : set.IgnoresCase) {c c' : Char}
    (hc : SameLetter c c') : set.contains c = set.contains c' := by
  refine hc.congr ?_
  intro i hi
  have hletter : ∀ n < 128, (Char.ofNat n).toNat = n := by decide
  rw [CharSet.contains, CharSet.contains, hletter _ (by omega), hletter _ (by omega)]
  exact h i hi

/-! ### Places up to case -/

/-- Places at the same offset of lines that differ in the case of ASCII letters. -/
def Likeness.upToCase : Likeness where
  Same := SameLetter
  Alike cur cur' := Option.Rel SameLetter cur.before cur'.before ∧ cur.offset = cur'.offset ∧
    Text.SameLetters cur.rest cur'.rest
  rest h := h.2.2
  pass := by
    intro cur cur' c c' rest rest' h hcur hcur'
    obtain ⟨-, hoffset, hrest⟩ := h
    rw [hcur, hcur'] at hrest
    obtain ⟨hc, hrest⟩ := List.forall₂_cons.mp hrest
    exact ⟨.some hc, by simp [Cursor.pass, hoffset, hc.utf8Size], hrest⟩

theorem Look.IgnoresCase.holds {demand : Look} (h : demand.IgnoresCase) {cur cur' : Cursor}
    (halike : Likeness.upToCase.Alike cur cur') : demand.holds cur = demand.holds cur' := by
  obtain ⟨before, offset, rest⟩ := cur
  obtain ⟨before', offset', rest'⟩ := cur'
  obtain ⟨hbefore, -, hrest⟩ := halike
  simp only at hbefore hrest
  have hfeed : ∀ {c c'}, SameLetter c c' → (some c != some '\n') = (some c' != some '\n') :=
    fun h => h.congr (f := fun c => some c != some '\n') (by decide)
  have hreturn : ∀ {c c'}, SameLetter c c' → (some c != some '\r') = (some c' != some '\r') :=
    fun h => h.congr (f := fun c => some c != some '\r') (by decide)
  have hword : ∀ {c c'}, SameLetter c c' →
      CharSet.asciiWord.contains c = CharSet.asciiWord.contains c' :=
    fun h => CharSet.IgnoresCase.contains (by decide) h
  cases demand with
  | textStart => cases hbefore <;> rfl
  | textEnd => cases hrest <;> rfl
  | lineStart crlf =>
      cases hbefore with
      | none => rfl
      | some hc =>
          cases hrest with
          | nil => simp only [Look.holds, hc.eq_lineFeed, hc.eq_return, List.head?_nil]
          | cons hd _ =>
              simp only [Look.holds, hc.eq_lineFeed, hc.eq_return, List.head?_cons, hfeed hd]
  | lineEnd crlf =>
      cases hrest with
      | nil => rfl
      | cons hd _ =>
          cases hbefore with
          | none => simp only [Look.holds, hd.eq_lineFeed, hd.eq_return]
          | some hc => simp only [Look.holds, hd.eq_lineFeed, hd.eq_return, hreturn hc]
  | word edge unicode =>
      obtain rfl : unicode = false := h
      cases hbefore with
      | none =>
          cases hrest with
          | nil => rfl
          | cons hd _ => simp [Look.holds, hword hd]
      | some hc =>
          cases hrest with
          | nil => simp [Look.holds, hword hc]
          | cons hd _ => simp [Look.holds, hword hc, hword hd]

namespace Lexer

variable {lexer : Lexer}

/-- A lexer whose rules ignore case respects places up to case. -/
theorem respects_upToCase (h : lexer.rules.IgnoresCase) : lexer.Respects .upToCase := by
  refine ⟨?_, ?_⟩
  · intro id rule hrule
    obtain ⟨hsets, hlooks⟩ := h id rule hrule
    exact ⟨fun set hset c c' hc => (hsets set hset).contains hc,
      fun demand hdemand cur cur' halike => (hlooks demand hdemand).holds halike⟩
  · intro word word' hword
    have hfold : KeywordTable.fold word = KeywordTable.fold word' :=
      Text.SameLetters.toUppercase hword
    rw [KeywordTable.classify, KeywordTable.classify, hfold]

end Lexer

/-! ### Lines -/

/-- What a token is, and where it starts and stops. -/
def Token.place (token : Token) : Category × Nat × Nat := (token.category, token.start, token.stop)

theorem Likeness.TokenAlike.place {token token' : Token} (h : upToCase.TokenAlike token token') :
    token.place = token'.place := by
  obtain ⟨hcategory, ⟨cur, cur', halike, hstart, hstart'⟩, htext⟩ := h
  have hoffset : token.start = token'.start := by rw [hstart, hstart', halike.2.1]
  rw [Token.place, Token.place, Token.stop, Token.stop, hcategory, hoffset,
    Text.SameLetters.byteLength htext]

namespace Lexer

variable {lexer : Lexer}

/-- A line is lexed alike in either case: its tokens have the same places, and it leaves the same
state, which was entered at the same place. -/
theorem tokenizeLine_sameLetters (h : lexer.rules.IgnoresCase) (state : lexer.rules.StateId)
    {line line' : Text} (hline : line.SameLetters line') :
    (lexer.tokenizeLine state line).1.map Token.place =
        (lexer.tokenizeLine state line').1.map Token.place ∧
      (lexer.tokenizeLine state line).2 = (lexer.tokenizeLine state line').2 ∧
      lastSwitch? (lexer.lineTurns state line) = lastSwitch? (lexer.lineTurns state line') := by
  have hrespects := respects_upToCase h
  have halike : Likeness.upToCase.Alike (.start line) (.start line') := ⟨.none, rfl, hline⟩
  have hturns := Likeness.turns_alike hrespects state _ _ halike
  refine ⟨?_, Likeness.exitOf_alike state hturns, ?_⟩
  · rw [← List.forall₂_eq_eq_eq, List.forall₂_map_left_iff, List.forall₂_map_right_iff]
    exact (Likeness.tokens_alike hrespects state halike).imp fun _ _ => Likeness.TokenAlike.place
  · have hswitch := Likeness.lastSwitch?_alike hturns
    rw [lineTurns, lineTurns]
    generalize lastSwitch? (lexer.turns state (.start line)) = offset,
      lastSwitch? (lexer.turns state (.start line')) = offset' at hswitch
    cases hswitch with
    | none => rfl
    | some hoffset =>
        obtain ⟨cur, cur', halike, rfl, rfl⟩ := hoffset
        rw [halike.2.1]

end Lexer

/-! ### Documents -/

/-- Where a line starts, the state it was entered in, and the places of its tokens. -/
def LexedLine.outline {n : Nat} (line : LexedLine n) : Nat × Fin n × List (Category × Nat × Nat) :=
  (line.offset, line.entered, line.tokens.map Token.place)

namespace Lexer

variable {lexer : Lexer}

theorem lexLines_sameLetters (h : lexer.rules.IgnoresCase) {raws raws' : List Text}
    (hraws : List.Forall₂ Text.SameLetters raws raws') (index offset : Nat)
    (state : lexer.rules.StateId) (opened : Option OpenPlace) :
    (lexer.lexLines raws index offset state opened).1.map LexedLine.outline =
        (lexer.lexLines raws' index offset state opened).1.map LexedLine.outline ∧
      (lexer.lexLines raws index offset state opened).2 =
        (lexer.lexLines raws' index offset state opened).2 := by
  induction hraws generalizing index offset state opened with
  | nil => exact ⟨rfl, rfl⟩
  | @cons raw raw' raws raws' hraw _ ih =>
      obtain ⟨htokens, hexit, hswitch⟩ := tokenizeLine_sameLetters h state hraw.stripReturn
      have hexit' : exitOf state (lexer.lineTurns state (Text.stripReturn raw)) =
        exitOf state (lexer.lineTurns state (Text.stripReturn raw')) := hexit
      simp only [lexLines, hexit', hswitch, hraw.byteLength, List.map_cons]
      obtain ⟨hlines, hfinal⟩ := ih (index + 1) (offset + Text.byteLength raw' + 1)
        (exitOf state (lexer.lineTurns state (Text.stripReturn raw')))
        (lexer.openedAfter opened index offset
          (exitOf state (lexer.lineTurns state (Text.stripReturn raw')))
          (lastSwitch? (lexer.lineTurns state (Text.stripReturn raw'))))
      refine ⟨?_, hfinal⟩
      rw [hlines]
      congr 1
      exact congrArg (fun places => (offset, state, places)) htokens

/-- **A document is lexed alike in either case.** -/
theorem tokenizeDocument_sameLetters (h : lexer.rules.IgnoresCase) {text text' : Text}
    (htext : text.SameLetters text') :
    (lexer.tokenizeDocument text).lines.map LexedLine.outline =
        (lexer.tokenizeDocument text').lines.map LexedLine.outline ∧
      (lexer.tokenizeDocument text).exit = (lexer.tokenizeDocument text').exit ∧
      (lexer.tokenizeDocument text).incompleteConstruct? =
        (lexer.tokenizeDocument text').incompleteConstruct? := by
  obtain ⟨hlines, hfinal⟩ := lexLines_sameLetters h htext.rawLines 0 0 lexer.start none
  refine ⟨hlines, congrArg Prod.fst hfinal, ?_⟩
  simp only [Document.incompleteConstruct?, tokenizeDocument, hfinal, htext.byteLength]

end Lexer

end LineLexer
