/-
Lines that differ in what was passed.

A search looks ahead as far as it likes but never further back than one character.  So what
two lines have to come after the same character is lexed alike, and all offsets are shifted by
the same amount.  Where the characters before differ as well, that still goes for the patterns
whose assertions do not tell (`Likeness.shifted`).
-/
import LineLexer.Proofs.Line.Alike
import LineLexer.Proofs.Line.Steps

namespace LineLexer

/-- To cut a joined text in its second part is to cut that part. -/
theorem Text.splitBytes?_add (s t : Text) (k : Nat) :
    Text.splitBytes? (s.byteLength + k) (s ++ t) =
      (Text.splitBytes? k t).map fun (head, tail) => (s ++ head, tail) := by
  induction s with
  | nil => simp
  | cons c s ih =>
      have hpos := c.utf8Size_pos
      obtain ⟨n, hn⟩ : ∃ n, Text.byteLength (c :: s) + k = n + 1 :=
        ⟨Text.byteLength (c :: s) + k - 1, by simp; omega⟩
      have hlength : c.utf8Size + Text.byteLength s + k = n + 1 := by rw [← hn]; simp
      have hrest : n + 1 - c.utf8Size = Text.byteLength s + k := by omega
      rw [hn, List.cons_append, Text.splitBytes?, if_pos (by omega), hrest, ih, Option.map_map]
      rfl

/-- What stands before a place in the second part is in that part, or ends the first one. -/
theorem Text.charBefore?_append (s t : Text) (k : Nat) :
    (s ++ t).charBefore? (s.byteLength + k) =
      (Text.splitBytes? k t).bind fun (head, _) => (s ++ head).getLast? := by
  rw [Text.charBefore?, Text.splitBytes?_add, Option.bind_map]
  rfl

/-- An assertion is about the character before and what is to come. -/
theorem Look.holds_congr (demand : Look) {cur cur' : Cursor} (hbefore : cur.before = cur'.before)
    (hrest : cur.rest = cur'.rest) : demand.holds cur = demand.holds cur' := by
  cases demand <;> simp only [Look.holds, hbefore, hrest]

/-- Places with the same text to come, equally far behind two offsets, between which some
assertions make no difference. -/
def Likeness.shifted (Asked : Look → Prop) (o o' : Nat) : Likeness where
  Same := Eq
  Alike cur cur' := cur.rest = cur'.rest ∧
    (∀ demand, Asked demand → demand.holds cur = demand.holds cur') ∧
    ∃ k, cur.offset = o + k ∧ cur'.offset = o' + k
  rest h := List.forall₂_eq_eq_eq ▸ h.1
  pass := by
    intro cur cur' c c' rest rest' h hcur hcur'
    obtain ⟨hrest, -, k, hoffset, hoffset'⟩ := h
    obtain ⟨rfl, rfl⟩ := List.cons.inj (hcur.symm.trans (hrest.trans hcur'))
    refine ⟨rfl, fun demand _ => demand.holds_congr rfl rfl, k + c.utf8Size, ?_, ?_⟩
    · show cur.offset + c.utf8Size = _
      omega
    · show cur'.offset + c.utf8Size = _
      omega

namespace Likeness

variable {Asked : Look → Prop} {o o' : Nat} {lexer : Lexer}

/-- A pattern keeps it if it asks nothing else. -/
theorem keeps_shifted {node : Node} (h : ∀ demand ∈ node.looks, Asked demand) :
    (shifted Asked o o').Keeps node :=
  ⟨fun set _ _ _ hsame => congrArg set.contains hsame,
    fun demand hdemand _ _ halike => halike.2.1 demand (h demand hdemand)⟩

theorem eq_of_same {t t' : Text} (h : List.Forall₂ (shifted Asked o o').Same t t') : t = t' :=
  List.forall₂_eq_eq_eq.le t t' h

theorem respectsWords_shifted : lexer.RespectsWords (shifted Asked o o') :=
  fun _ _ hword => congrArg lexer.keywords.classify (eq_of_same hword)

theorem respects_shifted : lexer.Respects (shifted (fun _ => True) o o') :=
  ⟨fun _ _ _ => keeps_shifted fun _ _ => trivial, respectsWords_shifted⟩

/-- What stands before a token is the same unless the token is the first thing to come. -/
theorem TokenAlike.charBefore?_shifted {token token' : Token} {passed passed' rest : Text}
    {c : Char} (h : (shifted Asked passed.byteLength passed'.byteLength).TokenAlike token token')
    (hbefore : passed.getLast? = some c ↔ passed'.getLast? = some c) :
    (passed ++ rest).charBefore? token.start = some c ↔
      (passed' ++ rest).charBefore? token'.start = some c := by
  obtain ⟨cur, cur', ⟨-, -, k, hoffset, hoffset'⟩, hstart, hstart'⟩ := h.start
  rw [hstart, hstart', hoffset, hoffset', Text.charBefore?_append, Text.charBefore?_append]
  cases Text.splitBytes? k rest with
  | none => rfl
  | some cut =>
      obtain ⟨head, -⟩ := cut
      rcases List.eq_nil_or_concat head with rfl | ⟨_, _, rfl⟩
      · simpa using hbefore
      · simp

/-- Matches that are alike passed the same text. -/
theorem exists_read_shifted {node : Node} {passed passed' body : Text} {stop stop' : Cursor}
    {closed closed' : Captures} (hne : node.mayBeEmpty = false)
    (hmatch : node.matchAt? (.between passed body) = some ⟨stop, closed⟩)
    (hmatch' : node.matchAt? (.between passed' body) = some ⟨stop', closed'⟩)
    (hfound : (shifted Asked o o').MatchAlike ⟨stop, closed⟩ ⟨stop', closed'⟩) :
    ∃ read rest, read ≠ [] ∧ body = read ++ rest ∧ stop = .between (passed ++ read) rest ∧
      stop' = .between (passed' ++ read) rest := by
  obtain ⟨read, hread⟩ := Node.matchAt?_reads hmatch
  obtain ⟨read', hread'⟩ := Node.matchAt?_reads hmatch'
  have hrest : stop.rest = stop'.rest := hfound.stop.1
  have hsplit : body = read ++ stop.rest := hread.passes.rest
  have hsplit' : body = read' ++ stop.rest := hrest ▸ hread'.passes.rest
  obtain rfl : read = read' := List.append_cancel_right (hsplit.symm.trans hsplit')
  obtain ⟨c, more, rfl, -, -⟩ := hread.exists_rest hne
  generalize stop.rest = rest at hsplit
  subst hsplit
  exact ⟨c :: more, rest, by simp, rfl, hread.passes.eq_between, hread'.passes.eq_between⟩

/-- Rules that keep a likeness are tried alike. -/
theorem first?_alike {l : Likeness} {n : Nat} {meanings : List (Meaning n)} {cur cur' : Cursor}
    (hkeeps : ∀ meaning ∈ meanings, l.Keeps meaning.node) (h : l.Alike cur cur') :
    Option.Rel (fun taken taken' => taken.1 = taken'.1 ∧ l.MatchAlike taken.2 taken'.2)
      (Meaning.first? meanings cur) (Meaning.first? meanings cur') := by
  refine findSome?_rel fun meaning hmeaning => ?_
  have hmatch := matchAt?_alike (hkeeps meaning hmeaning) h
  generalize meaning.node.matchAt? cur = found, meaning.node.matchAt? cur' = found' at hmatch
  cases hmatch with
  | none => exact .none
  | some hmatch => exact .some ⟨rfl, hmatch⟩

end Likeness

end LineLexer
