/-
Where the rules stop, and which of them stop inside a word.

Only two of the fifteen rules outside strings and headers ask for the edge of a word.  Most
others cannot miss it: they end with a sign, a bracket or a blank, or they are greedy and
end with a name (`ends_of_mem_start`).  Two do miss it.  A parameter is read no further
than two characters, however long its name is, and a comparison that is spelled with
letters is read whatever follows it.  `Cuts` lists what they read there, and it is read
wherever it stands (`first?_of_cuts`).

The groups of a rule meet at edges of words (`parted_of_mem_start`), and a string or a
header is left at one (`settles_of_next`).
-/
import LineLexer.Proofs.Gibiane.Matches
import LineLexer.Proofs.Line.Steps
import LineLexer.Proofs.Pattern.Edges
import LineLexer.Proofs.Text.Case

namespace LineLexer

namespace Gibiane

/-- The tokens that can stop inside a word. -/
inductive Cuts : Category → Text → Prop
  /-- A parameter stops after two characters of its name. -/
  | parameter {c d : Char} (hc : Form.letter.contains c = true) (hd : isWordChar d = true) :
      Cuts .parameter ['&', c, d]
  /-- A comparison that is spelled with letters stops after the last of them. -/
  | comparison {sign : Char} {text : Text} (hsign : sign ∈ ['<', '>'])
      (htext : Text.eqIgnoreCase text [sign, 'E', 'G'] = true) : Cuts .operator text

/-- A comparison that is spelled with letters begins with its sign. -/
theorem exists_of_comparison {sign : Char} {text : Text} (hsign : sign ∈ ['<', '>'])
    (htext : Text.eqIgnoreCase text [sign, 'E', 'G'] = true) : ∃ more, text = sign :: more := by
  cases Text.sameLetters_iff.mpr htext with
  | @cons c _ more _ hc _ =>
      have hlow : sign.toNat < 65 ∧ sign.toLower = sign := by
        simp only [List.mem_cons, List.not_mem_nil, or_false] at hsign
        rcases hsign with rfl | rfl <;> decide
      have heq : c.toLower = sign := hc.trans hlow.2
      exact ⟨more, by rw [(toLower_eq_iff (.inl hlow.1)).mp heq]⟩

/-- What cuts a word ends with a character of it. -/
theorem Cuts.exists_last {category : Category} {text : Text} (h : Cuts category text) :
    ∃ c ∈ text.getLast?, isWordChar c = true := by
  cases h with
  | parameter _ hd => exact ⟨_, rfl, hd⟩
  | @comparison sign text _ htext =>
      have hsmall : text.map Char.toLower = [sign, 'E', 'G'].map Char.toLower := by
        simpa [Text.eqIgnoreCase] using htext
      have hlast : (text.map Char.toLower).getLast? = some 'G'.toLower := by
        rw [hsmall]
        rfl
      rw [List.getLast?_map] at hlast
      obtain ⟨c, hc, hlower⟩ := Option.map_eq_some_iff.mp hlast
      refine ⟨c, hc, ?_⟩
      rw [← isWordChar_toLower, hlower]
      decide

/-- It begins with the sign of a parameter or a comparison. -/
theorem Cuts.exists_head {category : Category} {text : Text} (h : Cuts category text) :
    ∃ c ∈ text.head?, c ∈ ['&', '<', '>'] := by
  cases h with
  | parameter _ _ => exact ⟨'&', rfl, by decide⟩
  | comparison hsign htext =>
      obtain ⟨_, rfl⟩ := exists_of_comparison hsign htext
      exact ⟨_, rfl, List.mem_cons_of_mem _ hsign⟩

/-! ### Where the rules stop -/

/-- A match from `start` to `stop` does not stop inside a word, or is a token that can. -/
def StopsAt (emit : Emit) (start stop : Cursor) : Prop :=
  stop.InWord → ∃ category text, emit = .whole (.fixed category) ∧ start.Passes text stop ∧
    Cuts category text

section Rules

open Node

variable {start : Cursor} {passed rest : Text} {emit : Emit} {first keyword next node : Node}
  {index : Nat} {P : Cursor → Prop}

theorem ends_of_settles (h : node.Settles) : node.Ends start (StopsAt emit start) :=
  .of_reads fun _ _ _ hread hin => absurd hin (hread.not_inWord_of_settles h)

theorem ends_of_not_inWord (h : node.Ends start fun stop => ¬ stop.InWord) :
    node.Ends start (StopsAt emit start) :=
  h.mono fun _ hstop hin => absurd hin hstop

theorem not_inWord_of_nameRest {cur : Cursor}
    (h : ∀ c ∈ cur.rest.head?, Form.nameRest.contains c = false) : ¬ cur.InWord := by
  refine Cursor.not_inWord_of_head fun c hc => ?_
  rw [asciiWord_contains, ← nameRest_contains]
  exact h c hc

/-- A name ends where its word does. -/
theorem ends_name (passed rest : Text) :
    Form.name.Ends (.between passed rest) fun stop => ¬ stop.InWord :=
  .seq fun _ _ tail _ _ => (Ends.many _ tail).mono fun _ hstop => not_inWord_of_nameRest hstop

/-- Blanks lead up to the edge of a word. -/
theorem ends_behind_blanks (passed rest : Text)
    (h : ∀ passed rest, ¬ (Cursor.between passed rest).InWord → next.Ends (.between passed rest) P) :
    (Node.seq (.group index (Form.run .asciiSpace)) next).Ends (.between passed rest) P := by
  refine .seq fun read _ tail _ hblanks => h _ _ ?_
  cases hblanks with
  | group hblanks => exact hblanks.not_inWord_of_blank (by decide)

theorem ends_headed (passed rest : Text)
    (h : ∀ passed rest, ¬ (Cursor.between passed rest).InWord → next.Ends (.between passed rest) P) :
    (Form.headed keyword next).Ends (.between passed rest) P :=
  .seq fun _ _ _ _ _ => ends_behind_blanks _ _ h

/-- A name that may be left out behind blanks. -/
theorem ends_optional_name (passed rest : Text) (hedge : ¬ (Cursor.between passed rest).InWord) :
    (Form.optional (.group index Form.name)).Ends (.between passed rest)
      fun stop => ¬ stop.InWord :=
  .optional (ends_name passed rest).group hedge

/-- A parameter takes a second character of its name, if there is one, and no more. -/
theorem ends_parameter (passed rest : Text) :
    Form.parameter.Ends (.between passed rest)
      (StopsAt (.whole (.fixed .parameter)) (.between passed rest)) := by
  refine .seq fun mark _ tail hrest hmark => .seq fun letter _ more htail hletter => ?_
  obtain ⟨_, rfl, hsign⟩ := hmark.exists_of_chars
  obtain rfl := List.mem_singleton.mp (oneOf_contains.mp hsign)
  obtain ⟨c, rfl, hc⟩ := hletter.exists_of_chars
  by_cases hmore : ∃ d ∈ more.head?, Form.nameRest.contains d = true
  · obtain ⟨d, hhead, hd⟩ := hmore
    obtain ⟨after, rfl⟩ := List.head?_eq_some_iff.mp hhead
    refine .of_leads (Leads.chars _ hd).optional fun _ => ?_
    have hcut : Cuts .parameter ['&', c, d] := .parameter hc (by rw [← nameRest_contains, hd])
    have hpasses := Cursor.passes_between passed ['&', c, d] after
    refine ⟨_, _, rfl, ?_, hcut⟩
    rw [hrest, htail]
    simpa using hpasses
  · have hnone : ∀ d ∈ more.head?, Form.nameRest.contains d = false := by simpa using hmore
    exact .of_leads (Leads.optional_of_starts (by decide) hnone)
      fun hin => absurd hin (not_inWord_of_nameRest hnone)

/-- An operator ends with a blank or a sign, but for comparisons that are spelled with letters. -/
theorem ends_operator (start : Cursor) :
    Form.operator.Ends start (StopsAt (.whole (.fixed .operator)) start) := by
  refine .of_reads fun read closed stop h hin => ?_
  have hwords : ∀ word ∈ Form.wordOperators,
      (Node.ofParts (Form.anyCase (word ++ [' ']))).Settles := by decide
  have hcomparison : ∀ sign ∈ ['<', '>'],
      (Node.ofParts (Form.anyCase [sign, 'E', 'G'])).Reads start read closed stop →
        ∃ category text, Emit.whole (.fixed .operator) = .whole (.fixed category) ∧
          start.Passes text stop ∧ Cuts category text := by
    intro sign hsign hread
    exact ⟨_, _, rfl, hread.passes, .comparison hsign (eqIgnoreCase_of_reads_anyCase hread)⟩
  rcases exists_of_reads_operators h with ⟨word, hmem, hread⟩ | h
  · exact absurd hin (hread.not_inWord_of_settles (hwords word hmem))
  · cases h with
    | altFirst hread => exact hcomparison '>' (by simp) hread
    | altSecond h =>
        cases h with
        | altFirst hread => exact hcomparison '<' (by simp) hread
        | altSecond hread => exact absurd hin (hread.not_inWord_of_settles (by decide))

/-- **No rule stops inside a word, but with a parameter or a comparison.** -/
theorem ends_of_mem_start {n : Nat} (string header : Fin n) (passed rest : Text) :
    ∀ meaning ∈ Form.start string header,
      meaning.node.Ends (.between passed rest)
        (StopsAt meaning.emit (.between passed rest)) := by
  simp only [Form.start, List.forall_mem_cons, List.not_mem_nil, false_imp_iff, implies_true,
    and_true]
  refine ⟨ends_of_settles (by decide), ends_of_settles (by decide), ends_of_settles (by decide),
    ends_of_settles (by decide), ends_of_settles (by decide), ends_of_not_inWord ?_,
    ends_of_not_inWord ?_, ends_parameter passed rest, ends_of_settles (by decide),
    ends_of_not_inWord ?_, ends_of_settles (by decide), ends_of_settles (by decide),
    ends_operator _, ends_of_settles (by decide), ends_of_settles (by decide)⟩
  · exact ends_headed passed rest fun passed rest _ => (ends_name passed rest).group
  · exact ends_headed passed rest fun passed rest _ => .seq fun _ _ _ _ _ =>
      ends_behind_blanks _ _ ends_optional_name
  · exact ends_headed passed rest ends_optional_name

/-- The groups of the rules meet at edges of words. -/
theorem parted_of_mem_start {n : Nat} (string header : Fin n) :
    ∀ meaning ∈ Form.start string header,
      meaning.node.Parted ∨ ∃ label, meaning.emit = .whole label := by
  simp only [Form.start, List.forall_mem_cons, List.not_mem_nil, false_imp_iff, implies_true,
    and_true]
  exact ⟨.inr ⟨_, rfl⟩, .inr ⟨_, rfl⟩, .inr ⟨_, rfl⟩, .inr ⟨_, rfl⟩, .inr ⟨_, rfl⟩,
    .inl (by decide), .inl (by decide), .inr ⟨_, rfl⟩, .inl (by decide), .inl (by decide),
    .inl (by decide), .inl (by decide), .inr ⟨_, rfl⟩, .inr ⟨_, rfl⟩, .inr ⟨_, rfl⟩⟩

/-- A rule that leads out of a string or a header stops at the edge of a word. -/
theorem settles_of_next {n : Nat} {start : Fin n} {meaning : Meaning n}
    (hmem : meaning ∈ Form.string start ++ Form.header start) (hnext : meaning.next ≠ none) :
    meaning.node.Settles := by
  have hall : ∀ meaning ∈ Form.string start ++ Form.header start,
      meaning.next = none ∨ meaning.node.Settles := by
    simp only [Form.string, Form.header, List.cons_append, List.nil_append, List.forall_mem_cons,
      List.not_mem_nil, false_imp_iff, implies_true, and_true]
    exact ⟨.inl trivial, .inr (by decide), .inl trivial, .inl trivial, .inr (by decide)⟩
  exact (hall meaning hmem).resolve_left hnext

/-! ### What cuts a word, wherever it stands -/

/-- A text in any case is matched where it stands. -/
theorem leads_anyCase {text word : Text} (h : Text.SameLetters text word) (passed rest : Text) :
    (Node.ofParts (Form.anyCase word)).Leads (.between passed (text ++ rest)) []
      (.between (passed ++ text) rest) := by
  induction h generalizing passed with
  | nil =>
      rw [List.append_nil]
      exact .empty _
  | @cons c c' text _ hc h ih =>
      have hfirst : (Node.chars (CharSet.single c').foldAscii).Leads
          (.between passed (c :: (text ++ rest))) [] (.between (passed ++ [c]) (text ++ rest)) :=
        Leads.chars passed (single_foldAscii_contains.mpr hc)
      cases h with
      | nil => exact hfirst
      | cons =>
          have hmore := ih (passed ++ [c])
          rw [List.append_assoc] at hmore
          exact hfirst.seq hmore

theorem leads_parameter {c d : Char} (passed rest : Text) (hc : Form.letter.contains c = true)
    (hd : isWordChar d = true) :
    Form.parameter.Leads (.between passed (['&', c, d] ++ rest)) []
      (.between (passed ++ ['&', c, d]) rest) := by
  rw [← nameRest_contains] at hd
  have hmark : (Form.oneOf ['&']).contains '&' = true := by decide
  have hlead : Form.parameter.Leads (.between passed (['&', c, d] ++ rest)) []
      (.between (((passed ++ ['&']) ++ [c]) ++ [d]) rest) :=
    (Leads.chars passed hmark).seq ((Leads.chars _ hc).seq (Leads.chars _ hd).optional)
  simpa using hlead

/-- A comparison that is spelled with letters is read before its sign alone. -/
theorem leads_comparison {sign : Char} {text : Text} (passed rest : Text)
    (hsign : sign ∈ ['<', '>']) (htext : Text.eqIgnoreCase text [sign, 'E', 'G'] = true) :
    Form.operator.Leads (.between passed (text ++ rest)) [] (.between (passed ++ text) rest) := by
  have hlead := leads_anyCase (Text.sameLetters_iff.mpr htext) passed rest
  obtain ⟨more, rfl⟩ := exists_of_comparison hsign htext
  have hhead : ∀ c ∈ (Cursor.between passed (sign :: more ++ rest)).rest.head?,
      (Form.oneOf [sign]).contains c = true := by
    rintro _ ⟨⟩
    exact oneOf_contains.mpr (List.mem_singleton_self sign)
  simp only [List.mem_cons, List.not_mem_nil, or_false] at hsign
  rcases hsign with rfl | rfl
  · iterate 6 refine .altSecond_of_apart _ hhead (by decide) (by decide) ?_
    exact hlead.altFirst
  · iterate 5 refine .altSecond_of_apart _ hhead (by decide) (by decide) ?_
    exact hlead.altFirst

/-- What cuts a word is matched wherever the start state comes to it. -/
theorem first?_of_cuts {n : Nat} (string header : Fin n) {category : Category} {text : Text}
    (hcuts : Cuts category text) (passed rest : Text) :
    ∃ node, Meaning.first? (Form.start string header) (.between passed (text ++ rest)) =
      some (⟨node, .whole (.fixed category), none⟩, ⟨.between (passed ++ text) rest, []⟩) := by
  cases hcuts with
  | parameter hc hd =>
      rw [Meaning.first?_openings (Form.oneOf ['&']) (by rintro _ ⟨⟩; decide)]
      exact ⟨_, Meaning.first?_cons_of_matchAt?
        (Node.matchAt?_of_leads (leads_parameter passed rest hc hd))⟩
  | @comparison sign text hsign htext =>
      have hlead := leads_comparison passed rest hsign htext
      obtain ⟨more, rfl⟩ := exists_of_comparison hsign htext
      rw [Meaning.first?_openings (Form.oneOf ['<', '>'])
        (by rintro _ ⟨⟩; exact oneOf_contains.mpr hsign)]
      exact ⟨_, Meaning.first?_cons_of_matchAt? (Node.matchAt?_of_leads hlead)⟩

end Rules

end Gibiane

end LineLexer
