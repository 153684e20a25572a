/-
What the start state matches.

Signs are read by the only rule that can begin with them.  Words are another matter:
eight rules can begin with a letter, and which of them matches depends on what follows
the word.  A header, a loop or its end needs blanks and then more; an assignment needs its
sign, a dotted name its dot; an operator that is a word needs a blank after it.  Each of
these says where the word ends and what comes next, and so each is ruled out, or in, by
the text after the word alone (`reads_headed`, `reads_assigned`, `reads_dotted`).
-/
import LineLexer.Proofs.Gibiane.Rules
import LineLexer.Proofs.Pattern.Preferred
import LineLexer.Proofs.Text.Visible

namespace LineLexer

namespace Gibiane

/-! ### Names and words -/

theorem asciiWord_contains (c : Char) : CharSet.asciiWord.contains c = isWordChar c := by
  rw [Bool.eq_iff_iff, isWordChar_iff]
  simp [CharSet.asciiWord, CharSet.ofPairs, CharSet.contains, CharSet.containsCode,
    CharRange.contains]
  omega

theorem asciiDigit_contains {c : Char} (h : c.isDigit = true) :
    CharSet.asciiDigit.contains c = true := by
  have hcode := isDigit_iff.mp h
  simp [CharSet.asciiDigit, CharSet.range, CharSet.contains, CharSet.containsCode,
    CharRange.contains]
  omega

theorem nameRest_contains (c : Char) : Form.nameRest.contains c = isWordChar c := by
  have hranges : Form.nameRest.ranges =
      [⟨97, 122⟩, ⟨65, 90⟩, ⟨48, 57⟩, ⟨95, 95⟩, ⟨97, 122⟩, ⟨65, 90⟩] := rfl
  rw [Bool.eq_iff_iff, isWordChar_iff]
  simp [CharSet.contains, CharSet.containsCode, hranges, CharRange.contains]
  omega

theorem nameStart_contains (c : Char) :
    Form.nameStart.contains c = (isWordChar c && !c.isDigit) := by
  have hranges : Form.nameStart.ranges =
      [⟨97, 122⟩, ⟨65, 90⟩, ⟨95, 95⟩, ⟨97, 122⟩, ⟨65, 90⟩] := rfl
  rw [Bool.eq_iff_iff, Bool.and_eq_true, Bool.not_eq_true', ← Bool.not_eq_true, isWordChar_iff,
    isDigit_iff]
  simp [CharSet.contains, CharSet.containsCode, hranges, CharRange.contains]
  omega

theorem oneOf_contains {chars : Text} {c : Char} :
    (Form.oneOf chars).contains c = true ↔ c ∈ chars := by
  simp only [Form.oneOf, CharSet.contains, CharSet.containsCode, List.any_map, List.any_eq_true,
    Function.comp_apply, CharRange.contains, Bool.and_eq_true, decide_eq_true_eq]
  constructor
  · rintro ⟨d, hd, hle, hge⟩
    obtain rfl : c = d := Char.toNat_inj.mp (Nat.le_antisymm hge hle)
    exact hd
  · intro hc
    exact ⟨c, hc, Nat.le_refl _, Nat.le_refl _⟩

theorem all_contains (c : Char) : CharSet.all.contains c = true := by
  have hvalid : c.toNat < 0xD800 ∨ 0xDFFF < c.toNat ∧ c.toNat < 0x110000 := c.valid
  simp only [CharSet.all, CharSet.ofPairs, CharSet.contains, CharSet.containsCode, List.map_cons,
    List.map_nil, List.any_cons, List.any_nil, CharRange.contains, Bool.or_eq_true,
    Bool.and_eq_true, decide_eq_true_eq]
  omega

/-- The text is nothing but ASCII blanks. -/
def Spaces (s : Text) : Prop := ∀ c ∈ s, CharSet.asciiSpace.contains c = true

theorem spaces_nil : Spaces [] := List.forall_mem_nil _

theorem spaces_singleton {c : Char} : Spaces [c] ↔ CharSet.asciiSpace.contains c = true :=
  List.forall_mem_singleton

theorem spaces_blank : Spaces [' '] := spaces_singleton.mpr rfl

/-- A set that folds a character holds what differs from it in case only. -/
theorem single_foldAscii_contains {c d : Char} :
    (CharSet.single c).foldAscii.contains d = true ↔ d.toLower = c.toLower := by
  have hunion : (CharSet.single c).foldAscii.contains d = true ↔ d.toNat = c.toNat ∨
      (65 ≤ c.toNat ∧ c.toNat ≤ 90 ∧ d.toNat = c.toNat + 32) ∨
      (97 ≤ c.toNat ∧ c.toNat ≤ 122 ∧ d.toNat = c.toNat - 32) := by
    have hranges : (CharSet.single c).foldAscii.ranges =
        [⟨c.toNat, c.toNat⟩] ++
          ((⟨c.toNat, c.toNat⟩ : CharRange).meet ⟨65, 90⟩).map (fun r => ⟨r.lo + 32, r.hi + 32⟩) ++
          ((⟨c.toNat, c.toNat⟩ : CharRange).meet ⟨97, 122⟩).map
            (fun r => ⟨r.lo - 32, r.hi - 32⟩) := by
      simp [CharSet.foldAscii, CharSet.single, CharSet.range, CharSet.union, CharSet.inter,
        CharSet.shiftUp, CharSet.shiftDown]
    rw [CharSet.contains, CharSet.containsCode, hranges]
    simp only [CharRange.meet]
    split <;> split <;> simp [CharRange.contains] <;> omega
  rw [hunion, ← Char.toNat_inj, toNat_toLower, toNat_toLower]
  split <;> split <;> omega

theorem isWordChar_of_toLower_mem_operator {operator : Text} (hmem : operator ∈ Form.wordOperators)
    {c : Char} (hc : c.toLower ∈ operator.map Char.toLower) : isWordChar c = true := by
  have hletters : ∀ operator ∈ Form.wordOperators, (operator.map Char.toLower).all
      (fun d => 97 ≤ d.toNat && d.toNat ≤ 122) = true := by decide
  have hcode : 97 ≤ c.toLower.toNat ∧ c.toLower.toNat ≤ 122 := by
    simpa using List.all_eq_true.mp (hletters operator hmem) _ hc
  rw [toNat_toLower] at hcode
  rw [isWordChar_iff]
  split at hcode <;> omega

/-- The text is a whole word before what follows it. -/
structure WholeWord (w tail : Text) : Prop where
  ne_nil : w ≠ []
  chars : ∀ c ∈ w, isWordChar c = true
  stop : ∀ c ∈ tail.head?, isWordChar c = false

/-- What begins with a character of a word begins with a whole word. -/
theorem wholeWord_takeWhile {c : Char} (hc : isWordChar c = true) (rest : Text) :
    WholeWord ((c :: rest).takeWhile isWordChar) ((c :: rest).dropWhile isWordChar) := by
  refine ⟨?_, List.all_eq_true.mp List.all_takeWhile, fun d hd => not_of_mem_head?_dropWhile hd⟩
  rw [List.takeWhile_cons_of_pos hc]
  exact List.cons_ne_nil _ _

/-- The text is a name that is no operator. -/
structure IsName (w : Text) : Prop where
  identifier : w.isIdentifier = true
  noOperator : ∀ operator ∈ Form.wordOperators, Text.eqIgnoreCase w operator = false

theorem exists_of_isIdentifier {w : Text} (h : w.isIdentifier = true) :
    ∃ c more, w = c :: more ∧ Form.nameStart.contains c = true ∧
      ∀ d ∈ more, Form.nameRest.contains d = true := by
  obtain ⟨hword, hhead⟩ := Bool.and_eq_true_iff.mp h
  obtain ⟨hne, hchars⟩ := Text.isWord_iff.mp hword
  cases w with
  | nil => exact absurd rfl hne
  | cons c more =>
      refine ⟨c, more, rfl, ?_, ?_⟩
      · rw [nameStart_contains, hchars c List.mem_cons_self]
        simpa using hhead
      · intro d hd
        rw [nameRest_contains, hchars d (List.mem_cons_of_mem _ hd)]

theorem wholeWord_of_isIdentifier {w tail : Text} (h : w.isIdentifier = true)
    (hstop : ∀ c ∈ tail.head?, isWordChar c = false) : WholeWord w tail := by
  obtain ⟨hne, hchars⟩ := Text.isWord_iff.mp (Text.isWord_of_isIdentifier h)
  exact ⟨hne, hchars, hstop⟩

/-- A blank is no part of a word. -/
theorem isWordChar_of_asciiSpace {c : Char} (h : CharSet.asciiSpace.contains c = true) :
    isWordChar c = false := by
  have hapart : CharSet.asciiSpace.Apart .asciiWord := by decide
  rw [← asciiWord_contains]
  exact hapart.contains h

/-- A name is a whole word before blanks and what is no part of a word. -/
theorem wholeWord_spaces {w s tail : Text} (h : w.isIdentifier = true) (hs : Spaces s)
    (htail : ∀ c ∈ tail.head?, isWordChar c = false) : WholeWord w (s ++ tail) := by
  refine wholeWord_of_isIdentifier h ?_
  cases s with
  | nil => exact htail
  | cons b s =>
      rintro _ ⟨⟩
      exact isWordChar_of_asciiSpace (hs b List.mem_cons_self)

/-- A name that a blank follows is a whole word. -/
theorem wholeWord_blank {w rest : Text} (h : w.isIdentifier = true) : WholeWord w (' ' :: rest) :=
  wholeWord_of_isIdentifier h (by rintro _ ⟨⟩; decide)

namespace WholeWord

variable {w tail : Text}

theorem contains (h : WholeWord w tail) : ∀ c ∈ w, CharSet.asciiWord.contains c = true := by
  intro c hc
  rw [asciiWord_contains, h.chars c hc]

theorem not_contains (h : WholeWord w tail) :
    ∀ c ∈ tail.head?, CharSet.asciiWord.contains c = false := by
  intro c hc
  rw [asciiWord_contains, h.stop c hc]

end WholeWord

/-! ### What a reading says of the text after a word -/

section Readings

variable {w s t rest read : Text} {passed : Text} {b d : Char} {closed : Captures} {stop : Cursor}
  {keyword next : Node}

/-- A header needs blanks after its first word. -/
theorem not_reads_headed {tail : Text} (hw : WholeWord w tail)
    (htail : ∀ c ∈ tail.head?, CharSet.asciiSpace.contains c = false)
    (hkeyword : ∀ set ∈ keyword.sets, set.Within .asciiWord)
    (hnext : (Node.seq (.group 2 (Form.run .asciiSpace)) next).mayBeEmpty = false) :
    ¬ (Form.headed keyword next).Reads (.between passed (w ++ tail)) read closed stop := by
  intro h
  obtain ⟨_, _, _, -, hblanks, -⟩ := h.split .asciiWord hkeyword hnext
    (show CharSet.asciiSpace.Apart .asciiWord by decide) hw.contains hw.not_contains
  obtain ⟨c, _, -, hrest, hc⟩ := hblanks.exists_rest hnext
  have hhead : tail.head? = some c := by
    rw [show tail = c :: _ from hrest]
    rfl
  have hblank : CharSet.asciiSpace.contains c = true := hc
  rw [htail c hhead] at hblank
  exact Bool.noConfusion hblank

/-- A header reads the word before a blank, the blank, and then what it goes on with. -/
theorem reads_headed (hw : WholeWord w (b :: d :: rest))
    (hd : CharSet.asciiSpace.contains d = false)
    (hkeyword : ∀ set ∈ keyword.sets, set.Within .asciiWord)
    (hnext : (Node.seq (.group 2 (Form.run .asciiSpace)) next).mayBeEmpty = false)
    (h : (Form.headed keyword next).Reads (.between passed (w ++ b :: d :: rest)) read closed
      stop) :
    ∃ more earlier later,
      keyword.Reads (.between passed (w ++ b :: d :: rest)) w earlier
          (.between (passed ++ w) (b :: d :: rest)) ∧
        next.Reads (.between (passed ++ w ++ [b]) (d :: rest)) more later stop ∧
        closed = later ++
          [(2, .across (passed ++ w) [b] (d :: rest))] ++
          (1, .across passed w (b :: d :: rest)) :: earlier := by
  obtain ⟨_, _, _, hgroup, hblanks, rfl⟩ := h.split .asciiWord hkeyword hnext
    (show CharSet.asciiSpace.Apart .asciiWord by decide) hw.contains hw.not_contains
  obtain ⟨more, _, later, hblank, hmore, rfl⟩ := hblanks.split_single .asciiSpace
    (by decide) (by decide) hd
  cases hgroup with
  | group hkeyword =>
      cases hblank with
      | group hblank =>
          obtain rfl := hblank.closed_eq_nil rfl
          exact ⟨more, _, later, hkeyword, hmore, rfl⟩

/-- An assignment has its sign after the blanks that follow the name. -/
theorem head?_of_reads_assigned (hw : WholeWord w (s ++ t)) (hs : Spaces s)
    (ht : ∀ c ∈ t.head?, CharSet.asciiSpace.contains c = false)
    (h : Form.assigned.Reads (.between passed (w ++ (s ++ t))) read closed stop) :
    t.head? = some '=' := by
  cases h with
  | seq hlook hname =>
      cases hlook with
      | look _ =>
          obtain ⟨_, _, _, -, hsign, -⟩ := hname.split .asciiWord (by decide)
            (by decide) (by decide) hw.contains hw.not_contains
          obtain ⟨_, _, _, -, hsign, -⟩ := hsign.split .asciiSpace (by decide)
            (by decide) (by decide) hs ht
          obtain ⟨c, _, -, hrest, hc⟩ := hsign.exists_rest (by decide)
          rw [Cursor.rest_between] at hrest
          rw [hrest, List.mem_singleton.mp (oneOf_contains.mp hc)]
          rfl

theorem matchAt?_assigned (hw : WholeWord w (s ++ t)) (hs : Spaces s)
    (ht : ∀ c ∈ t.head?, CharSet.asciiSpace.contains c = false) (hsign : t.head? ≠ some '=') :
    Form.assigned.matchAt? (.between passed (w ++ (s ++ t))) = none :=
  Node.matchAt?_eq_none_of_not_reads fun _ _ _ h => hsign (head?_of_reads_assigned hw hs ht h)

/-- What may be left out is at most one character of a set. -/
theorem length_of_reads_optional {set : CharSet} {start : Cursor}
    (h : (Form.optional (.chars set)).Reads start read closed stop) : read.length ≤ 1 := by
  cases h with
  | done => simp
  | round _ hround hmore =>
      cases hround
      cases hmore with
      | done => simp
      | round hmay _ _ => simp at hmay

/-- A dotted name may have a blank before it, and has its dot after the name or after one blank. -/
theorem of_reads_dotted {i : Text} (hname : w.isIdentifier = true) (hw : WholeWord w (s ++ t))
    (hi : Spaces i) (hs : Spaces s)
    (ht : ∀ c ∈ t.head?, CharSet.asciiSpace.contains c = false)
    (h : Form.dotted.Reads (.between passed (i ++ (w ++ (s ++ t)))) read closed stop) :
    i.length ≤ 1 ∧ s.length ≤ 1 ∧ t.head? = some '.' := by
  obtain ⟨c, more, rfl, hc, -⟩ := exists_of_isIdentifier hname
  have hapart : Form.nameStart.Apart .asciiSpace := by decide
  cases h with
  | seq hlook hgroup =>
      cases hlook
      cases hgroup with
      | group h =>
          obtain ⟨_, _, _, hindent, h, -⟩ := h.split .asciiSpace
            (by decide) (by decide) (by decide) hi (by rintro _ ⟨⟩; exact hapart.contains hc)
          cases h with
          | seq hfirst h =>
              cases hfirst with
              | chars hrest hmem =>
                  obtain ⟨rfl, rfl⟩ := List.cons.inj hrest
                  rw [List.append_eq, List.cons_append, Cursor.pass_between] at h
                  obtain ⟨_, _, _, -, h, -⟩ := h.split .asciiWord (by decide)
                    (by decide) (by decide)
                    (fun e he => hw.contains e (List.mem_cons_of_mem _ he)) hw.not_contains
                  obtain ⟨_, _, _, hblank, h, -⟩ := h.split .asciiSpace (by decide)
                    (by decide) (by decide) hs ht
                  obtain ⟨e, _, -, hrest, he⟩ := h.exists_rest (by decide)
                  rw [Cursor.rest_between] at hrest
                  rw [hrest, List.mem_singleton.mp (oneOf_contains.mp he)]
                  exact ⟨length_of_reads_optional hindent, length_of_reads_optional hblank, rfl⟩

theorem matchAt?_dotted (hname : w.isIdentifier = true) (hw : WholeWord w (s ++ t))
    (hs : Spaces s) (ht : ∀ c ∈ t.head?, CharSet.asciiSpace.contains c = false)
    (hdot : t.head? ≠ some '.') :
    Form.dotted.matchAt? (.between passed (w ++ (s ++ t))) = none :=
  Node.matchAt?_eq_none_of_not_reads fun _ _ _ h =>
    hdot (of_reads_dotted hname hw spaces_nil hs ht h).2.2

/-- What is read in any case is the same text in another case. -/
theorem eqIgnoreCase_of_reads_anyCase {text : Text} {start : Cursor}
    (h : (Node.ofParts (Form.anyCase text)).Reads start read closed stop) :
    Text.eqIgnoreCase read text = true := by
  induction text generalizing start read closed with
  | nil =>
      cases h
      rfl
  | cons c text ih =>
      cases text with
      | nil =>
          cases h with
          | chars _ hmem => simp [Text.eqIgnoreCase, single_foldAscii_contains.mp hmem]
      | cons c' text =>
          cases h with
          | seq hfirst hrest =>
              cases hfirst with
              | chars _ hmem =>
                  have hmore := ih hrest
                  simp only [Text.eqIgnoreCase, beq_iff_eq] at hmore
                  simp [Text.eqIgnoreCase, single_foldAscii_contains.mp hmem, hmore]

theorem exists_of_reads_operators {words : List Text} {signs : Node} {start : Cursor}
    (h : (words.foldr (fun word rest => Node.alt (.ofParts (Form.anyCase (word ++ [' ']))) rest)
      signs).Reads start read closed stop) :
    (∃ word ∈ words, (Node.ofParts (Form.anyCase (word ++ [' ']))).Reads start read closed stop) ∨
      signs.Reads start read closed stop := by
  induction words with
  | nil => exact Or.inr h
  | cons word words ih =>
      cases h with
      | altFirst h => exact Or.inl ⟨word, List.mem_cons_self, h⟩
      | altSecond h =>
          rcases ih h with ⟨word', hmem, h⟩ | h
          · exact Or.inl ⟨word', List.mem_cons_of_mem _ hmem, h⟩
          · exact Or.inr h

/-- A name is an operator only if it is one of the words that are. -/
theorem not_reads_operator {tail : Text} (hname : IsName w) (hw : WholeWord w tail) :
    ¬ Form.operator.Reads (.between passed (w ++ tail)) read closed stop := by
  intro h
  obtain ⟨c, more, hcons, hc, -⟩ := exists_of_isIdentifier hname.identifier
  rcases exists_of_reads_operators h with ⟨operator, hmem, h⟩ | h
  · -- The text read is the operator and a blank, so the word before that blank is the operator.
    have hcase := eqIgnoreCase_of_reads_anyCase h
    rw [Text.eqIgnoreCase, beq_iff_eq, List.map_append] at hcase
    obtain ⟨letters, blank, rfl, hletters, hblank⟩ := List.map_eq_append_iff.mp hcase
    obtain ⟨e, rfl, he⟩ := List.map_eq_singleton_iff.mp hblank
    have hspace : e.toNat = 32 := by
      have hcode := congrArg Char.toNat he
      rw [toNat_toLower] at hcode
      have hlower : (' ').toLower.toNat = 32 := rfl
      split at hcode <;> omega
    have hchars : ∀ d ∈ letters, isWordChar d = true := by
      intro d hd
      have hmem' : d.toLower ∈ operator.map Char.toLower := by
        rw [← hletters]
        exact List.mem_map_of_mem hd
      exact isWordChar_of_toLower_mem_operator hmem hmem'
    have hsplit := h.passes.rest
    rw [Cursor.rest_between, List.append_assoc, List.singleton_append] at hsplit
    obtain ⟨rfl, -⟩ := run_unique hw.chars hchars hw.stop
      (by rintro _ ⟨⟩; rw [← Bool.not_eq_true, isWordChar_iff]; omega) hsplit
    have hnot := hname.noOperator operator hmem
    rw [Text.eqIgnoreCase, hletters] at hnot
    simp at hnot
  · obtain ⟨d, _, -, hrest, hd⟩ := h.exists_rest (by decide)
    rw [hcons] at hrest
    obtain ⟨rfl, -⟩ := List.cons.inj hrest
    have hapart : Form.nameStart.Apart Form.signs.starts := by decide
    rw [hapart.contains hc] at hd
    exact Bool.noConfusion hd

end Readings

/-! ### What the patterns match -/

section Leads

open Node

variable {passed w s tail rest : Text} {d : Char}

theorem leads_edge_start (hw : WholeWord w tail)
    (hbefore : ∀ c ∈ passed.getLast?, isWordChar c = false) :
    Form.edge.Leads (.between passed (w ++ tail)) [] (.between passed (w ++ tail)) := by
  apply Leads.look
  cases w with
  | nil => exact absurd rfl hw.ne_nil
  | cons c w =>
      have hbefore' : passed.getLast?.any CharSet.asciiWord.contains = false := by
        rw [Option.any_eq_false_iff_get]
        intro h
        rw [asciiWord_contains, hbefore _ (Option.get_mem h)]
      simp [Look.holds, WordEdge.holds, hbefore', hw.contains c List.mem_cons_self]

theorem leads_edge_stop (hw : WholeWord w tail) :
    Form.edge.Leads (.between (passed ++ w) tail) [] (.between (passed ++ w) tail) := by
  apply Leads.look
  have hlast : (passed ++ w).getLast?.any CharSet.asciiWord.contains = true := by
    rw [List.getLast?_append_of_ne_nil _ hw.ne_nil, List.getLast?_eq_some_getLast hw.ne_nil]
    exact hw.contains _ (List.getLast_mem hw.ne_nil)
  have hhead : tail.head?.any CharSet.asciiWord.contains = false := by
    rw [Option.any_eq_false_iff_get]
    intro h
    rw [hw.not_contains _ (Option.get_mem h)]
  simp only [Look.holds, WordEdge.holds, Cursor.before_between, Cursor.rest_between, if_false,
    Bool.false_eq_true, hlast, hhead]
  rfl

/-- Equality and the dot are read last of all operators, after those that are words. -/
theorem leads_operator_sign {c : Char} (hc : c ∈ ['=', '.']) :
    Form.operator.Leads (.between passed (c :: rest)) [] (.between (passed ++ [c]) rest) := by
  have hhead : ∀ d ∈ (Cursor.between passed (c :: rest)).rest.head?,
      (Form.oneOf ['=', '.']).contains d = true := by
    rintro _ ⟨⟩
    exact oneOf_contains.mpr hc
  have hsign : (CharSet.Within (Form.oneOf ['=', '.'])
      (Form.oneOf ['*', '/', '+', '-', '<', '>', '=', '.'])) := by decide
  have hlead : (Node.chars (Form.oneOf ['*', '/', '+', '-', '<', '>', '=', '.'])).Leads
      (.between passed (c :: rest)) [] (.between (passed ++ [c]) rest) :=
    Leads.chars passed (hsign.contains (oneOf_contains.mpr hc))
  iterate 8 refine .altSecond_of_apart _ hhead (by decide) (by decide) ?_
  exact hlead

/-- A word that stands alone is matched whole. -/
theorem leads_word (hw : WholeWord w tail)
    (hbefore : ∀ c ∈ passed.getLast?, isWordChar c = false) :
    Form.word.Leads (.between passed (w ++ tail)) [] (.between (passed ++ w) tail) :=
  (leads_edge_start hw hbefore).seq
    ((Leads.many_succ passed hw.contains hw.ne_nil hw.not_contains).seq (leads_edge_stop hw))

/-- Digits that stand alone are matched whole, if no decimals follow. -/
theorem leads_number (hw : WholeWord w tail) (hdigits : ∀ c ∈ w, c.isDigit = true)
    (hdot : tail.head? ≠ some '.') :
    Form.number.Leads (.between passed (w ++ tail)) [] (.between (passed ++ w) tail) := by
  have hdigit : ∀ d ∈ w, CharSet.asciiDigit.contains d = true :=
    fun d hd => asciiDigit_contains (hdigits d hd)
  have hstop : ∀ set : CharSet, set.Within .asciiWord → ∀ d ∈ tail.head?, set.contains d = false :=
    fun set hset d hd => hset.not_contains (hw.not_contains d hd)
  have hsign : ∀ d ∈ (w ++ tail).head?, (Form.oneOf ['+', '-']).contains d = false := by
    cases w with
    | nil => exact absurd rfl hw.ne_nil
    | cons c w =>
        have hapart : CharSet.asciiDigit.Apart (Form.oneOf ['+', '-']) := by decide
        rintro _ ⟨⟩
        exact hapart.contains (hdigit c List.mem_cons_self)
  have hdecimals : ∀ d ∈ tail.head?, (Form.oneOf ['.']).contains d = false := by
    intro d hd
    rw [← Bool.not_eq_true, oneOf_contains, List.mem_singleton]
    rintro rfl
    exact hdot hd
  exact (Leads.optional_of_starts (by decide) hsign).seq
    ((Leads.many_succ passed hdigit hw.ne_nil (hstop _ (by decide))).seq
      ((Leads.optional_of_starts (by decide) hdecimals).seq
        ((Leads.optional_of_starts (by decide) (hstop (Form.oneOf ['e', 'E']) (by decide))).seq
          (leads_edge_stop hw))))

/-- A name is matched up to what follows it. -/
theorem leads_name (passed : Text) (hname : w.isIdentifier = true) (hw : WholeWord w tail) :
    Form.name.Leads (.between passed (w ++ tail)) [] (.between (passed ++ w) tail) := by
  obtain ⟨c, more, rfl, hc, hmore⟩ := exists_of_isIdentifier hname
  have htail : ∀ d ∈ tail.head?, Form.nameRest.contains d = false := by
    intro d hd
    rw [nameRest_contains, hw.stop d hd]
  have hlead := (Leads.chars passed hc).seq (Leads.many (passed ++ [c]) hmore htail)
  rwa [List.append_assoc, List.singleton_append] at hlead

/-- What the blanks after the name of an assignment are remembered as: nothing where there are
none. -/
def blankGroup (passed blanks rest : Text) : Captures :=
  if blanks = [] then [] else [(2, .across passed blanks rest)]

/-- A name, blanks and the sign make an assignment at the start of a line. -/
theorem leads_assigned (rest : Text) (hname : w.isIdentifier = true) (hs : Spaces s)
    (hw : WholeWord w (s ++ '=' :: rest)) :
    Form.assigned.Leads (.between [] (w ++ (s ++ '=' :: rest)))
      ((3, .across (w ++ s) ['='] rest) :: blankGroup w s ('=' :: rest) ++
        [(1, .across [] w (s ++ '=' :: rest))])
      (.between (w ++ s ++ ['=']) rest) := by
  have hblanks : (Form.optional (.group 2 (Form.run .asciiSpace))).Leads
      (.between w (s ++ '=' :: rest)) (blankGroup w s ('=' :: rest))
      (.between (w ++ s) ('=' :: rest)) := by
    by_cases hempty : s = []
    · subst hempty
      rw [List.append_nil, blankGroup, if_pos rfl]
      exact Leads.optional_of_starts (by decide) (by rintro _ ⟨⟩; decide)
    · rw [blankGroup, if_neg hempty]
      exact (Leads.many_succ w hs hempty (by rintro _ ⟨⟩; decide)).group.optional
  have hsign : (Node.chars (Form.oneOf ['='])).Leads (.between (w ++ s) ('=' :: rest)) []
      (.between (w ++ s ++ ['=']) rest) := Leads.chars _ (by decide)
  have hlook : (Node.look .textStart).Leads (.between [] (w ++ (s ++ '=' :: rest))) []
      (.between [] (w ++ (s ++ '=' :: rest))) := Leads.look rfl
  have hlead : Form.assigned.Leads (.between [] (w ++ (s ++ '=' :: rest)))
      ((([(3, ⟨.between (w ++ s) ('=' :: rest), .between (w ++ s ++ ['=']) rest⟩)] ++
          blankGroup w s ('=' :: rest)) ++
        [(1, ⟨.between [] (w ++ (s ++ '=' :: rest)), .between w (s ++ '=' :: rest)⟩)]) ++ [])
      (.between (w ++ s ++ ['=']) rest) :=
    hlook.seq ((leads_name [] hname hw).group.seq (hblanks.seq hsign.group))
  simpa [Span.across] using hlead

/-- One blank at most. -/
theorem leads_blank (passed tail : Text) (hs : Spaces s) (hone : s.length ≤ 1)
    (htail : ∀ c ∈ tail.head?, CharSet.asciiSpace.contains c = false) :
    (Form.optional (.chars .asciiSpace)).Leads (.between passed (s ++ tail)) []
      (.between (passed ++ s) tail) := by
  cases s with
  | nil =>
      rw [List.append_nil]
      exact Leads.optional_of_starts (by decide) htail
  | cons b s =>
      obtain rfl : s = [] := List.length_eq_zero_iff.mp (by simpa using hone)
      exact (Leads.chars passed (hs b List.mem_cons_self)).optional

/-- A name and a dot, with at most one blank before and after the name, are read together at the
start of a line. -/
theorem leads_dotted {i : Text} (hname : w.isIdentifier = true) (hi : Spaces i)
    (hione : i.length ≤ 1) (hs : Spaces s) (hsone : s.length ≤ 1)
    (hw : WholeWord w (s ++ '.' :: rest)) :
    Form.dotted.Leads (.between [] ((i ++ w ++ s ++ ['.']) ++ rest))
      [(1, .across [] (i ++ w ++ s ++ ['.']) rest)] (.between (i ++ w ++ s ++ ['.']) rest) := by
  obtain ⟨c, more, rfl, hc, hmore⟩ := exists_of_isIdentifier hname
  have hapart : Form.nameStart.Apart .asciiSpace := by decide
  have hstop : ∀ d ∈ (s ++ '.' :: rest).head?, Form.nameRest.contains d = false := by
    intro d hd
    rw [nameRest_contains, hw.stop d hd]
  have hindent := leads_blank [] (c :: (more ++ (s ++ '.' :: rest))) hi hione
    (by rintro _ ⟨⟩; exact hapart.contains hc)
  have hblank := leads_blank (i ++ [c] ++ more) ('.' :: rest) hs hsone
    (by rintro _ ⟨⟩; decide)
  have hdot : (Node.chars (Form.oneOf ['.'])).Leads (.between (i ++ [c] ++ more ++ s) ('.' :: rest))
      [] (.between (i ++ [c] ++ more ++ s ++ ['.']) rest) := Leads.chars _ (by decide)
  have hlook : (Node.look .textStart).Leads
      (.between [] (i ++ c :: (more ++ (s ++ '.' :: rest)))) []
      (.between [] (i ++ c :: (more ++ (s ++ '.' :: rest)))) := Leads.look rfl
  have hlead : Form.dotted.Leads (.between [] (i ++ c :: (more ++ (s ++ '.' :: rest))))
      [(1, ⟨.between [] (i ++ c :: (more ++ (s ++ '.' :: rest))),
        .between (i ++ [c] ++ more ++ s ++ ['.']) rest⟩)]
      (.between (i ++ [c] ++ more ++ s ++ ['.']) rest) :=
    hlook.seq (hindent.seq ((Leads.chars i hc).seq
      ((Leads.many (i ++ [c]) hmore hstop).seq (hblank.seq hdot)))).group
  simpa [Span.across] using hlead

end Leads

/-! ### Headers -/

section Headers

variable {passed w tail rest : Text} {b d : Char}

/-- The patterns that begin with a word of their own and blanks. -/
def headers : List Node :=
  [Form.procedureStart, Form.loopStart, Form.loopStop] ++ [Form.procedureStop]

/-- Each of them has the shape of a header. -/
theorem exists_of_mem_headers : ∀ node ∈ headers, ∃ keyword next,
    node = Form.headed keyword next ∧ (∀ set ∈ keyword.sets, set.Within .asciiWord) ∧
      (Node.seq (.group 2 (Form.run .asciiSpace)) next).mayBeEmpty = false := by
  simp only [headers, List.cons_append, List.nil_append, List.forall_mem_cons, List.not_mem_nil,
    false_imp_iff, implies_true, and_true]
  exact ⟨⟨_, _, rfl, by decide, by decide⟩, ⟨_, _, rfl, by decide, by decide⟩,
    ⟨_, _, rfl, by decide, by decide⟩, ⟨_, _, rfl, by decide, by decide⟩⟩

/-- No header matches a word that no blank follows. -/
theorem headers_of_no_blank (hw : WholeWord w tail)
    (htail : ∀ c ∈ tail.head?, CharSet.asciiSpace.contains c = false) :
    ∀ node ∈ headers, node.matchAt? (.between passed (w ++ tail)) = none := by
  intro node hnode
  obtain ⟨keyword, next, rfl, hkeyword, hnext⟩ := exists_of_mem_headers node hnode
  exact Node.matchAt?_eq_none_of_not_reads fun _ _ _ => not_reads_headed hw htail hkeyword hnext

/-- The letters with which headers begin. -/
def headerInitials : CharSet := Form.oneOf ['D', 'd', 'R', 'r', 'F', 'f']

/-- No header matches before a character that begins none of their words. -/
theorem headers_of_initial {cur : Cursor}
    (hcur : ∀ c ∈ cur.rest.head?, headerInitials.contains c = false) :
    ∀ node ∈ headers, node.matchAt? cur = none := by
  have hstarts : ∀ node ∈ headers, node.mayBeEmpty = false ∧ node.starts.Within headerInitials := by
    decide
  intro node hnode
  obtain ⟨hne, hwithin⟩ := hstarts node hnode
  exact Node.matchAt?_eq_none_of_starts hne fun c hc => hwithin.not_contains (hcur c hc)

/-- The word and the blank after it are the end of a procedure, and no other header. -/
structure EndsProcedure (passed w : Text) (b : Char) (rest : Text) : Prop where
  others : ∀ node ∈ [Form.procedureStart, Form.loopStart, Form.loopStop],
    node.matchAt? (.between passed (w ++ b :: rest)) = none
  found : Form.procedureStop.matchAt? (.between passed (w ++ b :: rest)) =
    some ⟨.between (passed ++ w ++ [b]) rest,
      [(2, .across (passed ++ w) [b] rest), (1, .across passed w (b :: rest))]⟩

/-- Before a blank and a character that neither continues a name nor ends a loop, only the end of a
procedure can match. -/
theorem headers_of_blank (passed : Text) (hw : WholeWord w (b :: d :: rest))
    (hd : CharSet.asciiSpace.contains d = false) (hname : Form.nameStart.contains d = false)
    (hsemicolon : d ≠ ';') :
    (∀ node ∈ headers, node.matchAt? (.between passed (w ++ b :: d :: rest)) = none) ∨
      EndsProcedure passed w b (d :: rest) := by
  -- What a header goes on with after the blank would have to begin with `d`.
  have hnone : ∀ keyword next : Node, (∀ set ∈ keyword.sets, set.Within .asciiWord) →
      (Node.seq (.group 2 (Form.run .asciiSpace)) next).mayBeEmpty = false →
      next.mayBeEmpty = false → next.starts.contains d = false →
      (Form.headed keyword next).matchAt? (.between passed (w ++ b :: d :: rest)) = none := by
    intro keyword next hkeyword hnext hne hstarts
    apply Node.matchAt?_eq_none_of_not_reads
    intro read closed stop h
    obtain ⟨_, _, _, -, hmore, -⟩ := reads_headed hw hd hkeyword hnext h
    exact Node.not_reads_of_starts hne (by rintro _ ⟨⟩; exact hstarts) hmore
  have hsign : (Form.oneOf [';']).contains d = false := by
    rw [← Bool.not_eq_true, oneOf_contains, List.mem_singleton]
    exact hsemicolon
  have hothers : ∀ node ∈ [Form.procedureStart, Form.loopStart, Form.loopStop],
      node.matchAt? (.between passed (w ++ b :: d :: rest)) = none := by
    simp only [List.forall_mem_cons, List.not_mem_nil, false_imp_iff, implies_true, and_true]
    refine ⟨hnone _ _ (by decide) (by decide) (by decide) hname,
      hnone _ _ (by decide) (by decide) (by decide) ?_,
      hnone _ _ (by decide) (by decide) (by decide) ?_⟩
    · show (Form.nameStart.union .asciiSpace).contains d = false
      rw [CharSet.contains_union, hname, hd, Bool.or_self]
    · show (Form.nameStart.union (Form.oneOf [';'])).contains d = false
      rw [CharSet.contains_union, hname, hsign, Bool.or_self]
  cases hmatch : Form.procedureStop.matchAt? (.between passed (w ++ b :: d :: rest)) with
  | none =>
      refine Or.inl fun node hnode => ?_
      rcases List.mem_append.mp hnode with hnode | hnode
      · exact hothers node hnode
      · rw [List.mem_singleton.mp hnode, hmatch]
  | some found =>
      obtain ⟨stop, closed⟩ := found
      obtain ⟨read, hread⟩ := Node.matchAt?_reads hmatch
      obtain ⟨_, _, _, hkeyword, hoptional, rfl⟩ :=
        reads_headed hw hd (by decide) (by decide) hread
      obtain rfl := hkeyword.closed_eq_nil rfl
      cases hoptional with
      | done => exact Or.inr ⟨hothers, hmatch⟩
      | round _ hround _ =>
          exact absurd hround (Node.not_reads_of_starts (by decide) (by rintro _ ⟨⟩; exact hname))

end Headers

end Gibiane

end LineLexer
