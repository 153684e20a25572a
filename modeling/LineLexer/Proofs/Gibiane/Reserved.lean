/-
Words that rules look for themselves.

The headers of procedures and loops begin with words of their own, and some operators are
words.  The keyword table lists all of them, and it minds case as little as the rules do, so
what a rule takes for such a word the table knows as well (`classify_of_reads_controlWord`).
A name that the table does not know is therefore none of them: it is no operator, and no
header begins with it, whatever follows (`headers_of_unknown`).

There is always such a name to be had: every word of the language begins with a capital
letter, so the table knows no name with an underscore in front (`classify_underscore`).
-/
import LineLexer.Proofs.Gibiane.Matches
import LineLexer.Proofs.Text.Bytes
import LineLexer.Proofs.Text.Case

namespace LineLexer.Gibiane

/-- The words of control flow that rules look for. -/
def reservedControl : List String := ["REPE", "FIN", "FINP", "FINM", "DEBM"]

/-- The built-ins that rules look for. -/
def reservedBuiltins : List String := ["DEBP", "ET", "OU", "EGA", "NEG", "NON"]

/-- The words that rules look for, each with the category under which it is listed. -/
def reservedWords : List (Category × Text) :=
  reservedControl.map (fun word => (.controlKeyword, word.toList)) ++
    reservedBuiltins.map fun word => (.builtinFunction, word.toList)

theorem mem_control : ∀ word ∈ reservedControl, word ∈ control := by
  simp [reservedControl, control]

theorem mem_builtins : ∀ word ∈ reservedBuiltins, word ∈ builtins := by
  intro word hword
  have hinitial : word ∈ builtinsD ∨ word ∈ builtinsE ∨ word ∈ builtinsN ∨ word ∈ builtinsO := by
    revert word
    simp [reservedBuiltins, builtinsD, builtinsE, builtinsN, builtinsO]
  unfold builtins
  simp only [List.mem_append]
  rcases hinitial with h | h | h | h <;> simp only [h, true_or, or_true]

theorem reservedWords_listed :
    ∀ entry ∈ reservedWords, entry ∈ KeywordTable.occurrences keywordLists := by
  intro entry hentry
  rw [KeywordTable.occurrences, List.mem_flatMap]
  rcases List.mem_append.mp hentry with hentry | hentry
  · obtain ⟨word, hword, rfl⟩ := List.mem_map.mp hentry
    exact ⟨(.controlKeyword, control.map String.toList), by simp [keywordLists],
      List.mem_map_of_mem (List.mem_map_of_mem (mem_control word hword))⟩
  · obtain ⟨word, hword, rfl⟩ := List.mem_map.mp hentry
    exact ⟨(.builtinFunction, builtins.map String.toList), by simp [keywordLists],
      List.mem_map_of_mem (List.mem_map_of_mem (mem_builtins word hword))⟩

/-! ### What the table knows -/

variable {keywords : KeywordTable} {category : Category} {word w read : Text}

/-- The table minds no case. -/
theorem classify_of_eqIgnoreCase (keywords : KeywordTable) (h : Text.eqIgnoreCase w word = true) :
    keywords.classify w = keywords.classify word := by
  have hfold : KeywordTable.fold w = KeywordTable.fold word :=
    (Text.sameLetters_iff.mpr h).toUppercase
  rw [KeywordTable.classify, KeywordTable.classify, hfold]

section Known

variable (hkeywords : KeywordTable.ofWords keywordLists = .ok keywords)

include hkeywords

/-- The table knows the words that rules look for. -/
theorem classify_of_reserved (h : (category, word) ∈ reservedWords)
    (hcase : Text.eqIgnoreCase w word = true) : keywords.classify w = some category := by
  rw [classify_of_eqIgnoreCase keywords hcase, KeywordTable.classify_eq_some_iff hkeywords]
  exact ⟨word, reservedWords_listed _ h, rfl⟩

/-- A name that the table does not know is no operator. -/
theorem isName_of_unknown (hname : w.isIdentifier = true) (hunknown : keywords.classify w = none) :
    IsName w := by
  have hreserved : ∀ operator ∈ Form.wordOperators,
      (Category.builtinFunction, operator) ∈ reservedWords := by decide
  refine ⟨hname, ?_⟩
  intro operator hmem
  by_contra hcase
  rw [classify_of_reserved hkeywords (hreserved operator hmem) (by simpa using hcase)] at hunknown
  exact absurd hunknown (by simp)

end Known

/-! ### Names the table does not know -/

/-- The first byte of the word is that of a capital letter. -/
def beginsCapital (word : String) : Bool :=
  word.toByteArray.data.toList.head?.any fun b => 65 ≤ b && b ≤ 90

-- Bytes are checked because the kernel has them at hand; decoding every word takes far longer.
theorem beginsCapital_of_listed :
    ∀ word ∈ constants ++ storageTypes ++ control ++ builtins, beginsCapital word = true := by
  decide +kernel

theorem bytes_toList (word : String) : Text.bytes word.toList = word.toByteArray.data.toList := by
  rw [← String.utf8Encode_toList, List.utf8Encode, List.data_toByteArray]
  rfl

/-- A word with the byte of a capital letter in front has that letter in front. -/
theorem head?_of_beginsCapital {word : String} (h : beginsCapital word = true) :
    ∃ i < 26, word.toList.head? = some (Char.ofNat (65 + i)) := by
  rw [beginsCapital, ← bytes_toList, Option.any_eq_true] at h
  obtain ⟨b, hb, hcapital⟩ := h
  have hrange : 65 ≤ b.toNat ∧ b.toNat ≤ 90 := by
    simpa [UInt8.le_iff_toNat_le] using hcapital
  have hbytes : ∀ i < 26, Text.bytes [Char.ofNat (65 + i)] = [UInt8.ofNat (65 + i)] := by decide
  refine ⟨b.toNat - 65, by omega, ?_⟩
  have hprefix : Text.bytes [Char.ofNat (65 + (b.toNat - 65))] <+: Text.bytes word.toList := by
    rw [hbytes _ (by omega), Nat.add_sub_cancel' hrange.1, UInt8.ofNat_toNat]
    obtain ⟨more, hmore⟩ := List.head?_eq_some_iff.mp hb
    rw [hmore]
    exact ⟨more, rfl⟩
  obtain ⟨rest, hrest⟩ := Text.isPrefix_bytes_iff.mp hprefix
  rw [← hrest]
  rfl

/-- Every entry of the lists is one of the words. -/
theorem exists_word_of_listed {entry : Category × Text}
    (h : entry ∈ KeywordTable.occurrences keywordLists) :
    ∃ word ∈ constants ++ storageTypes ++ control ++ builtins, entry.2 = word.toList := by
  obtain ⟨⟨category, words⟩, hlist, hentry⟩ := List.mem_flatMap.mp h
  obtain ⟨text, htext, rfl⟩ := List.mem_map.mp hentry
  simp only [keywordLists, List.mem_cons, Prod.mk.injEq, List.not_mem_nil, or_false] at hlist
  rcases hlist with ⟨-, rfl⟩ | ⟨-, rfl⟩ | ⟨-, rfl⟩ | ⟨-, rfl⟩
  all_goals
    obtain ⟨word, hword, rfl⟩ := List.mem_map.mp htext
    exact ⟨word, by simp only [List.mem_append, hword, true_or, or_true], rfl⟩

/-- **The table knows no name with an underscore in front.** -/
theorem classify_underscore (hkeywords : KeywordTable.ofWords keywordLists = .ok keywords)
    (w : Text) : keywords.classify ('_' :: w) = none := by
  have hcapital : ∀ i < 26, Unicode.uppercase (Char.ofNat (65 + i)) = [Char.ofNat (65 + i)] ∧
      Char.ofNat (65 + i) ≠ '_' := by decide
  have hunderscore : Unicode.uppercase '_' = ['_'] := by decide
  rw [Option.eq_none_iff_forall_ne_some]
  intro category hclassify
  obtain ⟨listed, hlisted, hfold⟩ := (KeywordTable.classify_eq_some_iff hkeywords).mp hclassify
  obtain ⟨word, hword, rfl⟩ := exists_word_of_listed hlisted
  obtain ⟨i, hi, hhead⟩ := head?_of_beginsCapital (beginsCapital_of_listed word hword)
  obtain ⟨rest, hrest⟩ := List.head?_eq_some_iff.mp hhead
  obtain ⟨hupper, hne⟩ := hcapital i hi
  rw [hrest, KeywordTable.fold, KeywordTable.fold, Text.toUppercase, Text.toUppercase,
    List.flatMap_cons, List.flatMap_cons, hupper, hunderscore] at hfold
  exact hne (List.cons.inj hfold).1

/-! ### What the rules look for -/

section Rules

variable {start stop : Cursor} {closed : Captures} {keyword next : Node} {passed tail : Text}

theorem eqIgnoreCase_cons {c d : Char} {s t : Text} (hc : d.toLower = c.toLower)
    (h : Text.eqIgnoreCase s t = true) : Text.eqIgnoreCase (d :: s) (c :: t) = true := by
  unfold Text.eqIgnoreCase at h ⊢
  rw [List.map_cons, List.map_cons, hc, beq_iff_eq.mp h]
  exact beq_self_eq_true _

/-- What is read of a word with P or M at its end is the word with one of them, in any case. -/
theorem eqIgnoreCase_of_reads_procedureOrMethod {text : Text}
    (h : (Node.ofParts (Form.anyCase text ++ [.chars Form.procedureOrMethod])).Reads start read
      closed stop) :
    Text.eqIgnoreCase read (text ++ ['P']) = true ∨
      Text.eqIgnoreCase read (text ++ ['M']) = true := by
  induction text generalizing start read closed with
  | nil =>
      cases h with
      | @chars _ _ d _ _ hmem =>
          have hnil : Text.eqIgnoreCase [] [] = true := rfl
          rw [Form.procedureOrMethod, CharSet.contains_union, Bool.or_eq_true] at hmem
          rcases hmem with hmem | hmem
          · exact Or.inl (eqIgnoreCase_cons (single_foldAscii_contains.mp hmem) hnil)
          · exact Or.inr (eqIgnoreCase_cons (single_foldAscii_contains.mp hmem) hnil)
  | cons c text ih =>
      have hsplit : Node.ofParts (Form.anyCase (c :: text) ++ [.chars Form.procedureOrMethod]) =
          .seq (.chars (CharSet.single c).foldAscii)
            (Node.ofParts (Form.anyCase text ++ [.chars Form.procedureOrMethod])) := by
        cases text <;> rfl
      rw [hsplit] at h
      cases h with
      | seq hfirst hrest =>
          cases hfirst with
          | chars _ hmem =>
              rcases ih hrest with hmore | hmore
              · exact Or.inl (eqIgnoreCase_cons (single_foldAscii_contains.mp hmem) hmore)
              · exact Or.inr (eqIgnoreCase_cons (single_foldAscii_contains.mp hmem) hmore)

/-- The words with which loops begin and with which loops and procedures end. -/
def controlWords : List Node :=
  [.ofParts (Form.anyCase ['R', 'E', 'P', 'E']), .ofParts (Form.anyCase ['F', 'I', 'N']),
    .ofParts (Form.anyCase ['F', 'I', 'N'] ++ [.chars Form.procedureOrMethod])]

/-- The word with which a procedure or a method begins. -/
def procedureWord : Node :=
  .ofParts (Form.anyCase ['D', 'E', 'B'] ++ [.chars Form.procedureOrMethod])

section Known

variable (hkeywords : KeywordTable.ofWords keywordLists = .ok keywords)

include hkeywords

/-- **What a rule takes for a word of control flow, the table takes for one.** -/
theorem classify_of_reads_controlWord (hkeyword : keyword ∈ controlWords)
    (h : keyword.Reads start read closed stop) :
    keywords.classify read = some .controlKeyword := by
  simp only [controlWords, List.mem_cons, List.not_mem_nil, or_false] at hkeyword
  rcases hkeyword with hkeyword | hkeyword | hkeyword
  · rw [hkeyword] at h
    exact classify_of_reserved hkeywords (by decide) (eqIgnoreCase_of_reads_anyCase h)
  · rw [hkeyword] at h
    exact classify_of_reserved hkeywords (by decide) (eqIgnoreCase_of_reads_anyCase h)
  · rw [hkeyword] at h
    rcases eqIgnoreCase_of_reads_procedureOrMethod h with hcase | hcase
    · exact classify_of_reserved hkeywords (by decide) hcase
    · exact classify_of_reserved hkeywords (by decide) hcase

theorem classify_of_reads_procedureWord (h : procedureWord.Reads start read closed stop) :
    keywords.classify read ≠ none := by
  rcases eqIgnoreCase_of_reads_procedureOrMethod h with hcase | hcase
  · have hprocedure : keywords.classify read = some .builtinFunction :=
      classify_of_reserved hkeywords (by decide) hcase
    rw [hprocedure]
    exact Option.some_ne_none _
  · have hmethod : keywords.classify read = some .controlKeyword :=
      classify_of_reserved hkeywords (by decide) hcase
    rw [hmethod]
    exact Option.some_ne_none _

/-- **No header begins with a name that the table does not know**, whatever follows. -/
theorem headers_of_unknown (hw : WholeWord w tail) (hunknown : keywords.classify w = none) :
    ∀ node ∈ headers, node.matchAt? (.between passed (w ++ tail)) = none := by
  have hnone : ∀ {keyword next : Node}, (∀ set ∈ keyword.sets, set.Within .asciiWord) →
      (Node.seq (.group 2 (Form.run .asciiSpace)) next).mayBeEmpty = false →
      (∀ {start stop closed}, keyword.Reads start w closed stop → keywords.classify w ≠ none) →
      (Form.headed keyword next).matchAt? (.between passed (w ++ tail)) = none := by
    intro keyword next hsets hnext hknown
    apply Node.matchAt?_eq_none_of_not_reads
    intro read closed stop h
    obtain ⟨_, _, _, hgroup, -, -⟩ := h.split .asciiWord hsets hnext
      (show CharSet.asciiSpace.Apart .asciiWord by decide) hw.contains hw.not_contains
    cases hgroup with
    | group hkeyword => exact hknown hkeyword hunknown
  have hcontrol : ∀ {keyword}, keyword ∈ controlWords → ∀ {start stop closed},
      keyword.Reads start w closed stop → keywords.classify w ≠ none := by
    intro keyword hkeyword start stop closed h
    rw [classify_of_reads_controlWord hkeywords hkeyword h]
    exact Option.some_ne_none _
  simp only [headers, List.cons_append, List.nil_append, List.forall_mem_cons, List.not_mem_nil,
    false_imp_iff, implies_true, and_true]
  refine ⟨?_, ?_, ?_, ?_⟩
  · exact hnone (by decide) (by decide) (classify_of_reads_procedureWord hkeywords)
  · exact hnone (by decide) (by decide) (hcontrol (by simp [controlWords]))
  · exact hnone (by decide) (by decide) (hcontrol (by simp [controlWords]))
  · exact hnone (by decide) (by decide) (hcontrol (by simp [controlWords]))

end Known

end Rules

end LineLexer.Gibiane
