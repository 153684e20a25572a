/-
What a keyword table completes.

A table that was built knows each listed word under its folded form, and that form is its
own folded form (`fold_fold`).  So the words it offers for a beginning are listed, they are
looked up under the category they are offered with, and since the map behind the table is
ordered by characters they come in the order of their bytes, each once.
-/
import LineLexer.Proofs.Keyword.Conflicts
import LineLexer.Proofs.Text.Bytes
import LineLexer.Proofs.Text.Uppercase

namespace LineLexer.KeywordTable

variable {table : KeywordTable} {listed : List (Category × Text)} {category : Category}
  {beginning word key : Text}

theorem fold_fold (word : Text) : fold (fold word) = fold word := word.toUppercase_toUppercase

/-- A word of the table is offered for every beginning it has. -/
theorem mem_completions_iff :
    (word, category) ∈ table.completions beginning ↔
      table.entries[word]? = some category ∧ fold beginning <+: word := by
  rw [completions, List.mem_filter, Std.TreeMap.mem_toList_iff_getElem?_eq_some]
  exact and_congr_right fun _ => List.isPrefixOf_iff_prefix

/-- What the table offers was listed. -/
theorem Knows.mem_completions_iff (h : table.Knows listed) :
    (word, category) ∈ table.completions beginning ↔
      (∃ spelling, (category, spelling) ∈ listed ∧ fold spelling = word) ∧
        fold beginning <+: word := by
  rw [KeywordTable.mem_completions_iff, h word category]

/-- A word that is offered is looked up under its category. -/
theorem Knows.classify_of_mem_completions (h : table.Knows listed)
    (hmem : (word, category) ∈ table.completions beginning) :
    table.classify word = some category := by
  obtain ⟨⟨spelling, hspelling, rfl⟩, -⟩ := h.mem_completions_iff.mp hmem
  rw [classify, fold_fold]
  exact (h (fold spelling) category).mpr ⟨spelling, hspelling, rfl⟩

theorem pairwise_completions (table : KeywordTable) (beginning : Text) :
    (table.completions beginning).Pairwise fun a b => a.1.bytes < b.1.bytes := by
  refine List.Pairwise.filter _ ?_
  exact Std.TreeMap.ordered_keys_toList.imp fun hlt => Text.bytes_lt_of_compare hlt

theorem completions_nil (table : KeywordTable) : table.completions [] = table.entries.toList :=
  List.filter_eq_self.mpr fun _ _ => rfl

/-- What the table of some texts offers for the beginning of a word. -/
structure CompletesFrom (table : KeywordTable) (lists : List (Category × Text)) : Prop where
  /-- They come in the order of their bytes. -/
  ascending : ∀ beginning,
    (table.completions beginning).Pairwise fun a b => a.1.bytes < b.1.bytes
  nodup : ∀ beginning, ((table.completions beginning).map Prod.fst).Nodup
  /-- They are the folded words of the lists that have the folded beginning. -/
  mem_iff : ∀ beginning word category, (word, category) ∈ table.completions beginning ↔
    (∃ listed, (category, listed) ∈ occurrencesIn lists ∧ fold listed = word) ∧
      fold beginning <+: word
  /-- Looking for the bytes of the beginning finds the same. -/
  bytes : ∀ beginning, table.completions beginning =
    table.entries.toList.filter fun (word, _) => (fold beginning).bytes.isPrefixOf word.bytes
  classify : ∀ beginning, ∀ entry ∈ table.completions beginning,
    table.classify entry.1 = some entry.2
  /-- The empty beginning is that of every word. -/
  all : (table.completions []).length = table.size

/-- **Completions are exactly the keywords with a beginning**, sorted and each once. -/
theorem completesFrom_of_ofTexts {lists : List (Category × Text)} (h : ofTexts lists = .ok table) :
    table.CompletesFrom lists := by
  have hknows : table.Knows (occurrencesIn lists) := knows_of_ofWords h
  have hascending := table.pairwise_completions
  refine ⟨hascending, ?_, fun _ _ _ => hknows.mem_completions_iff, ?_, ?_, ?_⟩
  · intro beginning
    rw [List.Nodup, List.pairwise_map]
    refine (hascending beginning).imp fun {a b} hlt heq => ?_
    rw [heq] at hlt
    exact List.lt_irrefl _ hlt
  · intro beginning
    refine List.filter_congr fun entry _ => ?_
    rw [Bool.eq_iff_iff, List.isPrefixOf_iff_prefix, List.isPrefixOf_iff_prefix,
      Text.isPrefix_bytes_iff]
  · intro beginning entry hentry
    exact hknows.classify_of_mem_completions hentry
  · rw [completions_nil, Std.TreeMap.length_toList]
    rfl

/-- Words and a beginning that are longer in uppercase. -/
theorem completesFrom_strasse :
    ∃ table, ofTexts [(.controlKeyword, "si straße sinon".toList),
        (.builtinFunction, "straßen SINH".toList)] = .ok table ∧
      table.completions "Straß".toList =
        [("STRASSE".toList, .controlKeyword), ("STRASSEN".toList, .builtinFunction)] ∧
      table.CompletesFrom [(.controlKeyword, "si straße sinon".toList),
        (.builtinFunction, "straßen SINH".toList)] := by
  obtain ⟨table, htable, hfound⟩ :
      ∃ table, ofTexts [(.controlKeyword, "si straße sinon".toList),
          (.builtinFunction, "straßen SINH".toList)] = .ok table ∧
        table.completions "Straß".toList =
          [("STRASSE".toList, .controlKeyword), ("STRASSEN".toList, .builtinFunction)] :=
    exists_of_any_decide (by decide +kernel)
  exact ⟨table, htable, hfound, completesFrom_of_ofTexts htable⟩

end LineLexer.KeywordTable
