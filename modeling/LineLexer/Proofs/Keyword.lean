/-
What a keyword table knows.

A table is built word by word, and a word that stands in it already is only accepted under
its own category.  So a table that was built knows exactly the words that were listed:
`Knows` says so of the words added so far, and every insertion that succeeds keeps it.
-/
import LineLexer.Keyword
import LineLexer.Proofs.Table.Accepted

namespace LineLexer.KeywordTable

/-- The words of some lists, each with the category of its list. -/
def occurrences (lists : List (Category × List Text)) : List (Category × Text) :=
  lists.flatMap fun (category, words) => words.map (category, ·)

/-- The table gives a key the category under which some word with that key was listed. -/
def Knows (table : KeywordTable) (listed : List (Category × Text)) : Prop :=
  ∀ key category,
    table.entries[key]? = some category ↔ ∃ word, (category, word) ∈ listed ∧ fold word = key

variable {table table' : KeywordTable} {listed more : List (Category × Text)}

theorem knows_empty : empty.Knows [] := by
  intro key category
  simp [empty]

/-- Adding a word adds what the table knows by it, and changes nothing else. -/
theorem Knows.insert (h : table.Knows listed) {category : Category} {word : Text}
    (hinsert : table.insert category word = .ok table') :
    table'.Knows (listed ++ [(category, word)]) := by
  intro key category'
  have hlisted : (∃ word', (category', word') ∈ listed ++ [(category, word)] ∧ fold word' = key) ↔
      table.entries[key]? = some category' ∨ (category' = category ∧ fold word = key) := by
    rw [h key category']
    constructor
    · rintro ⟨word', hmem, hkey⟩
      rcases List.mem_append.mp hmem with hmem | hmem
      · exact Or.inl ⟨word', hmem, hkey⟩
      · obtain ⟨rfl, rfl⟩ := Prod.mk.inj (List.mem_singleton.mp hmem)
        exact Or.inr ⟨rfl, hkey⟩
    · rintro (⟨word', hmem, hkey⟩ | ⟨rfl, hkey⟩)
      · exact ⟨word', List.mem_append_left _ hmem, hkey⟩
      · exact ⟨word, by simp, hkey⟩
  rw [hlisted]
  unfold KeywordTable.insert at hinsert
  cases hfirst : table.entries[fold word]? with
  | some first =>
      simp only [hfirst] at hinsert
      split at hinsert
      · rename_i heq
        obtain rfl := Except.ok.inj hinsert
        constructor
        · exact Or.inl
        · rintro (hkey | ⟨rfl, rfl⟩)
          · exact hkey
          · rw [hfirst, heq]
      · exact absurd hinsert (by simp)
  | none =>
      simp only [hfirst] at hinsert
      obtain rfl := Except.ok.inj hinsert
      rw [Std.TreeMap.getElem?_insert]
      split
      · rename_i hcompare
        obtain rfl := Std.LawfulEqOrd.eq_of_compare hcompare
        rw [hfirst]
        simp [eq_comm]
      · rename_i hcompare
        have hne : fold word ≠ key := by
          rintro rfl
          exact hcompare Std.ReflCmp.compare_self
        simp [hne]

theorem Knows.foldlM (h : table.Knows listed)
    (hfold : more.foldlM (fun table (category, word) => table.insert category word) table =
      .ok table') : table'.Knows (listed ++ more) := by
  induction more generalizing table listed with
  | nil =>
      obtain rfl := Except.ok.inj hfold
      rwa [List.append_nil]
  | cons entry more ih =>
      rw [List.foldlM_cons] at hfold
      obtain ⟨next, hinsert, hfold⟩ := exists_of_bind_eq_ok hfold
      have hknows := ih (h.insert hinsert) hfold
      rwa [List.append_assoc] at hknows

theorem knows_of_ofWords {lists : List (Category × List Text)} (h : ofWords lists = .ok table) :
    table.Knows (occurrences lists) :=
  knows_empty.foldlM h

/-- **A table gives a word the category under which it is listed**, in any case of its letters. -/
theorem classify_eq_some_iff {lists : List (Category × List Text)} (h : ofWords lists = .ok table)
    {word : Text} {category : Category} :
    table.classify word = some category ↔
      ∃ listed, (category, listed) ∈ occurrences lists ∧ fold listed = fold word :=
  knows_of_ofWords h (fold word) category

end LineLexer.KeywordTable
