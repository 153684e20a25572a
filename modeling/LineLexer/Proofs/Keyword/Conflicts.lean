/-
Which lists of words make a keyword table.

A table is built word by word and stops at the first word that another category has
already.  While it has not stopped, it gives each key the category under which the key was
first listed (`Knows.getElem?_eq`), so what a word conflicts with is the earliest word with
its key, and the lists are accepted exactly if no two categories share a key
(`ofListed_eq_ok_iff`).

That a table knows its words depends on which words were listed and not on their order, so
lists with the same words, in whatever order and however often, make tables that answer
alike.
-/
import LineLexer.Proofs.Keyword
import Mathlib.Data.Finset.Card

namespace LineLexer.KeywordTable

variable {table : KeywordTable} {listed earlier later : List (Category × Text)}
  {category : Category} {word key : Text} {e : DuplicateKeyword}

/-- The table of words that come one by one, each with its category. -/
def ofListed (listed : List (Category × Text)) : Except DuplicateKeyword KeywordTable :=
  listed.foldlM (fun table (category, word) => table.insert category word) empty

/-- Words with the same key are listed under the same category. -/
def Consistent (listed : List (Category × Text)) : Prop :=
  ∀ o ∈ listed, ∀ o' ∈ listed, fold o.2 = fold o'.2 → o.1 = o'.1

/-- The earliest of some words that has a key. -/
def earliest? (listed : List (Category × Text)) (key : Text) : Option (Category × Text) :=
  listed.find? fun o => fold o.2 = key

/-- The words before one of them are consistent, and that one is listed under another category than
the earliest word with its key. -/
inductive FirstConflict (listed : List (Category × Text)) : DuplicateKeyword → Prop
  | mk {earlier later : List (Category × Text)} {first category : Category} {word spelling : Text}
      (hsplit : listed = earlier ++ (category, word) :: later) (hearlier : Consistent earlier)
      (hfirst : earliest? earlier (fold word) = some (first, spelling)) (hne : first ≠ category) :
      FirstConflict listed ⟨fold word, first, category⟩

/-! ### What a table knows while it is built -/

theorem knows_of_ofListed (h : ofListed listed = .ok table) : table.Knows listed :=
  knows_empty.foldlM h

/-- A table has one category for each key. -/
theorem Knows.consistent (h : table.Knows listed) : Consistent listed := by
  intro o ho o' ho' hkey
  have hfirst := (h (fold o.2) o.1).mpr ⟨o.2, ho, rfl⟩
  have hsecond := (h (fold o.2) o'.1).mpr ⟨o'.2, ho', hkey.symm⟩
  exact Option.some.inj (hfirst.symm.trans hsecond)

/-- **A key has the category under which it was first listed.** -/
theorem Knows.getElem?_eq (h : table.Knows listed) (key : Text) :
    table.entries[key]? = (earliest? listed key).map Prod.fst := by
  cases hfirst : earliest? listed key with
  | some o =>
      have hkey : fold o.2 = key := by simpa [earliest?] using List.find?_some hfirst
      exact (h key o.1).mpr ⟨o.2, List.mem_of_find?_eq_some hfirst, hkey⟩
  | none =>
      rw [Option.map_none, Option.eq_none_iff_forall_ne_some]
      intro category hcategory
      obtain ⟨word, hmem, hkey⟩ := (h key category).mp hcategory
      have hnone := List.find?_eq_none.mp hfirst (category, word) hmem
      simp [hkey] at hnone

/-- A word is refused if the earliest word with its key has another category. -/
theorem Knows.insert_eq_error_iff (h : table.Knows listed) :
    table.insert category word = .error e ↔
      ∃ first spelling, earliest? listed (fold word) = some (first, spelling) ∧
        first ≠ category ∧ e = ⟨fold word, first, category⟩ := by
  simp only [KeywordTable.insert, h.getElem?_eq]
  cases earliest? listed (fold word) with
  | none => simp
  | some o =>
      obtain ⟨first, spelling⟩ := o
      by_cases hsame : first = category
      · simp [hsame]
      · simp only [Option.map_some, if_neg hsame, Except.error.injEq, Option.some.injEq,
          Prod.mk.injEq]
        constructor
        · rintro rfl
          exact ⟨first, spelling, ⟨rfl, rfl⟩, hsame, rfl⟩
        · rintro ⟨_, _, ⟨rfl, rfl⟩, -, rfl⟩
          rfl

/-! ### Where the building stops -/

/-- A table whose building stops is stopped by the first conflict. -/
theorem firstConflict_of_ofListed (h : ofListed listed = .error e) : FirstConflict listed e := by
  obtain ⟨earlier, ⟨category, word⟩, later, table, hsplit, hearlier, hinsert⟩ :=
    exists_of_foldlM_eq_error h
  have hknows : table.Knows earlier := knows_of_ofListed hearlier
  obtain ⟨first, spelling, hfirst, hne, rfl⟩ := hknows.insert_eq_error_iff.mp hinsert
  exact .mk hsplit hknows.consistent hfirst hne

theorem FirstConflict.not_consistent (h : FirstConflict listed e) : ¬ Consistent listed := by
  intro hconsistent
  obtain ⟨rfl, -, hfirst, hne⟩ := h
  have hmem := List.mem_of_find?_eq_some hfirst
  have hkey := List.find?_some hfirst
  exact hne (hconsistent _ (List.mem_append_left _ hmem) _
    (List.mem_append_right _ List.mem_cons_self) (by simpa using hkey))

/-- **Words make a table exactly if they are consistent.** -/
theorem exists_ofListed_iff : (∃ table, ofListed listed = .ok table) ↔ Consistent listed := by
  constructor
  · rintro ⟨table, htable⟩
    exact (knows_of_ofListed htable).consistent
  · refine fun hconsistent => exists_of_forall_ne_error fun e hfail => ?_
    exact (firstConflict_of_ofListed hfail).not_consistent hconsistent

/-- The building stops at the first conflict and names it. -/
theorem ofListed_eq_error_iff : ofListed listed = .error e ↔ FirstConflict listed e := by
  refine ⟨firstConflict_of_ofListed, ?_⟩
  rintro ⟨rfl, hearlier, hfirst, hne⟩
  obtain ⟨table, htable⟩ := exists_ofListed_iff.mpr hearlier
  have hinsert := (knows_of_ofListed htable).insert_eq_error_iff.mpr ⟨_, _, hfirst, hne, rfl⟩
  unfold ofListed at htable ⊢
  simp only [List.foldlM_append, htable, List.foldlM_cons]
  show table.insert _ _ >>= _ = _
  rw [hinsert]
  rfl

/-! ### What a table answers -/

theorem Knows.mem_entries_iff (h : table.Knows listed) :
    key ∈ table.entries ↔ ∃ o ∈ listed, fold o.2 = key := by
  rw [Std.TreeMap.mem_iff_isSome_getElem?, Option.isSome_iff_exists]
  constructor
  · rintro ⟨category, hcategory⟩
    obtain ⟨word, hmem, hkey⟩ := (h key category).mp hcategory
    exact ⟨(category, word), hmem, hkey⟩
  · rintro ⟨⟨category, word⟩, hmem, hkey⟩
    exact ⟨category, (h key category).mpr ⟨word, hmem, hkey⟩⟩

/-- A table has as many words as there are keys listed. -/
theorem Knows.size_eq (h : table.Knows listed) :
    table.size = (listed.map fun o => fold o.2).toFinset.card := by
  have hkeys : table.entries.keys.toFinset = (listed.map fun o => fold o.2).toFinset := by
    ext key
    rw [List.mem_toFinset, List.mem_toFinset, Std.TreeMap.mem_keys, h.mem_entries_iff,
      List.mem_map]
  rw [← hkeys, List.toFinset_card_of_nodup Std.TreeMap.nodup_keys, Std.TreeMap.length_keys]
  rfl

/-- Consistency asks which words are listed, not where or how often. -/
theorem Consistent.congr {more : List (Category × Text)} (h : Consistent listed)
    (hmore : ∀ o ∈ more, o ∈ listed) : Consistent more :=
  fun o ho o' ho' => h o (hmore o ho) o' (hmore o' ho')

/-- Tables that know the same words answer alike. -/
theorem Knows.classify_congr {table' : KeywordTable} {more : List (Category × Text)}
    (h : table.Knows listed) (h' : table'.Knows more) (hmore : ∀ o, o ∈ more ↔ o ∈ listed)
    (word : Text) : table'.classify word = table.classify word := by
  refine Option.ext fun category => ?_
  have hword := h (fold word) category
  have hword' := h' (fold word) category
  simp only [hmore] at hword'
  exact hword'.trans hword.symm

/-! ### Tables of texts -/

/-- The words of some texts, in the order in which they stand there, each with the category of its
text. -/
def occurrencesIn (lists : List (Category × Text)) : List (Category × Text) :=
  occurrences (lists.map fun (category, text) => (category, text.words))

/-- What the table of some texts answers. -/
structure AnswersFor (table : KeywordTable) (lists : List (Category × Text)) : Prop where
  classify : ∀ word category, table.classify word = some category ↔
    ∃ listed, (category, listed) ∈ occurrencesIn lists ∧ fold listed = fold word
  size : table.size = ((occurrencesIn lists).map fun o => fold o.2).toFinset.card
  /-- The same words make a table that answers alike, in any order and grouping. -/
  regrouped : ∀ lists', (∀ o, o ∈ occurrencesIn lists' ↔ o ∈ occurrencesIn lists) →
    ∃ table', ofTexts lists' = .ok table' ∧ ∀ word, table'.classify word = table.classify word

/-- **A keyword table means its lists.**  They are refused exactly if a key is listed under two
categories, the first conflict is the one that is named, and what a table answers is what was
listed. -/
theorem ofTexts_means (lists : List (Category × Text)) :
    ((∃ e, ofTexts lists = .error e) ↔
      ∃ o ∈ occurrencesIn lists, ∃ o' ∈ occurrencesIn lists, fold o.2 = fold o'.2 ∧ o.1 ≠ o'.1) ∧
    (∀ e, ofTexts lists = .error e ↔ FirstConflict (occurrencesIn lists) e) ∧
    ∀ table, ofTexts lists = .ok table → table.AnswersFor lists := by
  have hlisted : ∀ lists, ofTexts lists = ofListed (occurrencesIn lists) := fun _ => rfl
  refine ⟨?_, fun e => ofListed_eq_error_iff, ?_⟩
  · have hrefused : (∃ e, ofTexts lists = .error e) ↔ ¬ ∃ table, ofTexts lists = .ok table := by
      cases ofTexts lists <;> simp
    rw [hrefused, hlisted, exists_ofListed_iff]
    simp only [Consistent, not_forall, exists_prop, ne_eq]
  · intro table htable
    have hknows : table.Knows (occurrencesIn lists) := knows_of_ofListed htable
    refine ⟨fun word category => hknows (fold word) category, hknows.size_eq, ?_⟩
    intro lists' hsame
    obtain ⟨table', htable'⟩ := exists_ofListed_iff.mpr
      (hknows.consistent.congr fun o ho => (hsame o).mp ho)
    exact ⟨table', htable', hknows.classify_congr (knows_of_ofListed htable') hsame⟩

end LineLexer.KeywordTable
