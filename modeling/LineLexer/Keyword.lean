/-
Keyword tables.

A table maps words to categories.  Words are kept in uppercase and every query is
folded the same way, so nobody who asks has to fold.  The map is ordered, and the
order of its keys, by code point, is also the order of their UTF-8 bytes: completions
come out sorted because the table is.
-/
import LineLexer.Category
import LineLexer.Text.Blank
import LineLexer.Unicode.Case
import Std.Data.TreeMap

namespace LineLexer

/-- A word listed under two categories. -/
structure DuplicateKeyword where
  /-- The word in uppercase. -/
  keyword : Text
  /-- The category that listed it first. -/
  first : Category
  /-- The category that listed it again. -/
  second : Category
deriving DecidableEq, Repr

/-- Words in uppercase with their categories. -/
structure KeywordTable where
  /-- The category of each word. -/
  entries : Std.TreeMap Text Category

namespace KeywordTable

/-- The form in which words are kept and looked up. -/
def fold (word : Text) : Text := word.toUppercase

/-- The table without words. -/
def empty : KeywordTable := ⟨∅⟩

/-- The table with one more word, unless another category lists it already. -/
def insert (table : KeywordTable) (category : Category) (word : Text) :
    Except DuplicateKeyword KeywordTable :=
  let key := fold word
  match table.entries[key]? with
  | some first =>
    if first = category then .ok table else .error ⟨key, first, category⟩
  | none => .ok ⟨table.entries.insert key category⟩

/-- The table of lists of words, each list under its category. -/
def ofWords (lists : List (Category × List Text)) : Except DuplicateKeyword KeywordTable :=
  (lists.flatMap fun (category, words) => words.map (category, ·)).foldlM
    (fun table (category, word) => table.insert category word) empty

/-- The table of texts whose words are separated by blanks, each text under its category. -/
def ofTexts (lists : List (Category × Text)) : Except DuplicateKeyword KeywordTable :=
  ofWords (lists.map fun (category, text) => (category, text.words))

/-- The category of a word, whatever its case. -/
def classify (table : KeywordTable) (word : Text) : Option Category := table.entries[fold word]?

/-- The words that begin with `beginning`, whatever its case, in ascending order. -/
def completions (table : KeywordTable) (beginning : Text) : List (Text × Category) :=
  table.entries.toList.filter fun (word, _) => (fold beginning).isPrefixOf word

/-- The number of words. -/
def size (table : KeywordTable) : Nat := table.entries.size

end KeywordTable

end LineLexer
