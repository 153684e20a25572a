/-
Where the lines of a document stand.

The offset of a line is counted from the pieces before it, with their carriage returns and
line feeds, while the text of a line has neither.  One byte too many or too few at a line
end would move everything that is reported after it, so the two have to fit: the lines and
what ends them are the document, one after the other, and each line stands at its offset.

`Covers` says so, one step for each line.  What is said of a single line is read off the
part of the document that it begins (`Covers.drop`), and a token is a slice of the document
because it is a slice of its line.
-/
import LineLexer.Proofs.Document.Restart
import LineLexer.Proofs.Line.Tokens
import LineLexer.Proofs.Text.Replaced

namespace LineLexer

namespace Text

/-- What ends a line in front of `feed`: one carriage return more, if there is one, and nothing
else. -/
def Ends (line feed ending : Text) : Prop :=
  ending = '\r' :: feed ∨ (ending = feed ∧ line.getLast? ≠ some '\r')

theorem ends_stripReturn (raw feed : Text) : Ends (stripReturn raw) feed (lineEnd raw ++ feed) := by
  unfold Ends lineEnd
  by_cases hlast : raw.getLast? = some '\r'
  · left
    rw [if_pos hlast, List.singleton_append]
  · right
    rw [if_neg hlast, List.nil_append, stripReturn, if_neg hlast]
    exact ⟨rfl, hlast⟩

theorem Ends.count {line feed ending : Text} (h : Ends line feed ending) :
    ending.count '\n' = feed.count '\n' := by
  rcases h with rfl | ⟨rfl, -⟩
  · exact List.count_cons_of_ne (by decide)
  · rfl

/-- A text with one piece is that piece. -/
theorem eq_of_rawLines_eq_singleton {t raw : Text} (h : t.rawLines = [raw]) : t = raw := by
  have hjoin : ['\n'].intercalate t.rawLines = t := List.intercalate_splitOn _
  rw [← hjoin, h]
  simp [List.intercalate]

/-- A slice of a slice is a slice. -/
theorem slice?_slice {t s u : Text} {start stop i j : Nat} (h : t.slice? start stop = some s)
    (h' : s.slice? i j = some u) : t.slice? (start + i) (start + j) = some u := by
  obtain ⟨before, after, rfl, rfl, -⟩ := slice?_eq_some_iff.mp h
  obtain ⟨before', after', rfl, rfl, rfl⟩ := slice?_eq_some_iff.mp h'
  rw [slice?_eq_some_iff]
  refine ⟨before ++ before', after' ++ after, ?_, ?_, ?_⟩
  · simp
  · exact byteLength_append before before'
  · exact Nat.add_assoc _ _ _

end Text

/-- The lines, each with what ends it, are the text, and each stands at its offset if the first
stands at `offset`. -/
inductive Covers {n : Nat} : Nat → List (LexedLine n) → Text → Prop
  | last {offset : Nat} {line : LexedLine n} {ending : Text} (hoffset : line.offset = offset)
      (hfeed : '\n' ∉ line.text) (hends : line.text.Ends [] ending) :
      Covers offset [line] (line.text ++ ending)
  | next {offset : Nat} {line : LexedLine n} {lines : List (LexedLine n)} {ending rest : Text}
      (hoffset : line.offset = offset) (hfeed : '\n' ∉ line.text)
      (hends : line.text.Ends ['\n'] ending)
      (h : Covers (offset + line.text.byteLength + ending.byteLength) lines rest) :
      Covers offset (line :: lines) (line.text ++ (ending ++ rest))

namespace Covers

variable {n offset : Nat} {line : LexedLine n} {lines earlier later : List (LexedLine n)}
  {text : Text}

/-- There is a line for each line feed, and one more. -/
theorem length (h : Covers offset lines text) : lines.length = text.count '\n' + 1 := by
  induction h with
  | last _ hfeed hends =>
      have hline := List.count_eq_zero.mpr hfeed
      have hending := hends.count
      rw [List.count_append, hline, hending]
      rfl
  | next _ hfeed hends _ ih =>
      have hline := List.count_eq_zero.mpr hfeed
      have hending := hends.count
      rw [List.length_cons, ih, List.count_append, List.count_append, hline, hending,
        List.count_singleton_self]
      omega

/-- The first line stands where the text does. -/
theorem head? (h : Covers offset lines text) : lines.head?.map (·.offset) = some offset := by
  cases h with
  | last hoffset _ _ => rw [List.head?_cons, Option.map_some, hoffset]
  | next hoffset _ _ _ => rw [List.head?_cons, Option.map_some, hoffset]

/-- A line begins the part of the text that it and the lines after it are. -/
theorem drop (h : Covers offset (earlier ++ line :: later) text) :
    ∃ before rest, text = before ++ rest ∧ line.offset = offset + before.byteLength ∧
      Covers line.offset (line :: later) rest := by
  induction earlier generalizing offset text with
  | nil =>
      have hoffset : line.offset = offset := Option.some.inj h.head?
      refine ⟨[], text, rfl, hoffset, ?_⟩
      rw [hoffset]
      exact h
  | cons first earlier ih =>
      rw [List.cons_append] at h
      generalize hlines : earlier ++ line :: later = lines at h
      cases h with
      | last _ _ _ => exact absurd hlines (by simp)
      | @next _ _ _ ending rest _ _ _ h =>
          subst hlines
          obtain ⟨before, rest', hrest, hoffset, hline⟩ := ih h
          refine ⟨first.text ++ (ending ++ before), rest', ?_, ?_, hline⟩
          · rw [hrest]
            simp
          · rw [hoffset, Text.byteLength_append, Text.byteLength_append]
            omega

theorem exists_of_cons (h : Covers offset (line :: lines) text) :
    '\n' ∉ line.text ∧ ∃ after, text = line.text ++ after := by
  cases h with
  | last _ hfeed _ => exact ⟨hfeed, _, rfl⟩
  | next _ hfeed _ _ => exact ⟨hfeed, _, rfl⟩

/-- What ends a line leads to the offset of the next one. -/
theorem exists_ending_of_cons_cons {a b : LexedLine n} (h : Covers offset (a :: b :: lines) text) :
    ∃ ending after, text = a.text ++ (ending ++ after) ∧ a.text.Ends ['\n'] ending ∧
      b.offset = offset + a.text.byteLength + ending.byteLength := by
  cases h with
  | next _ _ hends h => exact ⟨_, _, rfl, hends, Option.some.inj h.head?⟩

theorem exists_ending_of_singleton (h : Covers offset [line] text) :
    ∃ ending, text = line.text ++ ending ∧ line.text.Ends [] ending := by
  cases h with
  | last _ _ hends => exact ⟨_, rfl, hends⟩
  | next _ _ _ h => nomatch h

end Covers

namespace Lexer

variable {lexer : Lexer}

/-- **The lines of a text cover it**, wherever the first of them stands. -/
theorem lexFrom_covers (text : Text) (state : lexer.rules.StateId) (offset : Nat) :
    Covers offset (lexer.lexFrom state offset text.rawLines) text := by
  generalize hraws : text.rawLines = raws
  induction raws generalizing text state offset with
  | nil => exact absurd hraws text.rawLines_ne_nil
  | cons raw raws ih =>
      have hraw : raw ∈ text.rawLines := by
        rw [hraws]
        exact List.mem_cons_self
      have hline : Text.stripReturn raw ++ Text.lineEnd raw = raw :=
        Text.stripReturn_append_lineEnd raw
      have hfeed : '\n' ∉ Text.stripReturn raw := by
        intro hmem
        apply Text.not_mem_of_mem_rawLines hraw
        rw [← hline]
        exact List.mem_append_left _ hmem
      rw [lexFrom]
      by_cases hlast : raws = []
      · subst hlast
        have hends := Text.ends_stripReturn raw []
        rw [List.append_nil] at hends
        rw [Text.eq_of_rawLines_eq_singleton hraws]
        have hcovers : Covers offset [⟨Text.stripReturn raw, offset, state,
            (lexer.tokenizeLine state (Text.stripReturn raw)).1⟩]
            (Text.stripReturn raw ++ Text.lineEnd raw) := .last rfl hfeed hends
        rwa [hline] at hcovers
      · obtain ⟨rest, rfl, hrest⟩ := Text.exists_of_rawLines_cons hraws hlast
        have hlength : offset + (Text.stripReturn raw).byteLength +
            (Text.lineEnd raw ++ ['\n']).byteLength = offset + raw.byteLength + 1 := by
          have hbytes := congrArg Text.byteLength hline
          have hsize : '\n'.utf8Size = 1 := rfl
          simp only [Text.byteLength_append, Text.byteLength_cons, Text.byteLength_nil,
            hsize] at hbytes ⊢
          omega
        have hmore := ih rest (lexer.tokenizeLine state (Text.stripReturn raw)).2
          (offset + raw.byteLength + 1) hrest
        rw [← hlength] at hmore
        have hsplit : raw ++ '\n' :: rest =
            Text.stripReturn raw ++ ((Text.lineEnd raw ++ ['\n']) ++ rest) := by
          nth_rewrite 1 [← hline]
          simp
        rw [hsplit, ← hlength]
        exact Covers.next rfl hfeed (Text.ends_stripReturn raw ['\n']) hmore

/-- The tokens of a line are slices of it. -/
theorem isSliceOf_of_mem_tokenizeLine (state : lexer.rules.StateId) (line : Text) :
    ∀ token ∈ (lexer.tokenizeLine state line).1, token.IsSliceOf line := by
  intro token htoken
  obtain ⟨turn, hturn, htoken⟩ := List.mem_flatMap.mp htoken
  obtain ⟨hstart, _, htakes⟩ :=
    (lexer.lineTurns_runs state line).standsIn (.atStart line) turn hturn
  obtain ⟨span, htells, hspan⟩ := htakes.exists_tells token htoken
  exact hspan.isSliceOf htells hstart

/-- How the lines of a document and their tokens stand in it. -/
structure Placed (lexer : Lexer) (text : Text) : Prop where
  /-- There is one line more than there are line feeds. -/
  count : (lexer.tokenizeDocument text).lines.length = text.count '\n' + 1
  first : (lexer.tokenizeDocument text).lines.head?.map (·.offset) = some 0
  feeds : ∀ line ∈ (lexer.tokenizeDocument text).lines, '\n' ∉ line.text
  lines : ∀ line ∈ (lexer.tokenizeDocument text).lines,
    text.slice? line.offset (line.offset + line.text.byteLength) = some line.text
  /-- Between two lines there is a line feed, with or without a carriage return before it. -/
  between : ∀ earlier a b later,
    (lexer.tokenizeDocument text).lines = earlier ++ a :: b :: later →
      ∃ ending, text.slice? (a.offset + a.text.byteLength) b.offset = some ending ∧
        a.text.Ends ['\n'] ending
  /-- After the last line there is nothing, or a carriage return. -/
  last : ∀ earlier line, (lexer.tokenizeDocument text).lines = earlier ++ [line] →
    ∃ ending, text.slice? (line.offset + line.text.byteLength) text.byteLength = some ending ∧
      line.text.Ends [] ending
  tokens : ∀ line ∈ (lexer.tokenizeDocument text).lines, ∀ token ∈ line.tokens,
    text.slice? (line.offset + token.start)
      (line.offset + token.start + token.text.byteLength) = some token.text

/-- **Offsets are places of the document.**  Its lines, with what ends them, are the text of the
document, and each line and each token stands where its offset says, for every table of rules. -/
theorem placed_document (lexer : Lexer) (text : Text) : lexer.Placed text := by
  have hcovers : Covers 0 (lexer.tokenizeDocument text).lines text := by
    rw [(lexer.tokenizeDocument_eq text).1]
    exact lexFrom_covers text lexer.start 0
  have hdrop : ∀ earlier line later,
      (lexer.tokenizeDocument text).lines = earlier ++ line :: later →
        ∃ before rest, text = before ++ rest ∧ line.offset = before.byteLength ∧
          Covers line.offset (line :: later) rest := by
    intro earlier line later hlines
    rw [hlines] at hcovers
    obtain ⟨before, rest, htext, hoffset, hrest⟩ := hcovers.drop
    exact ⟨before, rest, htext, by omega, hrest⟩
  have hline : ∀ line ∈ (lexer.tokenizeDocument text).lines, '\n' ∉ line.text ∧
      text.slice? line.offset (line.offset + line.text.byteLength) = some line.text := by
    intro line hmem
    obtain ⟨earlier, later, hlines⟩ := List.append_of_mem hmem
    obtain ⟨before, rest, htext, hoffset, hrest⟩ := hdrop earlier line later hlines
    obtain ⟨hfeed, after, rfl⟩ := hrest.exists_of_cons
    exact ⟨hfeed, Text.slice?_eq_some_iff.mpr ⟨before, after, htext, hoffset.symm, rfl⟩⟩
  refine ⟨hcovers.length, hcovers.head?, fun line hmem => (hline line hmem).1,
    fun line hmem => (hline line hmem).2, ?_, ?_, ?_⟩
  · intro earlier a b later hlines
    obtain ⟨before, rest, htext, hoffset, hrest⟩ := hdrop earlier a (b :: later) hlines
    obtain ⟨ending, after, rfl, hends, hnext⟩ := hrest.exists_ending_of_cons_cons
    refine ⟨ending, Text.slice?_eq_some_iff.mpr ⟨before ++ a.text, after, ?_, ?_, hnext.symm⟩, hends⟩
    · rw [htext, List.append_assoc]
    · rw [Text.byteLength_append, hoffset]
  · intro earlier line hlines
    obtain ⟨before, rest, htext, hoffset, hrest⟩ := hdrop earlier line [] hlines
    obtain ⟨ending, rfl, hends⟩ := hrest.exists_ending_of_singleton
    refine ⟨ending, Text.slice?_eq_some_iff.mpr ⟨before ++ line.text, [], ?_, ?_, ?_⟩, hends⟩
    · rw [htext, List.append_nil, List.append_assoc]
    · rw [Text.byteLength_append, hoffset]
    · rw [htext, Text.byteLength_append, Text.byteLength_append, hoffset, Nat.add_assoc]
  · intro line hmem token htoken
    rw [(lexer.tokenizeDocument_threads text).tokens line hmem] at htoken
    have hslice := isSliceOf_of_mem_tokenizeLine line.entered line.text token htoken
    have hplace := Text.slice?_slice (hline line hmem).2 hslice
    rwa [Token.stop, ← Nat.add_assoc] at hplace

end Lexer

end LineLexer
