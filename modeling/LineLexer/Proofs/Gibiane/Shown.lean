/-
What is printed of a line when its tokens are coalesced.

The program coalesces the tokens of a line and then drops those whose category was not
asked for.  The tokens that are dropped may have stood between two others of one category,
so it looks as if the other order could merge more.  It does not: the tokens of a line of
Gibiane are in order and none is empty, in whichever state the line is entered.

So what is printed for one category does not depend on which others are printed, and it
covers the same bytes whether tokens are coalesced or not.
-/
import LineLexer.CommandLine.Program
import LineLexer.Proofs.Document.Restart
import LineLexer.Proofs.Gibiane.Gaps
import LineLexer.Proofs.Gibiane.Regions
import LineLexer.Proofs.Token.Filtered

namespace LineLexer.Gibiane

variable {lexer : Lexer}

/-- Categories may be picked out before the tokens of the line are coalesced or afterwards. -/
structure PicksAlike (lexer : Lexer) (state : lexer.rules.StateId) (line : Text) : Prop where
  commutes : ∀ keep : Category → Bool,
    (Token.coalesce line (lexer.tokenizeLine state line).1).filter (keep ·.category) =
      Token.coalesce line ((lexer.tokenizeLine state line).1.filter (keep ·.category))
  /-- The text picked out is that of the tokens without coalescing. -/
  texts : ∀ keep : Category → Bool,
    ((Token.coalesce line (lexer.tokenizeLine state line).1).filter (keep ·.category)).flatMap
        (·.text) =
      ((lexer.tokenizeLine state line).1.filter (keep ·.category)).flatMap (·.text)
  /-- So are the places of its bytes. -/
  bytes : ∀ keep : Category → Bool,
    ((Token.coalesce line (lexer.tokenizeLine state line).1).filter (keep ·.category)).flatMap
        Token.bytes =
      ((lexer.tokenizeLine state line).1.filter (keep ·.category)).flatMap Token.bytes

theorem LineCovered.laid {state : lexer.rules.StateId} {line : Text}
    (h : LineCovered lexer state line) : Token.Laid line (lexer.tokenizeLine state line).1 :=
  ⟨h.slices, h.nonempty, h.ordered⟩

theorem LineCovered.picksAlike {state : lexer.rules.StateId} {line : Text}
    (h : LineCovered lexer state line) : PicksAlike lexer state line := by
  have hpicked : ∀ (keep : Category → Bool),
      ∀ t ∈ (lexer.tokenizeLine state line).1.filter (keep ·.category), t.IsSliceOf line :=
    fun keep t ht => h.slices t (List.mem_filter.mp ht).1
  refine ⟨Token.filter_coalesce h.laid, ?_, ?_⟩
  · intro keep
    rw [Token.filter_coalesce h.laid]
    exact Token.flatMap_coalesce (fun a b _ => rfl) (hpicked keep)
  · intro keep
    rw [Token.filter_coalesce h.laid]
    exact Token.flatMap_coalesce (fun a b => Token.bytes_join) (hpicked keep)

/-- The lines the program prints for a document, when it coalesces tokens, are those for the
coalesced tokens of the categories it shows. -/
theorem documentLines_coalesce {m : Type → Type} [Monad m] (host : Host m) {options : Options}
    (hpicks : ∀ state line, PicksAlike lexer state line) (hcoalesce : options.coalesce = true)
    (hresults : options.results = none) (houtputs : options.outputs = false) (text : Text) :
    Program.documentLines host options (lexer.tokenizeDocument text) =
      pure ((lexer.tokenizeDocument text).lines.zipIdx.flatMap fun (line, index) =>
        (Token.coalesce line.text (line.tokens.filter (options.shows ·.category))).map
          (Program.tokenLine index)) := by
  have htokens := (lexer.tokenizeDocument_threads text).tokens
  have hlines : ∀ entry ∈ (lexer.tokenizeDocument text).lines.zipIdx,
      Program.tokenLines options entry.2 entry.1 =
        (Token.coalesce entry.1.text (entry.1.tokens.filter (options.shows ·.category))).map
          (Program.tokenLine entry.2) := by
    intro entry hentry
    have hline := htokens entry.1 (List.fst_mem_of_mem_zipIdx hentry)
    rw [Program.tokenLines, if_pos hcoalesce, hline]
    exact congrArg _ ((hpicks entry.1.entered entry.1.text).commutes options.shows)
  unfold Program.documentLines
  rw [hresults, houtputs]
  show pure (List.flatMap _ _) = _
  rw [List.flatMap_congr hlines]

/-- **Picking out categories and coalescing commute** on every line, in every state of the lexer,
and so in what the program prints. -/
theorem exists_lexer_picksAlike :
    ∃ lexer, Gibiane.lexer = .ok lexer ∧ (∀ state line, PicksAlike lexer state line) ∧
      ∀ (m : Type → Type) [Monad m] (host : Host m) (options : Options) (text : Text),
        options.coalesce = true → options.results = none → options.outputs = false →
          Program.documentLines host options (lexer.tokenizeDocument text) =
            pure ((lexer.tokenizeDocument text).lines.zipIdx.flatMap fun (line, index) =>
              (Token.coalesce line.text (line.tokens.filter (options.shows ·.category))).map
                (Program.tokenLine index)) := by
  obtain ⟨lexer, hlexer, accepted, hsound⟩ := exists_lexer
  have hpicks : ∀ state line, PicksAlike lexer state line := fun state line =>
    (lineCovered_of_tableSound accepted hsound state line).picksAlike
  refine ⟨lexer, hlexer, hpicks, ?_⟩
  intro m _ host options text hcoalesce hresults houtputs
  exact documentLines_coalesce host hpicks hcoalesce hresults houtputs text

/-- A line inside a string: when escapes are left out, what stood around one is still drawn as two
tokens. -/
theorem documentLines_string :
    ∃ (lexer : Lexer) (string : lexer.rules.StateId) (options : Options),
      Gibiane.lexer = .ok lexer ∧ lexer.rules.stateId? "string" = some string ∧
      (Token.coalesce "l''été".toList (lexer.tokenizeLine string "l''été".toList).1).filter
          (·.category == .string) =
        [⟨.string, 0, "l".toList⟩, ⟨.string, 3, "été".toList⟩] ∧
      options.only = [.string] ∧ options.coalesce = true ∧ options.results = none ∧
      options.outputs = false ∧
      Program.documentLines (m := Id) ⟨none, fun _ => .absent⟩ options
          (lexer.tokenizeDocument "MESS 'l''été';".toList) =
        (lexer.tokenizeDocument "MESS 'l''été';".toList).lines.zipIdx.flatMap fun (line, index) =>
          (Token.coalesce line.text (line.tokens.filter (options.shows ·.category))).map
            (Program.tokenLine index) := by
  obtain ⟨lexer, hlexer, hpicks, hprinted⟩ := exists_lexer_picksAlike
  obtain ⟨lexer', hlexer', ⟨string, header, hstates⟩, -⟩ := exists_lexer_statesFormed
  obtain rfl := Except.ok.inj (hlexer.symm.trans hlexer')
  have hpaired : Text.Paired "l''été".toList :=
    .other (by decide) (.pair (.other (by decide) (.other (by decide) (.other (by decide) .nil))))
  have hline := (produces_paired hstates.formed hpaired [] []).tokenizeLine_whole
  have htokens : (lexer.tokenizeLine string "l''été".toList).1 = quotedTokens 0 "l''été".toList :=
    congrArg Prod.fst hline
  refine ⟨lexer, string, ⟨"STDIN".toList, true, [.string], none, false, false, none, .auto⟩, hlexer,
    hstates.stringName, ?_, rfl, rfl, rfl, rfl, hprinted Id _ _ _ rfl rfl rfl⟩
  rw [(hpicks string _).commutes (· == .string), htokens]
  decide

end LineLexer.Gibiane
