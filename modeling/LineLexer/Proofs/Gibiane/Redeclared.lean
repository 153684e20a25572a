/-
Names that a script declares more than once.

A name that is declared again keeps its first place and takes its last source.  That is
how declarations are recorded, but the list that is recorded is not in the order of the
script: discovery looks for one kind of exposure after the other, so all that is printed
comes first, then what neighbouring statements write to files, then what a procedure
writes (`byKind`).  First and last are meant in that list (`discover_redeclared`).

The order of the script is kept where the script itself exposes its results kind by kind
(`byKind_of_inTurn`).  Elsewhere it is not: a name that is written to a file and then
printed is looked for in the file, and a result that is printed last is listed first
(`discover_outOfTurn`).
-/
import LineLexer.Proofs.Gibiane.Exposed

namespace LineLexer.Gibiane

namespace Exposure

/-! ### The order of the looks -/

/-- When a kind is looked for. -/
def Kind.turn : Kind → Nat
  | .printed => 0
  | .sorted => 1
  | .called => 2

/-- The exposures stand in the order in which they are looked for. -/
def InTurn (exposures : List Exposure) : Prop :=
  exposures.Pairwise fun a b => a.kind.turn ≤ b.kind.turn

variable {exposures : List Exposure}

theorem flatMap_found_eq_nil {kind : Kind} (h : ∀ e ∈ exposures, e.kind ≠ kind) :
    exposures.flatMap (found kind) = [] := by
  rw [List.flatMap_eq_nil_iff]
  intro e he
  rw [found, if_neg (h e he)]

/-- Looking for one kind after the other does not reorder exposures that stand in that order. -/
theorem byKind_of_inTurn (h : InTurn exposures) :
    byKind exposures = exposures.flatMap outputs := by
  induction exposures with
  | nil => rfl
  | cons e exposures ih =>
      obtain ⟨hlater, hrest⟩ := List.pairwise_cons.mp h
      -- What is looked for before the first exposure is not among the others.
      have hnone : ∀ kind : Kind, kind.turn < e.kind.turn →
          exposures.flatMap (found kind) = [] := by
        intro kind hturn
        refine flatMap_found_eq_nil fun other hother hkind => ?_
        have hle := hlater other hother
        rw [hkind] at hle
        omega
      rw [List.flatMap_cons, ← ih hrest]
      unfold byKind
      simp only [List.flatMap_cons]
      cases hkind : e.kind with
      | printed => simp [found, hkind]
      | sorted =>
          rw [hnone .printed (by rw [hkind]; decide)]
          simp [found, hkind]
      | called =>
          rw [hnone .printed (by rw [hkind]; decide), hnone .sorted (by rw [hkind]; decide)]
          simp [found, hkind]

end Exposure

/-! ### Discovery -/

variable {exposures : List Exposure}

theorem exists_lexer_discover (htables : Exposure.TablesApart exposures) {text : Text}
    (htext : text.bareLines = exposures.flatMap Exposure.lines) :
    ∃ lexer, Gibiane.lexer = .ok lexer ∧
      discover (lexer.tokenizeDocument text) = latest (Exposure.byKind exposures) := by
  obtain ⟨lexer, hlexer, ⟨string, header, hformed⟩, hkeywords⟩ := exists_lexer_formed
  refine ⟨lexer, hlexer, ?_⟩
  rw [discover, statements_of_exposures hformed hkeywords htext,
    Exposure.declarations_flatMap htables, outputsOf_eq_latest, filterMap_output?_map]

/-- **Names that are declared again.**  In a text whose lines expose results, discovery finds each
name of a result once, in the order in which the names first come and with the last source, where
first and last are those of the exposures sorted by kind.  That is the order of the text itself
where the exposures stand in it kind by kind. -/
theorem discover_redeclared (htables : Exposure.TablesApart exposures) {text : Text}
    (htext : text.bareLines = exposures.flatMap Exposure.lines) :
    ∃ lexer, Gibiane.lexer = .ok lexer ∧
      discover (lexer.tokenizeDocument text) = latest (Exposure.byKind exposures) ∧
      ((discover (lexer.tokenizeDocument text)).map Output.name).Nodup ∧
      (∀ name, name ∈ (discover (lexer.tokenizeDocument text)).map Output.name ↔
        name ∈ (exposures.flatMap Exposure.outputs).map Output.name) ∧
      (Exposure.InTurn exposures →
        discover (lexer.tokenizeDocument text) =
          latest (exposures.flatMap Exposure.outputs)) := by
  obtain ⟨lexer, hlexer, hdiscover⟩ := exists_lexer_discover htables htext
  refine ⟨lexer, hlexer, hdiscover, ?_, ?_, ?_⟩
  · rw [hdiscover]
    exact nodup_latest _
  · intro name
    rw [hdiscover, map_name_latest, List.mem_eraseDups]
    exact ((Exposure.byKind_perm exposures).map Output.name).mem_iff
  · intro hturn
    rw [hdiscover, Exposure.byKind_of_inTurn hturn]

/-- A result that is printed, and then written to a file, is read from the file. -/
theorem discover_redeclared_file :
    ∃ (exposures : List Exposure) (text : Text) (lexer : Lexer),
      exposures.flatMap Exposure.outputs =
        [⟨"x".toList, .console⟩, ⟨"y".toList, .console⟩, ⟨"x".toList, .file "x.txt".toList⟩,
          ⟨"y".toList, .file "y.csv".toList⟩, ⟨"x".toList, .file "x.csv".toList⟩] ∧
      text.bareLines = exposures.flatMap Exposure.lines ∧ Gibiane.lexer = .ok lexer ∧
      discover (lexer.tokenizeDocument text) =
        [⟨"x".toList, .file "x.csv".toList⟩, ⟨"y".toList, .file "y.csv".toList⟩] := by
  let x : Name := ⟨"x".toList, by decide, by decide⟩
  let y : Name := ⟨"y".toList, by decide, by decide⟩
  let exposures : List Exposure :=
    [.printed x, .printed y, .chain x (.ofText "x.txt".toList (by decide)),
      .excel y ⟨"y".toList, by decide⟩, .excel x ⟨"x".toList, by decide⟩]
  have htables : Exposure.TablesApart exposures := .nil
  have hlines : Text.bareLines (
      "MESS 'x=' x;\nMESS 'y=' y;\nOPTI SORT 'x.txt';\nSORT 'CHAI' x;\n".toList ++
      "@EXCEL1 y 'y.csv';\n@EXCEL1 x 'x.csv';\n".toList) =
        exposures.flatMap Exposure.lines := by
    decide +kernel
  obtain ⟨lexer, hlexer, -, -, -, hturn⟩ := discover_redeclared htables hlines
  refine ⟨exposures, _, lexer, rfl, hlines, hlexer, ?_⟩
  rw [hturn (by unfold Exposure.InTurn; decide)]
  decide

/-- A result that is written to a file, and then printed, is still read from the file, and comes
before one that the script exposes first. -/
theorem discover_outOfTurn :
    ∃ (exposures : List Exposure) (text : Text) (lexer : Lexer),
      Exposure.TablesApart exposures ∧
      text.bareLines = exposures.flatMap Exposure.lines ∧ Gibiane.lexer = .ok lexer ∧
      latest (exposures.flatMap Exposure.outputs) =
        [⟨"a".toList, .file "a.csv".toList⟩, ⟨"x".toList, .console⟩] ∧
      discover (lexer.tokenizeDocument text) =
        [⟨"x".toList, .file "x.txt".toList⟩, ⟨"a".toList, .file "a.csv".toList⟩] := by
  let x : Name := ⟨"x".toList, by decide, by decide⟩
  let exposures : List Exposure :=
    [.excel ⟨"a".toList, by decide, by decide⟩ ⟨"a".toList, by decide⟩,
      .chain x (.ofText "x.txt".toList (by decide)), .printed x]
  have htables : Exposure.TablesApart exposures := .nil
  have hlines : Text.bareLines (
      "@EXCEL1 a 'a.csv';\nOPTI SORT 'x.txt';\nSORT 'CHAI' x;\nMESS 'x=' x;\n".toList) =
        exposures.flatMap Exposure.lines := by
    decide +kernel
  obtain ⟨lexer, hlexer, hdiscover⟩ := exists_lexer_discover htables hlines
  refine ⟨exposures, _, lexer, htables, hlines, hlexer, by decide, ?_⟩
  rw [hdiscover]
  decide

end LineLexer.Gibiane
