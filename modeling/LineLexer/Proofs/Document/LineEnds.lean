/-
Documents that write a carriage return before each line feed.

A carriage return at the end of a line is no part of the line, so the lines of such a
document are those of the document without them, and all that differs is where they stand:
line `i` comes `i` bytes later.  The loop over the lines keeps two numbers that know about
bytes, the offset of the next line and the place where the state was entered, and both are
ahead by the number of the line they are on (`lexLines_endWithReturns`).

Statements are grouped from the texts and tokens of the lines, so whatever is read off them
does not depend on the line ends at all.
-/
import LineLexer.Gibiane.Discovery
import LineLexer.Proofs.Document.Restart
import LineLexer.Proofs.Gibiane.Tables

namespace LineLexer

namespace Text

/-- The text with a carriage return before each line feed. -/
def withReturns (t : Text) : Text := t.flatMap fun c => if c = '\n' then ['\r', '\n'] else [c]

/-- The pieces of a text, each but the last with a carriage return at its end. -/
def endWithReturns : List Text → List Text
  | [] => []
  | [raw] => [raw]
  | raw :: next :: raws => (raw ++ ['\r']) :: endWithReturns (next :: raws)

theorem withReturns_cons (c : Char) (t : Text) :
    withReturns (c :: t) = (if c = '\n' then ['\r', '\n'] else [c]) ++ t.withReturns := rfl

/-- A carriage return costs one byte. -/
theorem byteLength_withReturns (t : Text) :
    t.withReturns.byteLength = t.byteLength + t.count '\n' := by
  induction t with
  | nil => rfl
  | cons c t ih =>
      rw [withReturns_cons, byteLength_append, byteLength_cons, ih]
      by_cases hc : c = '\n'
      · subst hc
        have hreturn : '\r'.utf8Size = 1 := rfl
        simp only [if_true, byteLength_cons, byteLength_nil, List.count_cons_self, hreturn]
        omega
      · simp only [if_neg hc, byteLength_cons, byteLength_nil, List.count_cons_of_ne hc]
        omega

theorem endWithReturns_cons (raw : Text) {raws : List Text} (hraws : raws ≠ []) :
    endWithReturns (raw :: raws) = (raw ++ ['\r']) :: endWithReturns raws := by
  cases raws with
  | nil => exact absurd rfl hraws
  | cons next raws => rfl

/-- The carriage returns stand at the ends of the pieces. -/
theorem rawLines_withReturns (t : Text) : t.withReturns.rawLines = endWithReturns t.rawLines := by
  induction t with
  | nil => rfl
  | cons c t ih =>
      rw [withReturns_cons, rawLines_cons]
      by_cases hc : c = '\n'
      · simp only [if_pos hc, List.cons_append, List.nil_append]
        rw [endWithReturns_cons [] (rawLines_ne_nil t), rawLines_cons, rawLines_cons, ih]
        simp
      · simp only [if_neg hc, List.cons_append, List.nil_append]
        rw [rawLines_cons, if_neg hc, ih]
        cases hraws : rawLines t with
        | nil => exact absurd hraws (rawLines_ne_nil t)
        | cons raw raws =>
            cases raws with
            | nil => rfl
            | cons next raws => rfl

theorem stripReturn_of_not_mem {raw : Text} (h : '\r' ∉ raw) : stripReturn raw = raw := by
  rw [stripReturn, if_neg fun hlast => h (List.mem_of_getLast? hlast)]

theorem stripReturn_concat_return (raw : Text) : stripReturn (raw ++ ['\r']) = raw := by
  simp [stripReturn]

/-- No piece holds a character that the text does not. -/
theorem mem_of_mem_rawLines {t raw : Text} {c : Char} (hraw : raw ∈ t.rawLines) (hc : c ∈ raw) :
    c ∈ t := by
  obtain ⟨earlier, later, hsplit⟩ := List.append_of_mem hraw
  obtain ⟨before, after, htext, -, -⟩ := exists_before_of_rawLines hsplit
  rw [htext]
  exact List.mem_append_left _ (List.mem_append_right _ hc)

end Text

/-- The same place when each line before it has one byte more. -/
def OpenPlace.later (place : OpenPlace) : OpenPlace := ⟨place.line, place.offset + place.line⟩

/-- The same line, some bytes further on. -/
def LexedLine.moved {n : Nat} (line : LexedLine n) (bytes : Nat) : LexedLine n :=
  { line with offset := line.offset + bytes }

namespace Lexer

variable {lexer : Lexer}

theorem openedAfter_later (opened : Option OpenPlace) (index offset : Nat)
    (exit : lexer.rules.StateId) (lastSwitch : Option Nat) :
    lexer.openedAfter (opened.map OpenPlace.later) index (offset + index) exit lastSwitch =
      (lexer.openedAfter opened index offset exit lastSwitch).map OpenPlace.later := by
  unfold openedAfter
  split
  · rfl
  · cases lastSwitch with
    | some column => simp [OpenPlace.later, Nat.add_right_comm]
    | none => cases opened <;> simp [OpenPlace.later]

/-- **The loop over the lines is ahead by the number of the line.** -/
theorem lexLines_endWithReturns {raws : List Text} (h : ∀ raw ∈ raws, '\r' ∉ raw)
    (index offset : Nat) (state : lexer.rules.StateId) (opened : Option OpenPlace) :
    lexer.lexLines (Text.endWithReturns raws) index (offset + index) state
        (opened.map OpenPlace.later) =
      (((lexer.lexLines raws index offset state opened).1.zipIdx index).map
          fun (line, i) => line.moved i,
        (lexer.lexLines raws index offset state opened).2.1,
        (lexer.lexLines raws index offset state opened).2.2.map OpenPlace.later) := by
  induction raws generalizing index offset state opened with
  | nil => rfl
  | cons raw raws ih =>
      have hraw := Text.stripReturn_of_not_mem (h raw List.mem_cons_self)
      have hmore := ih fun raw' hraw' => h raw' (List.mem_cons_of_mem _ hraw')
      cases raws with
      | nil =>
          simp only [Text.endWithReturns, lexLines, openedAfter_later]
          rfl
      | cons next raws =>
          have hoffset : offset + index + Text.byteLength (raw ++ ['\r']) + 1 =
              offset + Text.byteLength raw + 1 + (index + 1) := by
            have hreturn : '\r'.utf8Size = 1 := rfl
            simp only [Text.byteLength_append, Text.byteLength_cons, Text.byteLength_nil, hreturn]
            omega
          rw [Text.endWithReturns_cons raw (by simp), lexLines, lexLines]
          simp only [Text.stripReturn_concat_return, hraw, hoffset, openedAfter_later, hmore]
          rfl

/-- Grouping does not ask where a line stands. -/
theorem foldl_addLine_moved (lines : List (LexedLine lexer.rules.size)) (index : Nat)
    (g : Gibiane.Grouping) :
    ((lines.zipIdx index).map fun (line, i) => line.moved i).foldl Gibiane.Grouping.addLine g =
      lines.foldl Gibiane.Grouping.addLine g := by
  induction lines generalizing index g with
  | nil => rfl
  | cons line lines ih => exact ih (index + 1) (g.addLine line)

/-! ### Documents -/

/-- What a text and the same text with carriage returns have in common, and how they differ. -/
structure LineEndsAgree (lexer : Lexer) (text : Text) : Prop where
  /-- There are as many lines, with the same texts, tokens and states, and line `i` comes `i` bytes
  later. -/
  lines : (lexer.tokenizeDocument text.withReturns).lines =
    (lexer.tokenizeDocument text).lines.mapIdx fun i line =>
      { line with offset := line.offset + i }
  exit : (lexer.tokenizeDocument text.withReturns).exit = (lexer.tokenizeDocument text).exit
  /-- The same construct is reported on the same line. -/
  incomplete : (lexer.tokenizeDocument text.withReturns).incompleteConstruct? =
    (lexer.tokenizeDocument text).incompleteConstruct?.map fun e =>
      { e with start := e.start + e.line, stop := e.stop + text.count '\n' }
  statements : Gibiane.statements (lexer.tokenizeDocument text.withReturns) =
    Gibiane.statements (lexer.tokenizeDocument text)
  outputs : Gibiane.discover (lexer.tokenizeDocument text.withReturns) =
    Gibiane.discover (lexer.tokenizeDocument text)
  notices : Gibiane.notices (lexer.tokenizeDocument text.withReturns) =
    Gibiane.notices (lexer.tokenizeDocument text)

/-- **A document is lexed alike with either kind of line end.** -/
theorem lineEndsAgree_of_not_mem (lexer : Lexer) {text : Text} (htext : '\r' ∉ text) :
    lexer.LineEndsAgree text := by
  have hlex := lexer.lexLines_endWithReturns
    (fun raw hraw hreturn => htext (Text.mem_of_mem_rawLines hraw hreturn)) 0 0 lexer.start none
  rw [← Text.rawLines_withReturns] at hlex
  have hlines : (lexer.tokenizeDocument text.withReturns).lines =
      ((lexer.tokenizeDocument text).lines.zipIdx 0).map fun (line, i) => line.moved i :=
    congrArg Prod.fst hlex
  have hexit : (lexer.tokenizeDocument text.withReturns).exit =
      (lexer.tokenizeDocument text).exit := congrArg (fun result => result.2.1) hlex
  have hopened : (lexer.tokenizeDocument text.withReturns).opened =
      (lexer.tokenizeDocument text).opened.map OpenPlace.later :=
    congrArg (fun result => result.2.2) hlex
  have hstatements : Gibiane.statements (lexer.tokenizeDocument text.withReturns) =
      Gibiane.statements (lexer.tokenizeDocument text) := by
    rw [Gibiane.statements, hlines, foldl_addLine_moved]
    rfl
  refine ⟨?_, hexit, ?_, hstatements, ?_, ?_⟩
  · rw [hlines, List.mapIdx_eq_zipIdx_map]
    rfl
  · have hname : (lexer.tokenizeDocument text.withReturns).exitName =
        (lexer.tokenizeDocument text).exitName := congrArg lexer.rules.stateName hexit
    have hlength : (lexer.tokenizeDocument text.withReturns).length =
        (lexer.tokenizeDocument text).length + text.count '\n' := text.byteLength_withReturns
    rw [Document.incompleteConstruct?, Document.incompleteConstruct?, hopened, hname, hlength,
      Option.map_map, Option.map_map]
    rfl
  · rw [Gibiane.discover, hstatements]
    rfl
  · rw [Gibiane.notices, hstatements]
    rfl

/-- A string over two lines, a comment and a string that is never closed. -/
theorem lineEndsAgree_script :
    ∃ lexer, Gibiane.lexer = .ok lexer ∧
      '\r' ∉ "MESS 'a\n=é' x ;\n* é\n\nMESS 'x=".toList ∧
      lexer.LineEndsAgree "MESS 'a\n=é' x ;\n* é\n\nMESS 'x=".toList := by
  obtain ⟨lexer, hlexer, -⟩ := Gibiane.exists_lexer
  exact ⟨lexer, hlexer, by decide, lineEndsAgree_of_not_mem lexer (by decide)⟩

end Lexer

end LineLexer
