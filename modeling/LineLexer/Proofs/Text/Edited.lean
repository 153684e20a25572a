/-
Texts edited line by line.

A function that looks at each line by itself, finds nothing on an empty one and gives the same
with a carriage return and without (`IgnoresReturn`) does not see how lines end: the pieces
between line feeds and the lines of the file give the same (`filterMap_lines`).  So two texts
joined by a line feed give what the first gives and then what the second gives, and an edit is
noticed on the line it touches or nowhere (`filterMap_lines_of_edit`), even if it takes the
carriage return in front of a line feed with it or leaves one behind.
-/
import LineLexer.Proofs.Text.Lines
import Mathlib.Logic.Relation

namespace LineLexer.Text

/-- The text whose pieces between line feeds are these. -/
def joinLines (pieces : List Text) : Text := ['\n'].intercalate pieces

/-- What may stand between a line and its line feed. -/
def IsEnding (ending : Text) : Prop := ending = [] ∨ ending = ['\r']

/-- One edit of a text: a line is put in, a line is changed, or a line feed is put behind the last
line. -/
inductive Edit (extra : Text → Prop) (change : Text → Text → Prop) : Text → Text → Prop where
  /-- A line is put between two lines, or at either end. -/
  | insert {line : Text} (earlier later : List Text) (hfeed : '\n' ∉ line) (hline : extra line) :
      Edit extra change (joinLines (earlier ++ later)) (joinLines (earlier ++ line :: later))
  /-- A line is changed. -/
  | change {line line' : Text} (earlier later : List Text) (hfeed : '\n' ∉ line)
      (hfeed' : '\n' ∉ line') (hline : change line line') :
      Edit extra change (joinLines (earlier ++ line :: later))
        (joinLines (earlier ++ line' :: later))
  /-- The last line is ended. -/
  | ended (t : Text) : Edit extra change t (t ++ ['\n'])

/-- What a step keeps, any number of steps in either direction keep. -/
theorem eq_of_eqvGen {α β : Type} {step : α → α → Prop} {f : α → β}
    (hstep : ∀ a b, step a b → f a = f b) {a b : α} (h : Relation.EqvGen step a b) :
    f a = f b := by
  induction h with
  | rel a b h => exact hstep a b h
  | refl a => rfl
  | symm a b _ ih => exact ih.symm
  | trans a b c _ _ ih ih' => exact ih.trans ih'

/-- A carriage return at the end of a line makes no difference. -/
def IgnoresReturn {α : Type} (f : Text → α) : Prop := ∀ line, f (line ++ ['\r']) = f line

namespace IgnoresReturn

variable {α : Type} {f : Text → α}

theorem append_ending (h : IgnoresReturn f) {line ending : Text} (hending : IsEnding ending) :
    f (line ++ ending) = f line := by
  rcases hending with rfl | rfl
  · rw [List.append_nil]
  · exact h line

theorem stripReturn (h : IgnoresReturn f) (line : Text) : f line.stripReturn = f line := by
  by_cases hlast : line.getLast? = some '\r'
  · obtain ⟨body, rfl⟩ := List.getLast?_eq_some_iff.mp hlast
    rw [h body, Text.stripReturn, if_pos hlast, List.dropLast_concat]
  · rw [Text.stripReturn, if_neg hlast]

theorem filterMap_map_stripReturn {f : Text → Option α} (h : IgnoresReturn f) (raws : List Text) :
    (raws.map Text.stripReturn).filterMap f = raws.filterMap f := by
  rw [List.filterMap_map, show f ∘ Text.stripReturn = f from funext h.stripReturn]

end IgnoresReturn

section LineByLine

variable {α : Type} {f : Text → Option α} (hnil : f [] = none) (hreturn : IgnoresReturn f)

include hnil hreturn

/-- The pieces between line feeds give what the lines give. -/
theorem filterMap_lines (t : Text) : t.lines.filterMap f = t.rawLines.filterMap f := by
  obtain ⟨earlier, last, hraws⟩ := exists_rawLines_eq_concat t
  rw [lines_of_rawLines hraws, hraws, List.filterMap_append, List.filterMap_append,
    hreturn.filterMap_map_stripReturn]
  by_cases hlast : last = []
  · simp [hlast, hnil]
  · simp [hlast]

/-- So does a carriage return at the end of the text. -/
theorem filterMap_bareLines (t : Text) : t.bareLines.filterMap f = t.lines.filterMap f := by
  rw [filterMap_lines hnil hreturn, ← hreturn.filterMap_map_stripReturn t.rawLines]
  rcases t.map_stripReturn_rawLines with h | h
  · rw [h]
  · rw [h, List.filterMap_append]
    simp [hnil]

/-- A line feed between two texts keeps what they give apart. -/
theorem filterMap_lines_append (s t : Text) :
    (lines (s ++ '\n' :: t)).filterMap f = s.lines.filterMap f ++ t.lines.filterMap f := by
  rw [filterMap_lines hnil hreturn, filterMap_lines hnil hreturn, filterMap_lines hnil hreturn,
    rawLines_append, List.filterMap_append]

theorem filterMap_lines_of_not_mem {line : Text} (h : '\n' ∉ line) :
    line.lines.filterMap f = (f line).toList := by
  rw [filterMap_lines hnil hreturn, rawLines_of_not_mem h]
  cases hline : f line with
  | none => simp [hline]
  | some a => simp [hline]

/-- A joined text gives what its pieces give. -/
theorem filterMap_lines_joinLines (pieces : List Text) :
    (joinLines pieces).lines.filterMap f =
      pieces.flatMap fun piece => piece.lines.filterMap f := by
  induction pieces with
  | nil => rfl
  | cons piece pieces ih =>
      cases pieces with
      | nil => simp [joinLines, List.intercalate]
      | cons next pieces =>
          have hjoin : joinLines (piece :: next :: pieces) =
              piece ++ '\n' :: joinLines (next :: pieces) := by simp [joinLines, List.intercalate]
          rw [hjoin, filterMap_lines_append hnil hreturn, ih]
          rfl

/-- **An edit that no line shows is not noticed.** -/
theorem filterMap_lines_of_edit {extra : Text → Prop} {change : Text → Text → Prop} {t t' : Text}
    (hextra : ∀ line, extra line → f line = none)
    (hchange : ∀ line line', change line line' → f line = f line')
    (h : Edit extra change t t') : t.lines.filterMap f = t'.lines.filterMap f := by
  cases h with
  | @insert line earlier later hfeed hline =>
      have hnone : line.lines.filterMap f = [] := by
        rw [filterMap_lines_of_not_mem hnil hreturn hfeed, hextra line hline]
        rfl
      rw [filterMap_lines_joinLines hnil hreturn, filterMap_lines_joinLines hnil hreturn,
        List.flatMap_append, List.flatMap_append, List.flatMap_cons, hnone, List.nil_append]
  | @change line line' earlier later hfeed hfeed' hline =>
      have hsame : line.lines.filterMap f = line'.lines.filterMap f := by
        rw [filterMap_lines_of_not_mem hnil hreturn hfeed,
          filterMap_lines_of_not_mem hnil hreturn hfeed', hchange line line' hline]
      rw [filterMap_lines_joinLines hnil hreturn, filterMap_lines_joinLines hnil hreturn,
        List.flatMap_append, List.flatMap_append, List.flatMap_cons, List.flatMap_cons, hsame]
  | ended t =>
      have hempty : (lines []).filterMap f = [] := rfl
      rw [filterMap_lines_append hnil hreturn, hempty, List.append_nil]

end LineByLine

end LineLexer.Text
