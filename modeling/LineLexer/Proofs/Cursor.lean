/-
Where a line is cut.

A token gives its place in byte offsets, but the lexer never looks anything up by an
offset: it moves a cursor character by character and notes where it stands.  `Passes`
says what such a move keeps true.  From that alone, the stretch between two cursors is
the text passed on the way, and it is what the line holds between their offsets.  So
no slice is ever out of range or starts inside a character.
-/
import LineLexer.Pattern.Cursor
import LineLexer.Token

namespace LineLexer

/-- Byte `i` of the line belongs to the token. -/
def Token.Covers (t : Token) (i : Nat) : Prop := t.start ≤ i ∧ i < t.stop

instance (t : Token) (i : Nat) : Decidable (t.Covers i) := inferInstanceAs (Decidable (_ ∧ _))

/-- Byte `i` of the line lies between the cursors of the stretch. -/
def Span.Covers (s : Span) (i : Nat) : Prop := s.start.offset ≤ i ∧ i < s.stop.offset

instance (s : Span) (i : Nat) : Decidable (s.Covers i) := inferInstanceAs (Decidable (_ ∧ _))

namespace Cursor

/-- Passing the characters of `read` leads from `start` to `stop`. -/
structure Passes (start : Cursor) (read : Text) (stop : Cursor) : Prop where
  /-- They are the next ones to come. -/
  rest : start.rest = read ++ stop.rest
  /-- Their bytes are counted. -/
  offset : stop.offset = start.offset + read.byteLength
  /-- The last of them is remembered. -/
  before : stop.before = read.getLast?.or start.before

/-- The cursor between the characters passed and those to come. -/
def between (passed rest : Text) : Cursor := ⟨passed.getLast?, passed.byteLength, rest⟩

/-- The cursor stands between two characters of the line, or at an end of it. -/
def StandsIn (cur : Cursor) (line : Text) : Prop := ∃ passed, (Cursor.start line).Passes passed cur

namespace Passes

variable {start mid stop : Cursor} {read more : Text}

theorem refl (cur : Cursor) : cur.Passes [] cur := ⟨rfl, rfl, rfl⟩

theorem pass {c : Char} {rest : Text} (h : start.rest = c :: rest) :
    start.Passes [c] (start.pass c rest) := by
  refine ⟨by simpa using h, ?_, ?_⟩
  · simp [Cursor.pass]
  · simp [Cursor.pass]

theorem trans (h : start.Passes read mid) (h' : mid.Passes more stop) :
    start.Passes (read ++ more) stop := by
  refine ⟨?_, ?_, ?_⟩
  · rw [h.rest, h'.rest, List.append_assoc]
  · rw [h'.offset, h.offset, Text.byteLength_append, Nat.add_assoc]
  · rw [h'.before, h.before, List.getLast?_append, Option.or_assoc]

theorem eq_of_nil (h : start.Passes [] stop) : stop = start := by
  obtain ⟨hrest, hoffset, hbefore⟩ := h
  cases start
  cases stop
  simp_all

theorem remaining (h : start.Passes read stop) :
    start.remaining = read.length + stop.remaining := by
  simp [Cursor.remaining, h.rest]

theorem offset_le (h : start.Passes read stop) : start.offset ≤ stop.offset := by
  have := h.offset
  omega

/-- A move over at least one character is a move over at least one byte. -/
theorem offset_lt (h : start.Passes read stop) (hread : read ≠ []) :
    start.offset < stop.offset := by
  have hpos := Text.byteLength_pos hread
  have := h.offset
  omega

/-- The characters between the cursors are the ones that were passed. -/
theorem text (h : start.Passes read stop) : (Span.mk start stop).text = read := by
  have hlen : start.remaining - stop.remaining = read.length := by
    have := h.remaining
    omega
  simp [Span.text, hlen, h.rest]

theorem isEmpty_iff (h : start.Passes read stop) :
    (Span.mk start stop).isEmpty = true ↔ read = [] := by
  have := h.remaining
  rw [← List.length_eq_zero_iff]
  simp only [Span.isEmpty, decide_eq_true_eq]
  omega

end Passes

namespace StandsIn

variable {line read : Text} {cur start stop : Cursor}

theorem atStart (line : Text) : (Cursor.start line).StandsIn line := ⟨[], Passes.refl _⟩

theorem move (h : start.StandsIn line) (hp : start.Passes read stop) : stop.StandsIn line := by
  obtain ⟨passed, hpassed⟩ := h
  exact ⟨passed ++ read, hpassed.trans hp⟩

/-- Cutting the line at the cursor's offset leaves what the cursor has before it. -/
theorem splitBytes (h : cur.StandsIn line) :
    ∃ passed, line = passed ++ cur.rest ∧ cur.offset = passed.byteLength ∧
      line.splitBytes? cur.offset = some (passed, cur.rest) := by
  obtain ⟨passed, hp⟩ := h
  have hline : line = passed ++ cur.rest := hp.rest
  have hoff : cur.offset = passed.byteLength := by simpa [Cursor.start] using hp.offset
  refine ⟨passed, hline, hoff, ?_⟩
  rw [hoff, hline]
  exact Text.splitBytes?_append _ _

/-- Two cursors of a line at the same offset are the same. -/
theorem eq_of_offset_eq (h : start.StandsIn line) (h' : stop.StandsIn line)
    (heq : start.offset = stop.offset) : start = stop := by
  obtain ⟨passed, hline, -, hcut⟩ := h.splitBytes
  obtain ⟨passed', hline', -, hcut'⟩ := h'.splitBytes
  have hboth : (passed, start.rest) = (passed', stop.rest) := by
    rw [heq, hcut'] at hcut
    exact (Option.some.inj hcut).symm
  obtain ⟨hpassed, hrest⟩ := Prod.mk.inj hboth
  obtain ⟨read, hp⟩ := h
  obtain ⟨read', hp'⟩ := h'
  have hread : read = read' := by
    have e := hp.rest.symm.trans hp'.rest
    rw [hrest] at e
    exact List.append_cancel_right e
  have hbefore : start.before = stop.before := by rw [hp.before, hp'.before, hread]
  cases start
  cases stop
  simp_all

theorem between (passed rest : Text) : (Cursor.between passed rest).StandsIn (passed ++ rest) := by
  refine ⟨passed, rfl, ?_, ?_⟩
  · simp [Cursor.start, Cursor.between]
  · simp [Cursor.start, Cursor.between]

/-- Cursors before characters that share a byte of the line are the same. -/
theorem eq_of_shared_byte {c d : Char} {more later : Text} {i : Nat} (h : start.StandsIn line)
    (h' : stop.StandsIn line) (hrest : start.rest = c :: more) (hrest' : stop.rest = d :: later)
    (hc : start.offset ≤ i ∧ i < start.offset + c.utf8Size)
    (hd : stop.offset ≤ i ∧ i < stop.offset + d.utf8Size) : start = stop := by
  obtain ⟨passed, hline, hoff, -⟩ := h.splitBytes
  obtain ⟨passed', hline', hoff', -⟩ := h'.splitBytes
  rw [hrest] at hline
  rw [hline', hrest'] at hline
  refine h.eq_of_offset_eq h' ?_
  -- If one of them stood further on, the character before the other would end before byte `i`.
  rcases List.append_eq_append_iff.mp hline with ⟨between, hpassed, htail⟩ | ⟨between, hpassed, htail⟩
  · cases between with
    | nil => rw [hoff, hoff', hpassed, List.append_nil]
    | cons e between =>
        obtain ⟨rfl, -⟩ := List.cons.inj htail
        rw [hpassed, Text.byteLength_append, Text.byteLength_cons] at hoff
        omega
  · cases between with
    | nil => rw [hoff, hoff', hpassed, List.append_nil]
    | cons e between =>
        obtain ⟨rfl, -⟩ := List.cons.inj htail
        rw [hpassed, Text.byteLength_append, Text.byteLength_cons] at hoff'
        omega

theorem offset_add (h : cur.StandsIn line) :
    cur.offset + cur.rest.byteLength = line.byteLength := by
  obtain ⟨passed, hline, hoff, -⟩ := h.splitBytes
  rw [hline, Text.byteLength_append, hoff]

/-- A cursor with characters to come stands before the end of the line. -/
theorem offset_lt (h : cur.StandsIn line) (hrest : cur.rest ≠ []) :
    cur.offset < line.byteLength := by
  have hpos := Text.byteLength_pos hrest
  have := h.offset_add
  omega

/-- What was passed on the way from one cursor to another is the slice between their offsets. -/
theorem slice (h : start.StandsIn line) (hp : start.Passes read stop) :
    line.slice? start.offset stop.offset = some read := by
  obtain ⟨passed, hline, hoff, -⟩ := h.splitBytes
  refine Text.slice?_eq_some_iff.mpr ⟨passed, stop.rest, ?_, hoff.symm, hp.offset.symm⟩
  rw [hline, hp.rest]

end StandsIn

end Cursor

end LineLexer
