/-
Where a match can begin, and where the parts of a row meet.

Most rules fail at a cursor because of the very next character: `starts` collects the
characters a reading can begin with, and a node that must read something reads nothing
where the next character is not among them.

When a row reads a run of characters of one kind first, and goes on with characters of
another, the text itself says where its first part stops: at the end of the run
(`Reads.split`).  Preference and backtracking do not come into it.
-/
import LineLexer.Proofs.Pattern.Alphabet
import LineLexer.Proofs.Pattern.Width

namespace LineLexer

/-! ### Runs of one kind -/

section Run

variable {α : Type} {p : α → Bool} {run run' tail tail' : List α}

theorem takeWhile_run (hrun : ∀ x ∈ run, p x = true) (htail : ∀ x ∈ tail.head?, p x = false) :
    (run ++ tail).takeWhile p = run := by
  rw [List.takeWhile_append_of_pos hrun]
  cases tail with
  | nil => simp
  | cons x tail => simp [htail x rfl]

theorem dropWhile_run (hrun : ∀ x ∈ run, p x = true) (htail : ∀ x ∈ tail.head?, p x = false) :
    (run ++ tail).dropWhile p = tail := by
  rw [List.dropWhile_append_of_pos hrun]
  cases tail with
  | nil => rfl
  | cons x tail => simp [htail x rfl]

/-- What follows the run at the front of a list does not go on with it. -/
theorem not_of_mem_head?_dropWhile {x : α} (h : x ∈ (run.dropWhile p).head?) : p x = false := by
  have hnot := List.head?_dropWhile_not p run
  rw [Option.mem_def.mp h] at hnot
  exact hnot

/-- A list has only one longest run at its front. -/
theorem run_unique (hrun : ∀ x ∈ run, p x = true) (hrun' : ∀ x ∈ run', p x = true)
    (htail : ∀ x ∈ tail.head?, p x = false) (htail' : ∀ x ∈ tail'.head?, p x = false)
    (h : run ++ tail = run' ++ tail') : run = run' ∧ tail = tail' := by
  obtain rfl : run = run' := by
    rw [← takeWhile_run hrun htail, h, takeWhile_run hrun' htail']
  exact ⟨rfl, List.append_cancel_left h⟩

end Run

/-! ### Sets side by side -/

namespace CharSet

/-- Every character of `s` belongs to `t`. -/
def Within (s t : CharSet) : Prop := (s.diff t).ranges = []

/-- No character belongs to both sets. -/
def Apart (s t : CharSet) : Prop := (s.inter t).ranges = []

instance (s t : CharSet) : Decidable (s.Within t) := inferInstanceAs (Decidable (_ = _))

instance (s t : CharSet) : Decidable (s.Apart t) := inferInstanceAs (Decidable (_ = _))

variable {s t : CharSet} {c : Char}

theorem contains_of_ranges_eq_nil (h : s.ranges = []) (c : Char) : s.contains c = false := by
  simp [contains, containsCode, h]

theorem Within.contains (h : s.Within t) (hc : s.contains c = true) : t.contains c = true := by
  have hdiff := contains_of_ranges_eq_nil h c
  rw [contains_diff, hc] at hdiff
  simpa using hdiff

theorem Within.not_contains (h : s.Within t) (hc : t.contains c = false) :
    s.contains c = false := by
  cases hs : s.contains c with
  | false => rfl
  | true =>
      rw [h.contains hs] at hc
      exact hc

theorem Apart.contains (h : s.Apart t) (hc : s.contains c = true) : t.contains c = false := by
  have hinter := contains_of_ranges_eq_nil h c
  rw [contains_inter, hc] at hinter
  simpa using hinter

theorem Apart.contains_left (h : s.Apart t) (hc : t.contains c = true) : s.contains c = false := by
  have hinter := contains_of_ranges_eq_nil h c
  rw [contains_inter, hc] at hinter
  simpa using hinter

end CharSet

/-! ### The same place, by the text on either side -/

namespace Cursor

variable {passed read rest : Text} {stop : Cursor}

@[simp] theorem rest_between (passed rest : Text) : (between passed rest).rest = rest := rfl

@[simp] theorem before_between (passed rest : Text) :
    (between passed rest).before = passed.getLast? := rfl

@[simp] theorem offset_between (passed rest : Text) :
    (between passed rest).offset = passed.byteLength := rfl

theorem passes_between (passed read rest : Text) :
    (between passed (read ++ rest)).Passes read (between (passed ++ read) rest) := by
  refine ⟨rfl, by simp, ?_⟩
  simp [List.getLast?_append]

/-- A move over a text leads to the cursor after that text. -/
theorem Passes.eq_between (h : (between passed (read ++ rest)).Passes read stop) :
    stop = between (passed ++ read) rest := by
  obtain ⟨hrest, hoffset, hbefore⟩ := h
  obtain ⟨hrest', hoffset', hbefore'⟩ := passes_between passed read rest
  have hsame : stop.rest = rest := (List.append_cancel_left hrest).symm
  cases stop
  simp_all [between]

/-- What comes after a move from such a cursor is still to come. -/
theorem Passes.exists_between (h : (between passed rest).Passes read stop) :
    ∃ tail, rest = read ++ tail ∧ stop = between (passed ++ read) tail := by
  have hrest : rest = read ++ stop.rest := h.rest
  rw [hrest] at h
  exact ⟨stop.rest, hrest, h.eq_between⟩

/-- A cursor of a line stands between what was passed of it and the rest. -/
theorem StandsIn.exists_between {cur : Cursor} {line : Text} (h : cur.StandsIn line) :
    ∃ passed tail, line = passed ++ tail ∧ cur = Cursor.between passed tail := by
  obtain ⟨passed, hpassed⟩ := h
  have hpasses : (Cursor.between [] line).Passes passed cur := hpassed
  obtain ⟨tail, hline, hcur⟩ := hpasses.exists_between
  exact ⟨passed, tail, hline, hcur⟩

theorem pass_between (passed : Text) (c : Char) (rest : Text) :
    (between passed (c :: rest)).pass c rest = between (passed ++ [c]) rest :=
  Passes.eq_between (Passes.pass rfl)

end Cursor

/-- The stretch over `read`, between what was passed and what is left. -/
def Span.across (passed read rest : Text) : Span :=
  ⟨.between passed (read ++ rest), .between (passed ++ read) rest⟩

@[simp] theorem Span.start_across (passed read rest : Text) :
    (across passed read rest).start = .between passed (read ++ rest) := rfl

@[simp] theorem Span.text_across (passed read rest : Text) :
    (across passed read rest).text = read :=
  (Cursor.passes_between passed read rest).text

@[simp] theorem Span.isEmpty_across (passed read rest : Text) :
    (across passed read rest).isEmpty = read.isEmpty := by
  rw [Bool.eq_iff_iff, across, (Cursor.passes_between passed read rest).isEmpty_iff,
    List.isEmpty_iff]

namespace Node

variable {node first second : Node} {start stop : Cursor} {read : Text} {closed : Captures}

/-! ### First characters -/

/-- Nothing rules out that the node reads nothing. -/
def mayBeEmpty (node : Node) : Bool := node.minWidth.getD 0 == 0

/-- The characters a reading of the node can begin with. -/
def starts : Node → CharSet
  | empty | look _ => .empty
  | chars set => set
  | seq first second =>
    if first.mayBeEmpty then first.starts.union second.starts else first.starts
  | alt first second => first.starts.union second.starts
  | .repeat body _ _ _ | group _ body => body.starts

namespace Reads

theorem mayBeEmpty (h : node.Reads start [] closed stop) : node.mayBeEmpty = true := by
  cases hwidth : node.minWidth with
  | none => simp [Node.mayBeEmpty, hwidth]
  | some width =>
      have hle : width ≤ 0 := h.minWidth_le width hwidth
      simp [Node.mayBeEmpty, hwidth]
      omega

/-- **A reading begins with a character its node can begin with.** -/
theorem starts_contains (h : node.Reads start read closed stop) :
    ∀ c ∈ read.head?, node.starts.contains c = true := by
  induction h with
  | empty | look _ | done =>
      intro c hc
      simp at hc
  | chars _ hmem =>
      intro c hc
      obtain rfl := Option.some.inj hc
      exact hmem
  | @seq first second _ _ _ read more _ _ h _ ih ih' =>
      intro c hc
      cases read with
      | nil =>
          rw [Node.starts, if_pos h.mayBeEmpty, CharSet.contains_union, ih' c hc, Bool.or_true]
      | cons d read =>
          have hfirst := ih c hc
          rw [Node.starts]
          split
          · rw [CharSet.contains_union, hfirst, Bool.true_or]
          · exact hfirst
  | altFirst _ ih =>
      intro c hc
      rw [Node.starts, CharSet.contains_union, ih c hc, Bool.true_or]
  | altSecond _ ih =>
      intro c hc
      rw [Node.starts, CharSet.contains_union, ih c hc, Bool.or_true]
  | @round _ _ _ _ _ _ _ read _ _ _ _ _ _ ih ih' =>
      intro c hc
      cases read with
      | nil => exact ih' c hc
      | cons d read => exact ih c hc
  | group _ ih => exact ih

/-- The next character is one the node can begin with, if the node must read something. -/
theorem exists_rest (h : node.Reads start read closed stop) (hne : node.mayBeEmpty = false) :
    ∃ c more, read = c :: more ∧ start.rest = c :: (more ++ stop.rest) ∧
      node.starts.contains c = true := by
  cases read with
  | nil =>
      have hempty := h.mayBeEmpty
      rw [hne] at hempty
      exact absurd hempty (by decide)
  | cons c more => exact ⟨c, more, rfl, h.passes.rest, h.starts_contains c rfl⟩

end Reads

/-- The search of a node that has no reading fails, whatever is to follow. -/
theorem run_eq_none_of_not_reads {α : Type} {k : Cursor → Captures → Option α} {caps : Captures}
    (h : ∀ read closed stop, ¬ node.Reads start read closed stop) :
    node.run k start caps = none := by
  rw [Option.eq_none_iff_forall_ne_some]
  intro result hresult
  obtain ⟨read, closed, stop, hread, -⟩ := node.run_reads _ _ _ _ hresult
  exact h read closed stop hread

/-- A node that must read something has no reading before a character it cannot begin with. -/
theorem not_reads_of_starts (hne : node.mayBeEmpty = false)
    (hstarts : ∀ c ∈ start.rest.head?, node.starts.contains c = false) :
    ¬ node.Reads start read closed stop := by
  intro h
  obtain ⟨c, _, -, hrest, hc⟩ := h.exists_rest hne
  rw [hstarts c (by rw [hrest]; rfl)] at hc
  exact Bool.noConfusion hc

theorem run_eq_none_of_starts {α : Type} {k : Cursor → Captures → Option α} {caps : Captures}
    (hne : node.mayBeEmpty = false)
    (hstarts : ∀ c ∈ start.rest.head?, node.starts.contains c = false) :
    node.run k start caps = none :=
  run_eq_none_of_not_reads fun _ _ _ => not_reads_of_starts hne hstarts

theorem matchAt?_eq_none_of_not_reads
    (h : ∀ read closed stop, ¬ node.Reads start read closed stop) : node.matchAt? start = none :=
  run_eq_none_of_not_reads h

theorem matchAt?_eq_none_of_starts (hne : node.mayBeEmpty = false)
    (hstarts : ∀ c ∈ start.rest.head?, node.starts.contains c = false) :
    node.matchAt? start = none :=
  run_eq_none_of_starts hne hstarts

/-- A match that must start its line does not start later. -/
theorem matchAt?_eq_none_of_before {cur : Cursor} (hbefore : cur.before ≠ none) :
    (seq (look .textStart) node).matchAt? cur = none := by
  have hlook : Look.textStart.holds cur = false := by
    simpa [Look.holds, Option.isSome_iff_ne_none] using hbefore
  simp [matchAt?, run, hlook]

/-! ### Rows -/

namespace Reads

variable {passed w tail : Text} (kind : CharSet)

/-- A part that reads characters of one kind reads only such characters. -/
theorem contains_of_within (h : node.Reads start read closed stop)
    (hsets : ∀ set ∈ node.sets, set.Within kind) : ∀ c ∈ read, kind.contains c = true := by
  intro c hc
  obtain ⟨set, hset, hmem⟩ := h.exists_set c hc
  exact (hsets set hset).contains hmem

/-- **A row meets where the run ends.**  If the first part reads only characters of one kind and the
second goes on with another, the first has read the run of that kind. -/
theorem split (h : (Node.seq first second).Reads (.between passed (w ++ tail)) read closed stop)
    (hfirst : ∀ set ∈ first.sets, set.Within kind) (hne : second.mayBeEmpty = false)
    (hapart : second.starts.Apart kind) (hw : ∀ c ∈ w, kind.contains c = true)
    (htail : ∀ c ∈ tail.head?, kind.contains c = false) :
    ∃ more earlier later,
      first.Reads (.between passed (w ++ tail)) w earlier (.between (passed ++ w) tail) ∧
        second.Reads (.between (passed ++ w) tail) more later stop ∧
        closed = later ++ earlier := by
  cases h with
  | @seq _ _ _ mid _ run more earlier later h h' =>
      obtain ⟨c, rest, -, hmid, hc⟩ := h'.exists_rest hne
      have hrun := h.passes.rest
      rw [Cursor.rest_between] at hrun
      obtain ⟨rfl, -⟩ := run_unique hw (h.contains_of_within kind hfirst) htail
        (by rw [hmid]; rintro d ⟨⟩; exact hapart.contains hc) hrun
      obtain rfl := h.passes.eq_between
      exact ⟨more, earlier, later, h, h', rfl⟩

/-- A part that must read something of one kind reads a single character where only one is of that
kind. -/
theorem split_single {c d : Char} {rest : Text}
    (h : (Node.seq first second).Reads (.between passed (c :: d :: rest)) read closed stop)
    (hfirst : ∀ set ∈ first.sets, set.Within kind) (hne : first.mayBeEmpty = false)
    (hd : kind.contains d = false) :
    ∃ more earlier later,
      first.Reads (.between passed (c :: d :: rest)) [c] earlier
          (.between (passed ++ [c]) (d :: rest)) ∧
        second.Reads (.between (passed ++ [c]) (d :: rest)) more later stop ∧
        closed = later ++ earlier := by
  cases h with
  | @seq _ _ _ mid _ run more earlier later h h' =>
      obtain ⟨c', run', hread, hrest, -⟩ := h.exists_rest hne
      obtain ⟨rfl, htail⟩ : c = c' ∧ d :: rest = run' ++ mid.rest := List.cons.inj hrest
      have hone : run' = [] := by
        cases run' with
        | nil => rfl
        | cons d' run' =>
            obtain ⟨rfl, -⟩ : d = d' ∧ rest = run' ++ mid.rest := List.cons.inj htail
            have hmem := h.contains_of_within kind hfirst d (by simp [hread])
            rw [hd] at hmem
            exact absurd hmem (by decide)
      subst hread hone
      have hpasses : (Cursor.between passed ([c] ++ d :: rest)).Passes [c] mid := h.passes
      obtain rfl := hpasses.eq_between
      exact ⟨more, earlier, later, h, h', rfl⟩

end Reads

end Node

end LineLexer
