/-
Which printed value a name is given.

A run prints ` name= value` for each output, one line each.  The search for a name looks
at every place of a line, and nothing says that the name it finds has to start there: `b`
is found inside ` ab= 1` as well as at the start of ` b= 2`.  On such a line the name is
found exactly if the printed name ends with it (`lineCandidate?_line`), so an output is
given the value of the first line whose name ends with its own (`lookForScalar_printed`).

That is its own value if no name before it ends with it, and the value of another variable
if one does.
-/
import LineLexer.Gibiane.Results
import LineLexer.Proofs.Gibiane.ConsoleLines
import LineLexer.Proofs.Numeral.Characters

namespace LineLexer.Gibiane

/-- A value that a run printed under a name. -/
structure Printed where
  /-- The name. -/
  name : Text
  /-- The number as it was printed. -/
  numeral : Text
  /-- The number it stands for. -/
  value : Binary64
  name_isWord : name.isWord = true
  isNumeralChar_of_mem : ∀ c ∈ numeral, isNumeralChar c = true
  read?_numeral : Binary64.read? numeral = some value

/-- The name ends with the other, in any case of their letters. -/
def EndsWith (name other : Text) : Prop := other.map Char.toLower <:+ name.map Char.toLower

instance (name other : Text) : Decidable (EndsWith name other) :=
  inferInstanceAs (Decidable (_ <:+ _))

namespace Printed

/-- The line on which it was printed. -/
def line (p : Printed) : Text := ' ' :: (p.name ++ '=' :: ' ' :: p.numeral)

/-- The value printed under a name. -/
def ofNumeral (name numeral : Text) (hname : name.isWord = true)
    (hnumeral : ∀ c ∈ numeral, isNumeralChar c = true)
    (hread : (Binary64.read? numeral).isSome = true) : Printed :=
  ⟨name, numeral, (Binary64.read? numeral).get hread, hname, hnumeral, Binary64.read?_get hread⟩

/-- The output it is the value of. -/
def output (p : Printed) : Output := ⟨p.name, .console⟩

theorem numeral_ne_nil (p : Printed) : p.numeral ≠ [] := by
  intro hnil
  have hread := p.read?_numeral
  rw [hnil, Binary64.read?_nil] at hread
  exact absurd hread (by simp)

end Printed

/-! ### One line -/

theorem isNumeralChar_iff {c : Char} : isNumeralChar c = true ↔
    (48 ≤ c.toNat ∧ c.toNat ≤ 57) ∨ c.toNat = 46 ∨ c.toNat = 43 ∨ c.toNat = 45 ∨
      c.toNat = 101 ∨ c.toNat = 69 := by
  have hiff : ∀ d : Char, c = d ↔ c.toNat = d.toNat := fun d => Char.toNat_inj.symm
  simp only [isNumeralChar, Bool.or_eq_true, isDigit_iff, beq_iff_eq, hiff]
  show (((((48 ≤ c.toNat ∧ c.toNat ≤ 57) ∨ c.toNat = 46) ∨ c.toNat = 43) ∨ c.toNat = 45) ∨
    c.toNat = 101) ∨ c.toNat = 69 ↔ _
  omega

/-- A text has one cut at a character it holds once. -/
theorem eq_of_append_cons_eq {x : Char} {before after head tail : Text} (hbefore : x ∉ before)
    (hafter : x ∉ after) (h : before ++ x :: after = head ++ x :: tail) :
    head = before ∧ tail = after := by
  rcases List.append_eq_append_iff.mp h with ⟨more, hhead, htail⟩ | ⟨more, hbefore', htail⟩
  · cases more with
    | nil =>
        obtain ⟨-, rfl⟩ := List.cons.inj htail
        exact ⟨by simpa using hhead, rfl⟩
    | cons y more =>
        obtain ⟨-, rfl⟩ := List.cons.inj htail
        exact absurd (by simp) hafter
  · cases more with
    | nil =>
        obtain ⟨-, rfl⟩ := List.cons.inj htail
        exact ⟨by simpa using hbefore'.symm, rfl⟩
    | cons y more =>
        obtain ⟨rfl, -⟩ := List.cons.inj htail
        exact absurd (by rw [hbefore']; simp) hbefore

/-- The only equals sign of a text stands behind the name exactly if the text begins with the
name. -/
theorem afterName?_append {name before after : Text} (hbefore : '=' ∉ before)
    (hafter : '=' ∉ after) :
    afterName? name (before ++ '=' :: after) =
      if Text.eqIgnoreCase before name then some after else none := by
  by_cases heq : Text.eqIgnoreCase before name = true
  · have hlen := length_eq_of_eqIgnoreCase heq
    rw [if_pos heq, afterName?, ← hlen, List.drop_left, List.take_left]
    simp [heq]
  · rw [if_neg heq, afterName?]
    split
    · rename_i rest hdrop
      have hcut : before ++ '=' :: after =
          (before ++ '=' :: after).take name.length ++ '=' :: rest := by
        rw [← hdrop, List.take_append_drop]
      obtain ⟨htake, -⟩ := eq_of_append_cons_eq hbefore hafter hcut
      rw [htake, if_neg heq]
    · rfl

/-- Without an equals sign there is no value. -/
theorem lineCandidate?_eq_none {name t : Text} (h : '=' ∉ t) : lineCandidate? name t = none := by
  induction t with
  | nil => rfl
  | cons c t ih =>
      have hnone : afterName? name (c :: t) = none := by
        rw [afterName?]
        split
        · rename_i rest hdrop
          refine absurd ?_ h
          exact List.mem_of_mem_drop (by rw [hdrop]; exact List.mem_cons_self)
        · rfl
      rw [lineCandidate?, candidate?, hnone]
      exact ih fun hmem => h (List.mem_cons_of_mem _ hmem)

/-- A name is found before the only equals sign of a text exactly if what stands before it ends with
the name. -/
theorem lineCandidate?_append {name before after : Text} (hname : name ≠ [])
    (hbefore : '=' ∉ before) (hafter : '=' ∉ after)
    (hnumeral : (Text.trimStart after).takeWhile isNumeralChar ≠ []) :
    lineCandidate? name (before ++ '=' :: after) =
      if EndsWith before name then some ((Text.trimStart after).takeWhile isNumeralChar)
      else none := by
  have hcandidate : ∀ head : Text, '=' ∉ head → candidate? name (head ++ '=' :: after) =
      if Text.eqIgnoreCase head name then
        some ((Text.trimStart after).takeWhile isNumeralChar) else none := by
    intro head hhead
    rw [candidate?, afterName?_append hhead hafter]
    split
    · rw [Option.bind_some]
      split
      · contradiction
      · rfl
    · rfl
  induction before with
  | nil =>
      have hempty : ¬ Text.eqIgnoreCase [] name = true := by
        intro h
        exact hname (List.length_eq_zero_iff.mp (length_eq_of_eqIgnoreCase h).symm)
      have hends : ¬ EndsWith [] name := by
        intro h
        exact hname (by simpa using List.suffix_nil.mp h)
      have hfirst := hcandidate [] hbefore
      rw [if_neg hempty] at hfirst
      rw [if_neg hends, List.nil_append, lineCandidate?, ← List.nil_append ('=' :: after), hfirst]
      exact lineCandidate?_eq_none hafter
  | cons c before ih =>
      have hrest : '=' ∉ before := fun hmem => hbefore (List.mem_cons_of_mem _ hmem)
      have hends : EndsWith (c :: before) name ↔
          Text.eqIgnoreCase (c :: before) name = true ∨ EndsWith before name := by
        rw [EndsWith, List.map_cons, List.suffix_cons_iff, Text.eqIgnoreCase, beq_iff_eq,
          List.map_cons, EndsWith, eq_comm]
      have hfirst := hcandidate (c :: before) hbefore
      rw [List.cons_append] at hfirst ⊢
      rw [lineCandidate?, hfirst]
      by_cases heq : Text.eqIgnoreCase (c :: before) name = true
      · rw [if_pos heq, if_pos (hends.mpr (Or.inl heq))]
      · rw [if_neg heq]
        show lineCandidate? name (before ++ '=' :: after) = _
        rw [ih hrest]
        by_cases hlater : EndsWith before name
        · rw [if_pos hlater, if_pos (hends.mpr (Or.inr hlater))]
        · rw [if_neg hlater, if_neg (fun h => (hends.mp h).elim heq hlater)]

/-- A number after blanks is read without them. -/
theorem trimStart_append_numeral {blanks numeral : Text} (hblanks : blanks.allBlank = true)
    (hnumeral : ∀ c ∈ numeral, isNumeralChar c = true) :
    (Text.trimStart (blanks ++ numeral)).takeWhile isNumeralChar = numeral := by
  have hstart : Text.trimStart (blanks ++ numeral) = numeral := by
    rw [Text.trimStart, List.dropWhile_append_of_pos (List.all_eq_true.mp hblanks)]
    cases numeral with
    | nil => rfl
    | cons c numeral =>
        have hc := isNumeralChar_iff.mp (hnumeral c List.mem_cons_self)
        exact Text.trimStart_of_head (isBlank_of_visible (by omega) (by omega))
  rw [hstart]
  exact List.takeWhile_eq_self_iff.mpr hnumeral

namespace Printed

/-- No character of a word is punctuation of a printed line. -/
theorem not_mem_name (p : Printed) {c : Char} (hc : isWordChar c = false) : c ∉ p.name :=
  Text.not_mem_of_isWord p.name_isWord hc

theorem not_mem_numeral (p : Printed) {c : Char} (hc : isNumeralChar c = false) : c ∉ p.numeral :=
  Text.not_mem_of_forall p.isNumeralChar_of_mem hc

/-- The whole of a printed line is searched. -/
theorem codeOf?_line (p : Printed) : codeOf? p.line = some p.line := by
  have hall : ∀ c ∈ p.line, c ≠ ';' := by
    rintro c hc rfl
    have hname := p.not_mem_name (c := ';') (by decide)
    have hnumeral := p.not_mem_numeral (c := ';') (by decide)
    simp [line, hname, hnumeral] at hc
  rw [codeOf?, if_neg (by simp [line]), List.takeWhile_eq_self_iff.mpr (by simpa using hall)]

theorem trimStart_numeral (p : Printed) :
    (Text.trimStart (' ' :: p.numeral)).takeWhile isNumeralChar = p.numeral :=
  trimStart_append_numeral (by decide : Text.allBlank [' '] = true) p.isNumeralChar_of_mem

/-- **A name is found on a printed line exactly if the name printed there ends with it.** -/
theorem lineCandidate?_line (p : Printed) {name : Text} (hname : name.isWord = true) :
    lineCandidate? name p.line = if EndsWith p.name name then some p.numeral else none := by
  obtain ⟨hne, hword⟩ := Text.isWord_iff.mp hname
  have hends : EndsWith (' ' :: p.name) name ↔ EndsWith p.name name := by
    rw [EndsWith, List.map_cons, List.suffix_cons_iff, EndsWith]
    constructor
    · rintro (heq | h)
      · -- A name that is found from the blank on would begin with it.
        cases name with
        | nil => exact absurd rfl hne
        | cons c rest =>
            have hc := isWordChar_iff.mp (hword c List.mem_cons_self)
            have hlower := congrArg Char.toNat (List.cons.inj heq).1
            have hblank : ' '.toLower.toNat = 32 := by decide
            rw [toNat_toLower, hblank] at hlower
            split at hlower <;> omega
      · exact h
    · exact Or.inr
  have hbefore : '=' ∉ ' ' :: p.name := by simpa using p.not_mem_name (c := '=') (by decide)
  have hafter : '=' ∉ ' ' :: p.numeral := by simpa using p.not_mem_numeral (c := '=') (by decide)
  have h := lineCandidate?_append hne hbefore hafter
    (by rw [p.trimStart_numeral]; exact p.numeral_ne_nil)
  rw [p.trimStart_numeral, List.cons_append] at h
  rw [line, h]
  exact if_congr hends rfl rfl

end Printed

/-! ### All lines -/

/-- The printed value on whose line a name is found first. -/
def firstEnding (ps : List Printed) (p : Printed) : Printed :=
  (ps.find? fun q => EndsWith q.name p.name).getD p

theorem EndsWith.refl (name : Text) : EndsWith name name := List.suffix_rfl

/-- The first line with a name at its end decides the value of the name. -/
theorem lookForScalar_printed {ps : List Printed} {out : Text}
    (hlines : out.bareLines = ps.map Printed.line) {p : Printed} (hp : p ∈ ps) :
    lookForScalar out p.name = some (firstEnding ps p).value := by
  have hne : p.name ≠ [] := (Text.isWord_iff.mp p.name_isWord).1
  have hline : ∀ q : Printed, lineValue? p.name q.line =
      if EndsWith q.name p.name then some q.value else none := by
    intro q
    rw [lineValue?, q.codeOf?_line, Option.bind_some, q.lineCandidate?_line p.name_isWord]
    split
    · exact q.read?_numeral
    · rfl
  have hfind : ps.findSome? (fun q => if EndsWith q.name p.name then some q.value else none) =
      (ps.find? fun q => EndsWith q.name p.name).map (·.value) := by
    rw [List.find?_eq_findSome?_guard, List.map_findSome?]
    congr 1
    funext q
    by_cases hends : EndsWith q.name p.name <;> simp [Option.guard, hends]
  have hsome : (ps.find? fun q => EndsWith q.name p.name).isSome = true := by
    rw [List.find?_isSome]
    exact ⟨p, hp, by simpa using EndsWith.refl p.name⟩
  obtain ⟨q, hq⟩ := Option.isSome_iff_exists.mp hsome
  rw [lookForScalar_eq_findSome? hne, hlines, List.findSome?_map]
  simp only [Function.comp_def, hline, hfind]
  rw [firstEnding, hq]
  rfl

/-- If no earlier name ends with the name of a line, it is found on its own line. -/
theorem firstEnding_eq {earlier later : List Printed} {p : Printed}
    (h : ∀ q ∈ earlier, ¬ EndsWith q.name p.name) :
    firstEnding (earlier ++ p :: later) p = p := by
  have hnone : earlier.find? (fun q => EndsWith q.name p.name) = none := by
    rw [List.find?_eq_none]
    intro q hq
    simpa using h q hq
  rw [firstEnding, List.find?_append, hnone, Option.none_or,
    List.find?_cons_of_pos (by simpa using EndsWith.refl p.name)]
  rfl

/-- Outputs each of which has a value are all read, in order. -/
theorem readResults_map {α : Type} {run : Text → Entry} {items : List α} {output : α → Output}
    {value : α → OutputValue} (h : ∀ a ∈ items, outputValue? run (output a) = some (value a)) :
    readResults run (items.map output) = items.map fun a => ((output a).name, value a) := by
  induction items with
  | nil => rfl
  | cons a items ih =>
      have hfirst := h a List.mem_cons_self
      have hrest := ih fun b hb => h b (List.mem_cons_of_mem _ hb)
      rw [readResults] at hrest ⊢
      rw [List.map_cons, List.filterMap_cons, hfirst, List.map_cons, hrest]
      rfl

/-- **Which printed value each output is given.**  It is that of the first line whose name ends with
the name of the output, and so every output is given its own if no name ends with a later one. -/
theorem readResults_printed {ps : List Printed} {run : Text → Entry} {out : Text}
    (hfile : (run consoleFile).text? = some out) (hlines : out.bareLines = ps.map Printed.line) :
    readResults run (ps.map Printed.output) =
        ps.map (fun p => (p.name, .scalar (firstEnding ps p).value)) ∧
      ((ps.Pairwise fun p q => ¬ EndsWith p.name q.name) →
        readResults run (ps.map Printed.output) = ps.map fun p => (p.name, .scalar p.value)) := by
  have hvalue : ∀ p ∈ ps, outputValue? run p.output =
      some (.scalar (firstEnding ps p).value) := by
    intro p hp
    simp only [outputValue?, Printed.output, hfile, Option.map_some, consoleValue,
      lookForScalar_printed hlines hp]
  have hall : readResults run (ps.map Printed.output) =
      ps.map (fun p => (p.name, .scalar (firstEnding ps p).value)) := readResults_map hvalue
  refine ⟨hall, ?_⟩
  intro hapart
  rw [hall]
  refine List.map_congr_left ?_
  intro p hp
  obtain ⟨earlier, later, hsplit⟩ := List.append_of_mem hp
  rw [hsplit, List.pairwise_append] at hapart
  rw [hsplit, firstEnding_eq fun q hq => hapart.2.2 q hq p List.mem_cons_self]

/-- Two numbers under names neither of which ends with the other. -/
theorem readResults_force :
    ∃ (ps : List Printed) (run : Text → Entry) (out : Text),
      ps.map (·.name) = ["dep_P2".toList, "force".toList] ∧
        (run consoleFile).text? = some out ∧ out.bareLines = ps.map Printed.line ∧
        (ps.Pairwise fun p q => ¬ EndsWith p.name q.name) ∧
        readResults run (ps.map Printed.output) = ps.map fun p => (p.name, .scalar p.value) := by
  let ps : List Printed := [
    .ofNumeral "dep_P2".toList "-1.5E-03".toList (by decide) (List.all_eq_true.mp (by decide))
      (by decide +kernel),
    .ofNumeral "force".toList "2".toList (by decide) (List.all_eq_true.mp (by decide))
      (by decide +kernel)]
  have hlines : Text.bareLines " dep_P2= -1.5E-03\n force= 2\n".toList = ps.map Printed.line := by
    decide
  have hapart : ps.Pairwise fun p q => ¬ EndsWith p.name q.name := by decide
  exact ⟨ps, fun _ => .file (some " dep_P2= -1.5E-03\n force= 2\n".toList), _, rfl, rfl, hlines,
    hapart, (readResults_printed rfl hlines).2 hapart⟩

/-- The value of `ab` is printed before that of `b` and is given to both. -/
theorem readResults_swapped :
    ∃ (ps : List Printed) (run : Text → Entry) (out : Text),
      ps.map (·.name) = ["ab".toList, "b".toList] ∧
        (run consoleFile).text? = some out ∧ out.bareLines = ps.map Printed.line ∧
        (ps.Pairwise fun p q => ¬ Text.eqIgnoreCase p.name q.name = true) ∧
        readResults run (ps.map Printed.output) ≠ ps.map fun p => (p.name, .scalar p.value) := by
  let ps : List Printed := [
    .ofNumeral "ab".toList "1".toList (by decide) (List.all_eq_true.mp (by decide))
      (by decide +kernel),
    .ofNumeral "b".toList "2".toList (by decide) (List.all_eq_true.mp (by decide))
      (by decide +kernel)]
  have hdiffer : readResults (fun _ => .file (some " ab= 1\n b= 2\n".toList))
      (ps.map Printed.output) ≠ ps.map fun p => (p.name, .scalar p.value) := by decide +kernel
  exact ⟨ps, fun _ => .file (some " ab= 1\n b= 2\n".toList), _, rfl, rfl, by decide, by decide,
    hdiffer⟩

end LineLexer.Gibiane
