/-
The first number behind a name.

A name is searched for at every byte of a line, and what is found is cut out of the line by
byte offsets.  It stands there as a text, behind whole characters and with the sign after it
(`namedAt_iff`), so a cut never falls inside a character, and the search by bytes is the
search by characters (`lineCandidate?_eq`).

Behind each place there is a run of the characters of numbers, which may be empty and need
not be a number.  A line is asked for its first run that is not empty, and only then is it
asked whether that is a number: `e` is such a run, and a number further on in the same line
is not looked at.  So the value found is that of the first run that is a number where the
first line with a number has it first; otherwise the line is passed over
(`lookForScalar_searches`).
-/
import LineLexer.Proofs.Gibiane.ReadBack
import LineLexer.Proofs.Line.Shifted
import LineLexer.Proofs.Text.Boundaries
import LineLexer.Proofs.Text.Case

namespace LineLexer

/-- To slice a joined text in its second part is to slice that part. -/
theorem Text.slice?_add (s t : Text) (start stop : Nat) :
    (s ++ t).slice? (s.byteLength + start) (s.byteLength + stop) = t.slice? start stop := by
  unfold Text.slice?
  by_cases horder : start ≤ stop
  · rw [if_pos horder, if_pos (by omega), Text.splitBytes?_add, Option.bind_map,
      show s.byteLength + stop - (s.byteLength + start) = stop - start by omega]
    rfl
  · rw [if_neg horder, if_neg (by omega)]

namespace Gibiane

/-! ### Places of a name -/

/-- At this byte of a text there are the bytes of the name, up to the case of ASCII letters, and
after them that of the sign. -/
def NamedAt (name code : Text) (place : Nat) : Prop :=
  ((code.bytes.drop place).take name.byteLength).map lowerByte = name.bytes.map lowerByte ∧
    code.bytes[place + name.byteLength]? = some '='.toUInt8

instance (name code : Text) (place : Nat) : Decidable (NamedAt name code place) :=
  inferInstanceAs (Decidable (_ ∧ _))

/-- The places of the name in a text, in order. -/
def places (name code : Text) : List Nat :=
  (List.range code.byteLength).filter fun place => NamedAt name code place

/-- The run behind the name and the sign; none if the text cannot be cut there. -/
def runAt? (name code : Text) (place : Nat) : Option Text :=
  (code.slice? (place + name.byteLength + 1) code.byteLength).map runOf

/-- The runs behind the name, in order. -/
def runs (name code : Text) : List Text := (places name code).filterMap (runAt? name code)

/-- The parts of a text in which names are searched for. -/
def codes (text : Text) : List Text := text.lines.filterMap codeOf?

/-- The value of the first run that is a number. -/
def firstNumber? (text name : Text) : Option Binary64 :=
  ((codes text).flatMap (runs name)).findSome? Binary64.read?

variable {name code text : Text} {place : Nat}

/-- The name and the sign in small letters stand in the text in small letters. -/
theorem isPrefix_of_namedAt (h : NamedAt name code place) :
    Text.bytes (name.map Char.toLower ++ ['=']) <+:
      (Text.bytes (code.map Char.toLower)).drop place := by
  obtain ⟨hname, hsign⟩ := h
  have hlower : (Text.bytes (code.map Char.toLower))[place + name.byteLength]? =
      some '='.toUInt8 := by
    rw [Text.bytes_map_toLower, List.getElem?_map, hsign]
    rfl
  have htake : ((Text.bytes (code.map Char.toLower)).drop place).take (name.byteLength + 1) =
      Text.bytes (name.map Char.toLower ++ ['=']) := by
    rw [List.take_add_one, List.getElem?_drop, hlower, Text.bytes_append, Text.bytes_map_toLower,
      Text.bytes_map_toLower, ← List.map_drop, ← List.map_take, hname]
    rfl
  rw [← htake]
  exact List.take_prefix _ _

/-- **At a place of the name there are whole characters**: the name, in any case of its letters, and
the sign. -/
theorem namedAt_iff : NamedAt name code place ↔
    ∃ before key after, code = before ++ (key ++ '=' :: after) ∧ before.byteLength = place ∧
      Text.eqIgnoreCase key name = true := by
  constructor
  · intro h
    obtain ⟨before, rest, hcode, hplace⟩ :=
      Text.exists_of_isPrefix_drop (by simp) (isPrefix_of_namedAt h)
    obtain ⟨head, tail, rfl, rfl, htail⟩ := List.map_eq_append_iff.mp hcode
    rw [List.append_assoc] at htail
    obtain ⟨key, more, rfl, hkey, hmore⟩ := List.map_eq_append_iff.mp htail
    obtain ⟨c, after, rfl, hsign, -⟩ := List.map_eq_cons_iff.mp hmore
    have hc : c = '=' := by
      have hcode := congrArg Char.toNat hsign
      rw [toNat_toLower] at hcode
      apply Char.toNat_inj.mp
      have hequals : '='.toNat = 61 := rfl
      split at hcode <;> omega
    subst hc
    refine ⟨head, key, after, rfl, ?_, ?_⟩
    · rw [← hplace, Text.byteLength_map_toLower]
    · rw [Text.eqIgnoreCase, beq_iff_eq, hkey]
  · rintro ⟨before, key, after, rfl, rfl, hcase⟩
    have hlower : key.map Char.toLower = name.map Char.toLower := by
      simpa [Text.eqIgnoreCase] using hcase
    have hlength := (Text.sameLetters_iff.mpr hcase).byteLength
    have hbytes : Text.bytes (before ++ (key ++ '=' :: after)) =
        before.bytes ++ (key.bytes ++ Text.bytes ('=' :: after)) := by
      rw [Text.bytes_append, Text.bytes_append]
    constructor
    · rw [hbytes, ← Text.length_bytes before, List.drop_left, ← hlength,
        ← Text.length_bytes key, List.take_left, ← Text.bytes_map_toLower, hlower,
        Text.bytes_map_toLower]
    · rw [hbytes, ← List.append_assoc, ← hlength, ← Text.length_bytes, ← Text.length_bytes,
        ← List.length_append, List.getElem?_append_right (Nat.le_refl _), Nat.sub_self]
      rfl

/-- The run is that of the characters behind the sign. -/
theorem runAt?_of_key {before key after : Text} (hcase : Text.eqIgnoreCase key name = true) :
    runAt? name (before ++ (key ++ '=' :: after)) before.byteLength = some (runOf after) := by
  have hlength := (Text.sameLetters_iff.mpr hcase).byteLength
  have hsign : '='.utf8Size = 1 := rfl
  rw [runAt?, Option.map_eq_some_iff]
  refine ⟨after, Text.slice?_eq_some_iff.mpr ⟨before ++ (key ++ ['=']), [], ?_, ?_, ?_⟩, rfl⟩
  · simp
  · simp only [Text.byteLength_append, Text.byteLength_cons, Text.byteLength_nil, hsign]
    omega
  · simp only [Text.byteLength_append, Text.byteLength_cons, hsign]
    omega

/-- **No cut falls inside a character.** -/
theorem exists_runAt? (h : NamedAt name code place) : ∃ run, runAt? name code place = some run := by
  obtain ⟨before, key, after, rfl, rfl, hcase⟩ := namedAt_iff.mp h
  exact ⟨runOf after, runAt?_of_key hcase⟩

/-! ### The search by characters -/

/-- At the front of a text the name is found by its characters. -/
theorem namedAt_zero_iff : NamedAt name code 0 ↔ ∃ after, afterName? name code = some after := by
  rw [namedAt_iff]
  constructor
  · rintro ⟨before, key, after, rfl, hplace, hcase⟩
    obtain rfl := Text.byteLength_eq_zero.mp hplace
    exact ⟨after, afterName?_eq_some_iff.mpr ⟨key, rfl, hcase⟩⟩
  · rintro ⟨after, hafter⟩
    obtain ⟨key, rfl, hcase⟩ := afterName?_eq_some_iff.mp hafter
    exact ⟨[], key, after, rfl, rfl, hcase⟩

/-- Inside a character there is no name. -/
theorem not_namedAt_inside {c : Char} (hpos : 0 < place) (hplace : place < c.utf8Size) :
    ¬ NamedAt name (c :: code) place := by
  intro h
  obtain ⟨before, key, after, hcode, rfl, -⟩ := namedAt_iff.mp h
  cases before with
  | nil => exact absurd hpos (by simp)
  | cons d before =>
      obtain ⟨rfl, -⟩ := List.cons.inj hcode
      rw [Text.byteLength_cons] at hplace
      omega

/-- Behind a character the places are those of the text that follows it. -/
theorem namedAt_add_iff {c : Char} :
    NamedAt name (c :: code) (c.utf8Size + place) ↔ NamedAt name code place := by
  unfold NamedAt
  rw [Text.bytes_cons, Nat.add_assoc, ← String.length_utf8EncodeChar, List.drop_length_add_append,
    List.getElem?_append_right (Nat.le_add_right _ _), Nat.add_sub_cancel_left]

theorem runAt?_add {c : Char} :
    runAt? name (c :: code) (c.utf8Size + place) = runAt? name code place := by
  unfold runAt?
  have hslice := Text.slice?_add [c] code (place + name.byteLength + 1) code.byteLength
  rw [show Text.byteLength [c] = c.utf8Size from rfl, List.singleton_append] at hslice
  rw [← hslice, Text.byteLength_cons]
  congr 2
  omega

theorem places_cons (c : Char) : places name (c :: code) =
    (if NamedAt name (c :: code) 0 then [0] else []) ++
      (places name code).map (c.utf8Size + ·) := by
  obtain ⟨width, hwidth⟩ : ∃ width, c.utf8Size = 1 + width :=
    ⟨c.utf8Size - 1, by have := c.utf8Size_pos; omega⟩
  have hinside : ((List.range width).map (1 + ·)).filter
      (fun place => NamedAt name (c :: code) place) = [] := by
    rw [List.filter_eq_nil_iff]
    intro place hplace
    obtain ⟨i, hi, rfl⟩ := List.mem_map.mp hplace
    rw [List.mem_range] at hi
    rw [decide_eq_true_iff]
    exact not_namedAt_inside (by omega) (by omega)
  have hfirst : (List.range c.utf8Size).filter (fun place => NamedAt name (c :: code) place) =
      if NamedAt name (c :: code) 0 then [0] else [] := by
    rw [hwidth, List.range_add, List.filter_append, hinside, List.append_nil]
    show List.filter _ [0] = _
    by_cases hnamed : NamedAt name (c :: code) 0
    · simp [hnamed]
    · simp [hnamed]
  unfold places
  rw [Text.byteLength_cons, List.range_add, List.filter_append, hfirst, List.filter_map]
  congr 2
  apply List.filter_congr
  intro place _
  rw [Function.comp_apply, decide_eq_decide]
  exact namedAt_add_iff

theorem runs_cons (c : Char) : runs name (c :: code) =
    ((afterName? name (c :: code)).map runOf).toList ++ runs name code := by
  have hfirst : (if NamedAt name (c :: code) 0 then [0] else []).filterMap
      (runAt? name (c :: code)) = ((afterName? name (c :: code)).map runOf).toList := by
    by_cases hnamed : NamedAt name (c :: code) 0
    · obtain ⟨after, hafter⟩ := namedAt_zero_iff.mp hnamed
      obtain ⟨key, hcode, hcase⟩ := afterName?_eq_some_iff.mp hafter
      have hrun : runAt? name (c :: code) 0 = some (runOf after) := by
        rw [hcode]
        show runAt? name ([] ++ (key ++ '=' :: after)) (Text.byteLength []) = _
        exact runAt?_of_key hcase
      rw [if_pos hnamed, hafter]
      simp [hrun]
    · have hnone : afterName? name (c :: code) = none := by
        rw [Option.eq_none_iff_forall_ne_some]
        intro after hafter
        exact hnamed (namedAt_zero_iff.mpr ⟨after, hafter⟩)
      rw [if_neg hnamed, hnone]
      rfl
  unfold runs
  rw [places_cons, List.filterMap_append, hfirst, List.filterMap_map]
  congr 2
  funext place
  exact runAt?_add

/-- **The search by bytes is the search by characters.** -/
theorem lineCandidate?_eq (name code : Text) :
    lineCandidate? name code = (runs name code).find? (· ≠ []) := by
  induction code with
  | nil => rfl
  | cons c code ih =>
      rw [lineCandidate?_cons, candidate?_eq, ih, runs_cons, List.find?_append]

/-! ### Runs that are numbers -/

/-- The value is found in the first line whose first run that is not empty is a number. -/
theorem lookForScalar_eq (hname : name ≠ []) (text : Text) :
    lookForScalar text name = (codes text).findSome? fun code =>
      ((runs name code).find? (· ≠ [])).bind Binary64.read? := by
  rw [lookForScalar, if_neg (by simpa using hname), codes, ← List.head?_filterMap,
    ← List.head?_filterMap, List.filterMap_filterMap]
  simp only [lineCandidate?_eq]

theorem firstNumber?_eq (text name : Text) : firstNumber? text name =
    (codes text).findSome? fun code => (runs name code).findSome? Binary64.read? := by
  rw [firstNumber?, ← List.head?_filterMap, List.filterMap_flatMap, List.head?_flatMap]
  simp only [List.head?_filterMap]

/-- How the search for the value of a name goes. -/
structure Searches (text name : Text) : Prop where
  /-- There is a run behind each place of the name: no cut falls inside a character. -/
  cuts : ∀ code ∈ codes text, ∀ place ∈ places name code,
    ∃ run, runAt? name code place = some run
  /-- The value is found in the first line whose first run that is not empty is a number. -/
  value : lookForScalar text name = (codes text).findSome? fun code =>
    ((runs name code).find? (· ≠ [])).bind Binary64.read?
  /-- A value that is found is that of a run. -/
  sound : ∀ v, lookForScalar text name = some v →
    ∃ run ∈ (codes text).flatMap (runs name), Binary64.read? run = some v
  /-- It is the value of the first run that is a number, unless another run that is not empty stands
  in front of it in its line; and nothing is found where no run is a number. -/
  first : (∀ earlier code later, codes text = earlier ++ code :: later →
      (∀ run ∈ earlier.flatMap (runs name), Binary64.read? run = none) →
        (∃ run ∈ runs name code, Binary64.read? run ≠ none) →
          ((runs name code).find? (· ≠ [])).bind Binary64.read? ≠ none) →
    lookForScalar text name = firstNumber? text name

/-- Where the first run that is not empty is a number, it is the first number. -/
theorem findSome?_of_find? {rs : List Text} {v : Binary64}
    (h : (rs.find? (· ≠ [])).bind Binary64.read? = some v) : rs.findSome? Binary64.read? = some v := by
  induction rs with
  | nil => exact absurd h (by simp)
  | cons run rs ih =>
      rw [List.findSome?_cons]
      by_cases hempty : run = []
      · subst hempty
        rw [Binary64.read?_nil]
        exact ih h
      · rw [List.find?_cons_of_pos (by simpa using hempty), Option.bind_some] at h
        rw [h]

/-- Two searches of which the first finds what the second does, if it finds anything, agree if the
first finds something where the second finds its first. -/
theorem findSome?_eq_of_first {α β : Type} {f h : α → Option β} {xs : List α}
    (hsound : ∀ x v, f x = some v → h x = some v)
    (hfirst : ∀ earlier x later, xs = earlier ++ x :: later → (∀ y ∈ earlier, h y = none) →
      h x ≠ none → f x ≠ none) : xs.findSome? f = xs.findSome? h := by
  induction xs with
  | nil => rfl
  | cons x xs ih =>
      rw [List.findSome?_cons, List.findSome?_cons]
      by_cases hnone : h x = none
      · have hnone' : f x = none := by
          rw [Option.eq_none_iff_forall_ne_some]
          intro v hv
          rw [hsound x v hv] at hnone
          exact absurd hnone (by simp)
        rw [hnone, hnone']
        apply ih
        intro earlier y later hxs hearlier
        refine hfirst (x :: earlier) y later (by rw [hxs, List.cons_append]) ?_
        intro z hz
        rcases List.mem_cons.mp hz with hz | hz
        · rw [hz]
          exact hnone
        · exact hearlier z hz
      · obtain ⟨v, hv⟩ := Option.ne_none_iff_exists'.mp (hfirst [] x xs rfl (by simp) hnone)
        rw [hv, hsound x v hv]

/-- **What is found behind a name.** -/
theorem lookForScalar_searches (hname : name ≠ []) (text : Text) : Searches text name := by
  have hvalue := lookForScalar_eq hname text
  refine ⟨?_, hvalue, ?_, ?_⟩
  · intro code _ place hplace
    exact exists_runAt? (of_decide_eq_true (List.mem_filter.mp hplace).2)
  · intro v hv
    rw [hvalue] at hv
    obtain ⟨code, hcode, hfound⟩ := List.exists_of_findSome?_eq_some hv
    obtain ⟨run, hrun, hread⟩ := Option.bind_eq_some_iff.mp hfound
    exact ⟨run, List.mem_flatMap.mpr ⟨code, hcode, List.mem_of_find?_eq_some hrun⟩, hread⟩
  · intro hfirst
    rw [hvalue, firstNumber?_eq]
    apply findSome?_eq_of_first
    · intro code v hfound
      exact findSome?_of_find? hfound
    · intro earlier code later hcodes hearlier hcode
      refine hfirst earlier code later hcodes ?_ ?_
      · intro run hrun
        obtain ⟨other, hother, hrun⟩ := List.mem_flatMap.mp hrun
        exact List.findSome?_eq_none_iff.mp (hearlier other hother) run hrun
      · by_contra hnone
        apply hcode
        rw [List.findSome?_eq_none_iff]
        intro run hrun
        by_contra hread
        exact hnone ⟨run, hrun, hread⟩

/-- A name that is not ASCII, in other letters. -/
theorem lookForScalar_searches_accented :
    "DéPL".toList ≠ [] ∧ Searches "é= 1; dépl= 3\n dépl= dépl= 2\n".toList "DéPL".toList ∧
      lookForScalar "é= 1; dépl= 3\n dépl= dépl= 2\n".toList "DéPL".toList =
        Binary64.read? "2".toList := by
  have hname : "DéPL".toList ≠ [] := by decide
  exact ⟨hname, lookForScalar_searches hname _, by decide +kernel⟩

/-- A word that begins like a number hides the number behind it. -/
theorem lookForScalar_hidden :
    ∃ v, Binary64.read? "3".toList = some v ∧
      firstNumber? "x= echec x= 3\n".toList "x".toList = some v ∧
      lookForScalar "x= echec x= 3\n".toList "x".toList = none := by
  have hread := Binary64.read?_get (t := "3".toList) (by decide +kernel)
  have hnumber : firstNumber? "x= echec x= 3\n".toList "x".toList = Binary64.read? "3".toList := by
    decide +kernel
  exact ⟨_, hread, hnumber.trans hread, by decide +kernel⟩

end Gibiane

end LineLexer
