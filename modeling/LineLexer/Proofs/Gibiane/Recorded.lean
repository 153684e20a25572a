/-
What is left of repeated declarations.

A script may declare a name more than once.  Recording the declarations one by one keeps
the place of the first and the source of the last, so what comes out is a function of the
whole list: each name once, in the order in which the names first come, each with its last
source (`latest`).  One more declaration at the end changes only its own name
(`latest_concat`), and that is all the induction over the list needs.

So the outputs are an ordered map from names to sources (`orderedMap_recordAll`).  Recording
a name that is listed writes to the first output of that name; as no name comes twice, that
is its one place, and all others are left alone (`record_eq_set`).
-/
import LineLexer.Gibiane.Discovery
import Mathlib.Data.List.Basic
import Mathlib.Data.List.Induction

namespace LineLexer.Gibiane

/-- The last declaration of a name. -/
def lastOf (declared : List Output) (name : Text) : Option Output :=
  declared.findRev? (·.name == name)

/-- Each name once, in the order in which the names first come, with its last source. -/
def latest (declared : List Output) : List Output :=
  (declared.map Output.name).eraseDups.filterMap (lastOf declared)

variable {declared : List Output} {output : Output} {name : Text}

/-! ### The last declaration of a name -/

theorem lastOf_append (before after : List Output) (name : Text) :
    lastOf (before ++ after) name = (lastOf after name).or (lastOf before name) := by
  unfold lastOf
  simp only [List.findRev?_eq_find?_reverse, List.reverse_append, List.find?_append]

theorem lastOf_concat (declared : List Output) (output : Output) (name : Text) :
    lastOf (declared ++ [output]) name =
      if output.name = name then some output else lastOf declared name := by
  rw [lastOf_append]
  by_cases hname : output.name = name
  · simp [lastOf, hname]
  · simp [lastOf, hname]

theorem lastOf_eq_some (h : lastOf declared name = some output) :
    output.name = name ∧ output ∈ declared := by
  unfold lastOf at h
  rw [List.findRev?_eq_find?_reverse] at h
  have hname : (output.name == name) = true :=
    List.find?_some (p := fun output : Output => output.name == name) h
  exact ⟨beq_iff_eq.mp hname, List.mem_reverse.mp (List.mem_of_find?_eq_some h)⟩

theorem exists_lastOf (h : name ∈ declared.map Output.name) :
    ∃ output, lastOf declared name = some output ∧ output.name = name := by
  obtain ⟨output, hmem, hname⟩ := List.mem_map.mp h
  have hsome : (lastOf declared name).isSome = true := by
    unfold lastOf
    rw [List.findRev?_eq_find?_reverse, List.find?_isSome]
    exact ⟨output, List.mem_reverse.mpr hmem, beq_iff_eq.mpr hname⟩
  obtain ⟨last, hlast⟩ := Option.isSome_iff_exists.mp hsome
  exact ⟨last, hlast, (lastOf_eq_some hlast).1⟩

/-! ### All names -/

/-- The names in the order in which they first come. -/
theorem map_name_latest (declared : List Output) :
    (latest declared).map Output.name = (declared.map Output.name).eraseDups := by
  rw [latest, List.map_filterMap]
  have hself : ∀ name ∈ (declared.map Output.name).eraseDups,
      (lastOf declared name).map Output.name = some name := by
    intro name hname
    obtain ⟨last, hlast, hsame⟩ := exists_lastOf (List.mem_eraseDups.mp hname)
    rw [hlast, Option.map_some, hsame]
  rw [List.filterMap_congr hself, List.filterMap_some]

/-- Every output is the last declaration of its name. -/
theorem mem_latest_iff : output ∈ latest declared ↔ lastOf declared output.name = some output := by
  rw [latest, List.mem_filterMap]
  constructor
  · rintro ⟨name, -, hlast⟩
    rwa [(lastOf_eq_some hlast).1]
  · intro hlast
    refine ⟨output.name, ?_, hlast⟩
    rw [List.mem_eraseDups]
    exact List.mem_map_of_mem (lastOf_eq_some hlast).2

theorem record_cons (first : Output) (outputs : List Output) (name : Text)
    (source : OutputSource) :
    record (first :: outputs) name source =
      if first.name = name then { first with source } :: outputs
      else first :: record outputs name source := rfl

theorem record_of_not_mem {outputs : List Output} (h : name ∉ outputs.map Output.name)
    (source : OutputSource) : record outputs name source = outputs ++ [⟨name, source⟩] := by
  induction outputs with
  | nil => rfl
  | cons first outputs ih =>
      rw [List.map_cons, List.mem_cons, not_or] at h
      rw [record_cons, if_neg fun heq => h.1 heq.symm, ih h.2, List.cons_append]

/-- Where no name comes twice, the output of the name is the only one that changes. -/
theorem record_of_mem {outputs : List Output} (hnodup : (outputs.map Output.name).Nodup)
    (h : name ∈ outputs.map Output.name) (source : OutputSource) :
    record outputs name source =
      outputs.map fun output => if output.name = name then { output with source } else output := by
  induction outputs with
  | nil => exact absurd h List.not_mem_nil
  | cons first outputs ih =>
      obtain ⟨hfirst, hrest⟩ := List.nodup_cons.mp hnodup
      rw [record_cons, List.map_cons]
      by_cases heq : first.name = name
      · have hothers : ∀ other ∈ outputs,
            (if other.name = name then { other with source } else other) = other := by
          intro other hother
          rw [if_neg]
          intro hname
          exact hfirst (heq.trans hname.symm ▸ List.mem_map_of_mem hother)
        rw [if_pos heq, if_pos heq, List.map_congr_left hothers, List.map_id']
      · have hmem := (List.mem_cons.mp h).resolve_left fun hname => heq hname.symm
        rw [if_neg heq, if_neg heq, ih hrest hmem]

theorem eraseDups_concat_of_mem {names : List Text} (h : name ∈ names) :
    (names ++ [name]).eraseDups = names.eraseDups := by
  rw [List.eraseDups_append]
  simp only [List.removeAll, List.filter_cons, List.elem_eq_mem, h]
  simp

theorem eraseDups_concat_of_not_mem {names : List Text} (h : name ∉ names) :
    (names ++ [name]).eraseDups = names.eraseDups ++ [name] := by
  rw [List.eraseDups_append]
  simp only [List.removeAll, List.filter_cons, List.elem_eq_mem, h]
  simp [List.eraseDups_cons]

/-- Names in the order in which they first come stand in that order. -/
theorem pairwise_eraseDups (names : List Text) :
    names.eraseDups.Pairwise fun a b => names.idxOf a < names.idxOf b := by
  induction names using List.reverseRecOn with
  | nil => exact List.Pairwise.nil
  | append_singleton names name ih =>
      -- A name that has come before keeps its first place.
      have hkept : names.eraseDups.Pairwise fun a b =>
          (names ++ [name]).idxOf a < (names ++ [name]).idxOf b := by
        refine ih.imp_of_mem fun ha hb hlt => ?_
        rwa [List.idxOf_append_of_mem (List.mem_eraseDups.mp ha),
          List.idxOf_append_of_mem (List.mem_eraseDups.mp hb)]
      by_cases hmem : name ∈ names
      · rwa [eraseDups_concat_of_mem hmem]
      · rw [eraseDups_concat_of_not_mem hmem, List.pairwise_append]
        refine ⟨hkept, List.pairwise_singleton _ _, ?_⟩
        intro other hother last hlast
        obtain rfl := List.mem_singleton.mp hlast
        have hother' := List.mem_eraseDups.mp hother
        rw [List.idxOf_append_of_mem hother', List.idxOf_append_of_notMem hmem,
          List.idxOf_cons_self]
        exact Nat.lt_of_lt_of_le (List.idxOf_lt_length_of_mem hother') (Nat.le_add_right _ _)

theorem names_concat_of_mem (h : output.name ∈ declared.map Output.name) :
    ((declared ++ [output]).map Output.name).eraseDups = (declared.map Output.name).eraseDups := by
  rw [List.map_append, List.map_singleton, eraseDups_concat_of_mem h]

theorem names_concat_of_not_mem (h : output.name ∉ declared.map Output.name) :
    ((declared ++ [output]).map Output.name).eraseDups =
      (declared.map Output.name).eraseDups ++ [output.name] := by
  rw [List.map_append, List.map_singleton, eraseDups_concat_of_not_mem h]

/-- No name comes twice. -/
theorem nodup_latest (declared : List Output) : ((latest declared).map Output.name).Nodup := by
  rw [map_name_latest]
  refine (pairwise_eraseDups _).imp fun hlt heq => ?_
  rw [heq] at hlt
  exact Nat.lt_irrefl _ hlt

/-- **One more declaration is recorded.** -/
theorem latest_concat (declared : List Output) (output : Output) :
    latest (declared ++ [output]) = record (latest declared) output.name output.source := by
  have hnames := map_name_latest declared
  by_cases hmem : output.name ∈ declared.map Output.name
  · rw [record_of_mem (nodup_latest declared) (by rwa [hnames, List.mem_eraseDups]), latest,
      names_concat_of_mem hmem, latest, List.map_filterMap]
    refine List.filterMap_congr ?_
    intro name hname
    obtain ⟨last, hlast, hsame⟩ := exists_lastOf (List.mem_eraseDups.mp hname)
    rw [lastOf_concat, hlast, Option.map_some]
    by_cases hown : output.name = name
    · rw [if_pos hown, if_pos (hsame.trans hown.symm), hsame, ← hown]
    · rw [if_neg hown, if_neg fun h => hown (h.symm.trans hsame)]
  · have hkept : ∀ name ∈ (declared.map Output.name).eraseDups,
        lastOf (declared ++ [output]) name = lastOf declared name := by
      intro name hname
      rw [lastOf_concat, if_neg]
      intro hown
      exact hmem (hown ▸ List.mem_eraseDups.mp hname)
    have hlast : lastOf (declared ++ [output]) output.name = some output := by
      rw [lastOf_concat, if_pos rfl]
    rw [record_of_not_mem (by rwa [hnames, List.mem_eraseDups]), latest,
      names_concat_of_not_mem hmem, List.filterMap_append, List.filterMap_congr hkept,
      List.filterMap_cons_some hlast]
    rfl

/-- Declarations of different names are left as they are. -/
theorem latest_of_nodup (h : (declared.map Output.name).Nodup) : latest declared = declared := by
  induction declared using List.reverseRecOn with
  | nil => rfl
  | append_singleton declared output ih =>
      rw [List.map_append, List.nodup_append] at h
      rw [latest_concat, ih h.1, record_of_not_mem]
      intro hmem
      exact h.2.2 _ hmem _ List.mem_cons_self rfl

/-- What comes out when some outputs are recorded one after the other. -/
def recordAll (declared : List Output) : List Output :=
  declared.foldl (fun outputs output => record outputs output.name output.source) []

theorem recordAll_concat (declared : List Output) (output : Output) :
    recordAll (declared ++ [output]) =
      record (recordAll declared) output.name output.source :=
  List.foldl_concat _ _ _ _

theorem recordAll_eq_latest (declared : List Output) : recordAll declared = latest declared := by
  induction declared using List.reverseRecOn with
  | nil => rfl
  | append_singleton declared output ih => rw [recordAll_concat, ih, latest_concat]

/-! ### Declarations -/

/-- The output a declaration declares. -/
def Declaration.output? : Declaration → Option Output
  | .output name source => some ⟨name, source⟩
  | .notice _ => none

/-- The declaration of an output. -/
def Output.declaration (output : Output) : Declaration := .output output.name output.source

theorem filterMap_output?_map (outputs : List Output) :
    (outputs.map Output.declaration).filterMap Declaration.output? = outputs := by
  rw [List.filterMap_map]
  exact List.filterMap_some

theorem declaration_mem_of_mem_filterMap {declarations : List Declaration}
    (h : output ∈ declarations.filterMap Declaration.output?) :
    output.declaration ∈ declarations := by
  obtain ⟨declaration, hmem, hdeclared⟩ := List.mem_filterMap.mp h
  cases declaration with
  | output name source =>
      obtain rfl := Option.some.inj hdeclared
      exact hmem
  | notice _ => cases hdeclared

/-- The outputs among declarations are recorded one after the other. -/
theorem outputsOf_eq_recordAll (declarations : List Declaration) :
    outputsOf declarations = recordAll (declarations.filterMap Declaration.output?) := by
  rw [outputsOf, recordAll, List.foldl_filterMap]
  congr
  funext outputs declaration
  cases declaration with
  | output name source => rfl
  | notice _ => rfl

/-- **The outputs among declarations** are the latest of those that are declared. -/
theorem outputsOf_eq_latest (declarations : List Declaration) :
    outputsOf declarations = latest (declarations.filterMap Declaration.output?) := by
  rw [outputsOf_eq_recordAll, recordAll_eq_latest]

/-! ### An ordered map -/

/-- The last declaration of a name has none of that name behind it. -/
theorem exists_of_lastOf (h : lastOf declared name = some output) :
    ∃ before after, declared = before ++ output :: after ∧ name ∉ after.map Output.name := by
  unfold lastOf at h
  rw [List.findRev?_eq_find?_reverse, List.find?_eq_some_iff_append] at h
  obtain ⟨-, later, earlier, hreverse, hlater⟩ := h
  refine ⟨earlier.reverse, later.reverse, ?_, ?_⟩
  · rw [← List.reverse_reverse declared, hreverse]
    simp
  · intro hmem
    obtain ⟨other, hother, hname⟩ := List.mem_map.mp hmem
    have hne := hlater other (List.mem_reverse.mp hother)
    simp [hname] at hne

/-- Recording changes no output of another name, and none takes its place. -/
theorem getElem?_record {outputs : List Output} (hne : output.name ≠ name) (source : OutputSource)
    (i : Nat) : (record outputs name source)[i]? = some output ↔ outputs[i]? = some output := by
  induction outputs generalizing i with
  | nil =>
      refine iff_of_false ?_ (by simp)
      intro hlast
      obtain rfl := List.mem_singleton.mp (List.mem_of_getElem? hlast)
      exact hne rfl
  | cons first outputs ih =>
      rw [record_cons]
      by_cases hfirst : first.name = name
      · rw [if_pos hfirst]
        cases i with
        | zero =>
            refine iff_of_false ?_ ?_
            · intro hnew
              obtain rfl := Option.some.inj hnew
              exact hne hfirst
            · intro hold
              obtain rfl := Option.some.inj hold
              exact hne hfirst
        | succ i => rfl
      · rw [if_neg hfirst]
        cases i with
        | zero => rfl
        | succ i => exact ih i

/-- Where no name comes twice, recording a name that is listed writes to its one place. -/
theorem record_eq_set {outputs : List Output} (hnodup : (outputs.map Output.name).Nodup) {i : Nat}
    (hi : outputs[i]? = some output) (source : OutputSource) :
    record outputs output.name source = outputs.set i { output with source } := by
  induction outputs generalizing i with
  | nil => exact absurd hi (by simp)
  | cons first outputs ih =>
      obtain ⟨hfirst, hrest⟩ := List.nodup_cons.mp hnodup
      rw [record_cons]
      cases i with
      | zero =>
          obtain rfl := Option.some.inj hi
          exact if_pos rfl
      | succ i =>
          have hmem : output.name ∈ outputs.map Output.name :=
            List.mem_map_of_mem (List.mem_of_getElem? hi)
          have hne : first.name ≠ output.name := fun heq => hfirst (heq ▸ hmem)
          rw [if_neg hne, ih hrest hi, List.set_cons_succ]

/-- The outputs are an ordered map of what was declared, and recording one more name and source
updates that map. -/
structure OrderedMap (declared outputs : List Output) : Prop where
  /-- No name comes twice. -/
  distinct : (outputs.map Output.name).Nodup
  /-- All declared names come, and no others. -/
  names : ∀ name, name ∈ outputs.map Output.name ↔ name ∈ declared.map Output.name
  /-- They come in the order in which they are first declared. -/
  order : (outputs.map Output.name).Pairwise fun a b =>
    (declared.map Output.name).idxOf a < (declared.map Output.name).idxOf b
  /-- Each has the source with which it is last declared. -/
  last : ∀ output ∈ outputs, ∃ before after, declared = before ++ output :: after ∧
    output.name ∉ after.map Output.name
  /-- Recording a name that is listed writes the source to its place. -/
  known : ∀ (i : Nat) (output : Output) (source : OutputSource), outputs[i]? = some output →
    record outputs output.name source = outputs.set i { output with source }
  /-- Recording any other name adds it behind all others. -/
  new : ∀ name source, name ∉ outputs.map Output.name →
    record outputs name source = outputs ++ [⟨name, source⟩]
  /-- Either way an output of another name stays as it is, and where it is. -/
  others : ∀ (name : Text) (source : OutputSource) (i : Nat) (output : Output),
    output.name ≠ name →
      ((record outputs name source)[i]? = some output ↔ outputs[i]? = some output)

/-- **Recording keeps an ordered map without duplicates**, whatever is recorded one after the
other. -/
theorem orderedMap_recordAll (declared : List Output) :
    OrderedMap declared (recordAll declared) := by
  rw [recordAll_eq_latest]
  have hnodup := nodup_latest declared
  refine ⟨hnodup, ?_, ?_, ?_, ?_, ?_, ?_⟩
  · intro name
    rw [map_name_latest, List.mem_eraseDups]
  · rw [map_name_latest]
    exact pairwise_eraseDups _
  · intro output houtput
    exact exists_of_lastOf (mem_latest_iff.mp houtput)
  · intro i output source hi
    exact record_eq_set hnodup hi source
  · intro name source hname
    exact record_of_not_mem hname source
  · intro name source i output hne
    exact getElem?_record hne source i

end LineLexer.Gibiane
