/-
Where a match meets the words of a line.

A rule that stops in the middle of a word leaves the other half to whatever rule comes
next.  Three things keep it from that.

  * `Settles`: the node ends with a character that belongs to no word, or with a demand
    that is never met in the middle of one.  Then no reading stops there.
  * `Parted`: where two parts of a row meet, one of them has a character of no word on its
    side, or the first is a mere demand.  Then no group starts or stops in the middle of a
    word, unless the match does.
  * `Ends`: a greedy repetition at the end of a node takes the whole run of its characters.
    Readings know nothing of that, since they leave preference out; it is a property of the
    match that the search comes back with.

The first two are read off the node, so they can be computed for the patterns of a table.
-/
import LineLexer.Proofs.Pattern.Preferred

namespace LineLexer

namespace Cursor

/-- The cursor stands between two characters of a word. -/
def InWord (cur : Cursor) : Prop :=
  cur.before.any CharSet.asciiWord.contains = true ∧
    cur.rest.head?.any CharSet.asciiWord.contains = true

variable {cur start stop : Cursor} {read : Text}

theorem not_inWord_of_before (h : ∀ c ∈ cur.before, CharSet.asciiWord.contains c = false) :
    ¬ cur.InWord := by
  rintro ⟨hbefore, -⟩
  obtain ⟨c, hc, hword⟩ := (Option.any_eq_true _ _).mp hbefore
  rw [h c hc] at hword
  exact Bool.noConfusion hword

theorem not_inWord_of_head (h : ∀ c ∈ cur.rest.head?, CharSet.asciiWord.contains c = false) :
    ¬ cur.InWord := by
  rintro ⟨-, hhead⟩
  obtain ⟨c, hc, hword⟩ := (Option.any_eq_true _ _).mp hhead
  rw [h c hc] at hword
  exact Bool.noConfusion hword

end Cursor

namespace Node

variable {node first second body : Node} {start mid stop : Cursor} {read : Text}
  {closed : Captures} {set : CharSet} {index : Nat}

theorem Reads.exists_of_chars (h : (Node.chars set).Reads start read closed stop) :
    ∃ c, read = [c] ∧ set.contains c = true := by
  cases h with
  | chars _ hmem => exact ⟨_, rfl, hmem⟩

/-! ### Nodes that end at the edge of a word -/

/-- What the node ends with is a character of no word, the end of the line or the edge of a word. -/
def Settles : Node → Prop
  | empty | .repeat _ _ _ _ => False
  | chars set => set.Apart .asciiWord
  | look demand => demand ∈ [.textEnd, .word .boundary false]
  | seq _ second => second.Settles
  | alt first second => first.Settles ∧ second.Settles
  | group _ body => body.Settles

instance decidableSettles : (node : Node) → Decidable node.Settles
  | empty | .repeat _ _ _ _ => inferInstanceAs (Decidable False)
  | chars set => inferInstanceAs (Decidable (set.Apart .asciiWord))
  | look demand => inferInstanceAs (Decidable (demand ∈ _))
  | seq _ second => decidableSettles second
  | alt first second =>
    have := decidableSettles first
    have := decidableSettles second
    inferInstanceAs (Decidable (_ ∧ _))
  | group _ body => decidableSettles body

/-- **A node that ends at the edge of a word stops in the middle of none.** -/
theorem Reads.not_inWord_of_settles (h : node.Reads start read closed stop)
    (hsettles : node.Settles) : ¬ stop.InWord := by
  induction h with
  | empty | done | round _ _ _ _ _ => exact hsettles.elim
  | chars _ hmem =>
      refine Cursor.not_inWord_of_before ?_
      rintro _ ⟨⟩
      exact CharSet.Apart.contains hsettles hmem
  | @look demand cur hholds =>
      simp only [Settles, List.mem_cons, List.not_mem_nil, or_false] at hsettles
      rcases hsettles with rfl | rfl
      · have hrest : cur.rest = [] := List.isEmpty_iff.mp hholds
        refine Cursor.not_inWord_of_head ?_
        simp [hrest]
      · rintro ⟨hbefore, hhead⟩
        simp [Look.holds, WordEdge.holds, hbefore, hhead] at hholds
  | seq _ _ _ ih' => exact ih' hsettles
  | altFirst _ ih => exact ih hsettles.1
  | altSecond _ ih => exact ih hsettles.2
  | group _ ih => exact ih hsettles

/-! ### Nodes whose parts meet at the edge of a word -/

/-- The node reads something, and no character of a word. -/
def Blank (node : Node) : Prop :=
  node.mayBeEmpty = false ∧ ∀ set ∈ node.sets, set.Apart .asciiWord

/-- The node begins with a character of no word. -/
def Opens (node : Node) : Prop := node.mayBeEmpty = false ∧ node.starts.Apart .asciiWord

instance (node : Node) : Decidable node.Blank := inferInstanceAs (Decidable (_ ∧ _))

instance (node : Node) : Decidable node.Opens := inferInstanceAs (Decidable (_ ∧ _))

theorem Reads.not_inWord_of_blank (h : node.Reads start read closed stop) (hblank : node.Blank) :
    ¬ stop.InWord := by
  have hne : read ≠ [] := by
    rintro rfl
    have hempty := h.mayBeEmpty
    rw [hblank.1] at hempty
    exact Bool.noConfusion hempty
  refine Cursor.not_inWord_of_before ?_
  rw [h.passes.before, List.getLast?_eq_some_getLast hne]
  rintro _ ⟨⟩
  obtain ⟨set, hset, hmem⟩ := h.exists_set _ (List.getLast_mem hne)
  exact (hblank.2 set hset).contains hmem

theorem Reads.not_inWord_of_opens (h : node.Reads start read closed stop) (hopens : node.Opens) :
    ¬ start.InWord := by
  obtain ⟨c, more, -, hrest, hc⟩ := h.exists_rest hopens.1
  refine Cursor.not_inWord_of_head ?_
  rw [hrest]
  rintro _ ⟨⟩
  exact hopens.2.contains hc

/-- The node reads nothing and has no groups. -/
def Bare (node : Node) : Prop := node.sets = [] ∧ node.groups = []

instance (node : Node) : Decidable node.Bare := inferInstanceAs (Decidable (_ ∧ _))

theorem Reads.of_bare (h : node.Reads start read closed stop) (hbare : node.Bare) :
    stop = start ∧ closed = [] := by
  have hread : read = [] := by
    rw [List.eq_nil_iff_forall_not_mem]
    intro c hc
    obtain ⟨set, hset, -⟩ := h.exists_set c hc
    rw [hbare.1] at hset
    exact List.not_mem_nil hset
  subst hread
  exact ⟨h.passes.eq_of_nil, h.closed_eq_nil hbare.2⟩

/-- The parts of the node meet at edges of words, and no group is used twice. -/
def Parted : Node → Prop
  | empty | chars _ | look _ => True
  | seq first second => first.Parted ∧ second.Parted ∧ (first.Blank ∨ second.Opens ∨ first.Bare)
  | alt first second => first.Parted ∧ second.Parted
  | .repeat body min max _ => body.Parted ∧ min ≤ 1 ∧ (max = some 0 ∨ max = some 1)
  | group _ body => body.groups = []

instance decidableParted : (node : Node) → Decidable node.Parted
  | empty | chars _ | look _ => inferInstanceAs (Decidable True)
  | seq first second =>
    have := decidableParted first
    have := decidableParted second
    inferInstanceAs (Decidable (_ ∧ _ ∧ _))
  | alt first second =>
    have := decidableParted first
    have := decidableParted second
    inferInstanceAs (Decidable (_ ∧ _))
  | .repeat body _ _ _ =>
    have := decidableParted body
    inferInstanceAs (Decidable (_ ∧ _))
  | group _ body => inferInstanceAs (Decidable (body.groups = []))

/-- **Groups start and stop at edges of words**, except where the match itself does not. -/
theorem Reads.parted (h : node.Reads start read closed stop) (hparted : node.Parted) :
    ∀ index s, (index, s) ∈ closed →
      (s.start.InWord → s.start = start) ∧ (s.stop.InWord → s.stop = stop) := by
  induction h with
  | empty | chars _ _ | look _ | done =>
      intro index s hmem
      simp at hmem
  | @seq first second _ mid _ _ _ _ _ h h' ih ih' =>
      obtain ⟨hfirst, hsecond, hmeet⟩ := hparted
      intro index s hmem
      by_cases hbare : first.Bare
      · obtain ⟨rfl, rfl⟩ := h.of_bare hbare
        exact ih' hsecond index s (by simpa using hmem)
      · have hmid : ¬ mid.InWord := by
          rcases hmeet with hblank | hopens | hbare'
          · exact h.not_inWord_of_blank hblank
          · exact h'.not_inWord_of_opens hopens
          · exact absurd hbare' hbare
        rcases List.mem_append.mp hmem with hmem | hmem
        · obtain ⟨hstart, hstop⟩ := ih' hsecond index s hmem
          refine ⟨fun hin => ?_, hstop⟩
          rw [hstart hin] at hin
          exact absurd hin hmid
        · obtain ⟨hstart, hstop⟩ := ih hfirst index s hmem
          refine ⟨hstart, fun hin => ?_⟩
          rw [hstop hin] at hin
          exact absurd hin hmid
  | altFirst _ ih => exact ih hparted.1
  | altSecond _ ih => exact ih hparted.2
  | round _ _ h' ih _ =>
      obtain ⟨-, rfl, rfl⟩ := Reads.of_secondRound hparted.2 h'
      exact ih hparted.1
  | group h _ =>
      obtain rfl := h.closed_eq_nil hparted
      intro index s hmem
      obtain ⟨-, rfl⟩ := Prod.mk.inj (List.mem_singleton.mp hmem)
      exact ⟨fun _ => rfl, fun _ => rfl⟩

/-! ### Where the preferred match ends -/

/-- Where the node is the end of a pattern, its matches at `start` stop where `P` holds. -/
def Ends (node : Node) (start : Cursor) (P : Cursor → Prop) : Prop :=
  ∀ k : Cursor → Captures → Option Match,
    (∀ stop caps, ∃ captures, k stop caps = some ⟨stop, captures⟩) →
      ∀ caps found, node.run k start caps = some found → P found.stop

namespace Ends

variable {P : Cursor → Prop}

theorem matchAt? (h : node.Ends start P) {found : Match} (hfound : node.matchAt? start = some found) :
    P found.stop :=
  h _ (fun _ captures => ⟨captures, rfl⟩) [] found hfound

/-- It is enough to know it of all readings. -/
theorem of_reads (h : ∀ read closed stop, node.Reads start read closed stop → P stop) :
    node.Ends start P := by
  intro k hk caps found hfound
  obtain ⟨read, closed, stop, hread, hend⟩ := node.run_reads _ _ _ _ hfound
  obtain ⟨captures, hcaptures⟩ := hk stop (closed ++ caps)
  rw [hcaptures] at hend
  obtain rfl := Option.some.inj hend
  exact h read closed stop hread

/-- It is enough to know where the search goes. -/
theorem of_leads (h : node.Leads start closed stop) (hstop : P stop) : node.Ends start P := by
  intro k hk caps found hfound
  obtain ⟨captures, hcaptures⟩ := hk stop (closed ++ caps)
  rw [h Match k caps _ hcaptures] at hfound
  obtain rfl := Option.some.inj hfound
  exact hstop

theorem mono {Q : Cursor → Prop} (h : node.Ends start P) (hPQ : ∀ stop, P stop → Q stop) :
    node.Ends start Q :=
  fun k hk caps found hfound => hPQ _ (h k hk caps found hfound)

/-- A row ends where its second part does. -/
theorem seq {passed rest : Text}
    (h : ∀ read closed tail, rest = read ++ tail →
      first.Reads (.between passed rest) read closed (.between (passed ++ read) tail) →
        second.Ends (.between (passed ++ read) tail) P) :
    (Node.seq first second).Ends (.between passed rest) P := by
  intro k hk caps found hfound
  obtain ⟨read, closed, mid, hread, hmore⟩ := first.run_reads _ _ _ _ hfound
  obtain ⟨tail, hrest, rfl⟩ := hread.passes.exists_between
  exact h read closed tail hrest hread k hk _ found hmore

theorem group (h : body.Ends start P) : (Node.group index body).Ends start P := by
  intro k hk caps found hfound
  exact h _ (fun stop captures => hk stop _) caps found hfound

/-- A part that may be left out ends where it does, or is left out. -/
theorem optional (h : body.Ends start P) (hstart : P start) :
    (Node.repeat body 0 (some 1) true).Ends start P := by
  intro k hk caps found hfound
  simp only [run, Matcher.times, Matcher.atMost] at hfound
  rcases Matcher.prefer_eq_some hfound with hfound | hfound
  · exact h k hk caps found hfound
  · obtain ⟨captures, hcaptures⟩ := hk start caps
    rw [hcaptures] at hfound
    obtain rfl := Option.some.inj hfound
    exact hstart

/-- **A greedy repetition over a set ends where the next character is none of the set.** -/
theorem many (passed rest : Text) :
    (Node.repeat (.chars set) 0 none true).Ends (.between passed rest)
      fun stop => ∀ c ∈ stop.rest.head?, set.contains c = false := by
  have htail : ∀ c ∈ (rest.dropWhile set.contains).head?, set.contains c = false :=
    fun c hc => not_of_mem_head?_dropWhile hc
  have hrun : ∀ c ∈ rest.takeWhile set.contains, set.contains c = true :=
    List.all_eq_true.mp List.all_takeWhile
  have hlead := Leads.many passed hrun htail
  rw [List.takeWhile_append_dropWhile] at hlead
  exact of_leads hlead htail

end Ends

end Node

end LineLexer
