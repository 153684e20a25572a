/-
What a turn is to the strings of a script.

The lexer knows by its state whether it is inside a string.  Grouping sees tokens only and
has to find it out again: outside, a token of the category of strings begins one, and
inside, a quote of that category ends it.  Every other character of a string has that
category too, so the two could part at a quote that passes for such a character.

They never do.  The rule for quotes comes first wherever a quote stands in a string, and
outside strings no other rule has a token of that category.  `Plays` lists what a turn can
be to the strings of a script, once; that a string is being read exactly in the state for
strings (`Follows`) is kept by a turn, hence by a line and by a script, and what a single
token does to the string being read is a case of that list.
-/
import LineLexer.Proofs.Document.Restart
import LineLexer.Proofs.Gibiane.Scan
import LineLexer.Proofs.Gibiane.Uniform

namespace LineLexer

/-! ### Turns that lead into a state and out of it -/

/-- The turn was taken in another state, and its rule leads into this one. -/
def Turn.Enters {n : Nat} (turn : Turn n) (state : Fin n) : Prop :=
  turn.state ≠ state ∧ ∃ rule found, turn.finding = .matched rule found ∧ rule.next = some state

/-- The turn was taken in this state, and its rule leads into another one. -/
def Turn.Leaves {n : Nat} (turn : Turn n) (state : Fin n) : Prop :=
  turn.state = state ∧ ∃ rule found next, turn.finding = .matched rule found ∧
    rule.next = some next ∧ next ≠ state

theorem Turn.Enters.exit {n : Nat} {turn : Turn n} {state : Fin n} (h : turn.Enters state) :
    turn.exit = state := by
  obtain ⟨-, rule, found, hfinding, hnext⟩ := h
  simp [Turn.exit, hfinding, hnext]

theorem Turn.Leaves.exit_ne {n : Nat} {turn : Turn n} {state : Fin n} (h : turn.Leaves state) :
    turn.exit ≠ state := by
  obtain ⟨-, rule, found, next, hfinding, hnext, hne⟩ := h
  simpa [Turn.exit, hfinding, hnext] using hne

namespace Lexer

variable {lexer : Lexer} {state exit : lexer.rules.StateId}

/-- Lines in a row are threaded one part after the other. -/
theorem Threads.split {earlier later : List (LexedLine lexer.rules.size)}
    (h : lexer.Threads state (earlier ++ later) exit) :
    ∃ mid, lexer.Threads state earlier mid ∧ lexer.Threads mid later exit := by
  induction earlier generalizing state with
  | nil => exact ⟨state, .nil state, h⟩
  | cons line earlier ih =>
      cases h with
      | cons hentered htokens h =>
          obtain ⟨mid, hearlier, hlater⟩ := ih h
          exact ⟨mid, .cons hentered htokens hearlier, hlater⟩

/-- A match that is one token. -/
theorem tokensOf_of_whole {turn : Turn lexer.rules.size} {rule : Rule lexer.rules.size}
    {found : Match} {label : Label} (hfinding : turn.finding = .matched rule found)
    (hemit : rule.emit = .whole label) :
    lexer.tokensOf turn = [lexer.tokenOf label ⟨turn.start, found.stop⟩] := by
  simp only [tokensOf, hfinding, hemit, emit]

/-- The tokens of a match have the labels of its rule. -/
theorem exists_label_of_mem_emit {emit : Emit} {cur : Cursor} {found : Match} {token : Token}
    (h : token ∈ lexer.emit emit cur found) :
    ∃ label ∈ emit.labels, token.category = lexer.resolve label token.text := by
  cases emit with
  | whole label =>
      obtain rfl := List.mem_singleton.mp h
      exact ⟨label, List.mem_singleton_self label, rfl⟩
  | groups labels =>
      obtain ⟨⟨label, i⟩, hlabel, htoken⟩ := List.mem_filterMap.mp h
      obtain ⟨span, -, hspan⟩ := Option.bind_eq_some_iff.mp htoken
      split at hspan
      · exact absurd hspan (by simp)
      · obtain rfl := Option.some.inj hspan
        exact ⟨label, List.fst_mem_of_mem_zipIdx hlabel, rfl⟩

end Lexer

namespace Gibiane

open Grouping

variable {lexer : Lexer} {string header state : lexer.rules.StateId} {g : Grouping}
  {token : Token} {body : Text}

/-! ### What a token does to the string being read -/

/-- Outside strings, a token that is no quote leaves it so. -/
theorem open?_addToken_of_ne {line : Text} (hopen : g.open? = none)
    (hcategory : token.category ≠ .string) : (addToken line g token).open? = none := by
  unfold addToken
  rw [hopen]
  simp only [addOutside]
  split
  · exact hopen
  · rename_i heq
    exact absurd heq hcategory
  · split
    · unfold endStatement
      split
      · exact hopen
      · exact hopen
    · exact hopen
  · exact hopen

theorem open?_foldl_of_ne (line : Text) {tokens : List Token} (hopen : g.open? = none)
    (htokens : ∀ token ∈ tokens, token.category ≠ .string) :
    (tokens.foldl (addToken line) g).open? = none := by
  induction tokens generalizing g with
  | nil => exact hopen
  | cons token tokens ih =>
      exact ih (open?_addToken_of_ne hopen (htokens token List.mem_cons_self))
        fun token htoken => htokens token (List.mem_cons_of_mem _ htoken)

/-- A token of a string begins one. -/
theorem addToken_begins (line : Text) (hopen : g.open? = none) (hcategory : token.category = .string) :
    addToken line g token = { g with open? := some [] } := by
  simp only [addToken, hopen, addOutside, hcategory]

/-- Inside a string, what is no quote belongs to its body. -/
theorem exists_addToken_inside (line : Text) (hopen : g.open? = some body)
    (hbody : ¬ (token.category = .string ∧ token.text = ['\''])) :
    ∃ more, addToken line g token = { g with open? := some (body ++ more) } := by
  simp only [addToken, hopen, addInside, if_neg hbody]
  by_cases hescape : token.category = .escape
  · exact ⟨_, if_pos hescape⟩
  · exact ⟨_, if_neg hescape⟩

/-- The quote at its end makes an item of the string. -/
theorem addToken_ends (line : Text) (hopen : g.open? = some body)
    (hcategory : token.category = .string) (htext : token.text = ['\'']) :
    addToken line g token = { g.push [.literal body] with open? := none } := by
  simp only [addToken, hopen, addInside, if_pos (And.intro hcategory htext)]

/-! ### What a turn is to strings -/

/-- What a turn can be to the strings of a script. -/
inductive Plays (lexer : Lexer) (string : lexer.rules.StateId) (turn : Turn lexer.rules.size) : Prop
  /-- It stays outside, and no token of it is one of a string. -/
  | outside (hstate : turn.state ≠ string) (hexit : turn.exit ≠ string)
      (htokens : ∀ token ∈ lexer.tokensOf turn, token.category ≠ .string)
  /-- It begins a string with one token. -/
  | begins {token : Token} (henters : turn.Enters string) (htokens : lexer.tokensOf turn = [token])
      (hcategory : token.category = .string)
  /-- It stays inside, with one token that is no quote. -/
  | inside {token : Token} (hstate : turn.state = string) (hexit : turn.exit = string)
      (htokens : lexer.tokensOf turn = [token])
      (hbody : ¬ (token.category = .string ∧ token.text = ['\'']))
  /-- It ends a string with a quote. -/
  | ends {token : Token} (hleaves : turn.Leaves string) (htokens : lexer.tokensOf turn = [token])
      (hcategory : token.category = .string) (htext : token.text = ['\''])

theorem Formed.start_ne_string (hformed : Formed lexer.rules string header) :
    lexer.start ≠ string := by
  intro h
  have hdefault := hformed.startDefault
  rw [show lexer.rules.start = string from h, hformed.stringDefault] at hdefault
  exact absurd hdefault (by simp)

/-- A quote does not pass for the body of a string. -/
theorem Formed.firstMatch?_quote (hformed : Formed lexer.rules string header) {cur : Cursor}
    {rest : Text} (hrest : cur.rest = '\'' :: rest) :
    (lexer.rules.state string).firstMatch? cur ≠ none := by
  intro hnone
  have hmem : ⟨.chars (Form.oneOf ['\'']), .whole (.fixed .string), some lexer.rules.start⟩ ∈
      (lexer.rules.state string).meanings := by
    rw [hformed.stringRules]
    simp [Form.string]
  obtain ⟨rule, hrule, hmeaning⟩ := List.mem_map.mp hmem
  obtain ⟨hnode, -, -⟩ := Meaning.mk.inj hmeaning
  have hmatch := State.firstMatch?_eq_none_iff.mp hnone rule hrule
  have hquote : (Form.oneOf ['\'']).contains '\'' = true := by decide
  rw [Pattern.matchAt?, hnode, Node.matchAt?, Node.run] at hmatch
  simp [hrest, hquote] at hmatch

/-- A label gives no category but its own and those of words. -/
theorem resolve_ne (hkeywords : KeywordTable.ofWords keywordLists = .ok lexer.keywords)
    {category : Category} (hcategory : category ∉ plainCategories) {label : Label}
    (hlabel : label ≠ .fixed category) (text : Text) : lexer.resolve label text ≠ category := by
  intro h
  cases label with
  | fixed other => exact hlabel (congrArg Label.fixed h)
  | keyword =>
      apply hcategory
      rw [← h]
      show (lexer.keywords.classify text).getD .identifier ∈ plainCategories
      cases hclassify : lexer.keywords.classify text with
      | none => simp [plainCategories]
      | some word =>
          have hword := mem_wordCategories hkeywords hclassify
          simp [plainCategories, hword]

section Turns

variable {turn : Turn lexer.rules.size} {read : Text} {cur : Cursor}

/-- Inside a string there is an escape, the quote that ends it, or a character of its body. -/
theorem plays_of_string (hformed : Formed lexer.rules string header) (hstate : turn.state = string)
    (htakes : lexer.Takes turn read) : Plays lexer string turn := by
  cases htakes with
  | @matched state start _ rule found passed _ hfirst hread _ _ =>
      obtain ⟨stop, captures⟩ := found
      obtain rfl : state = string := hstate
      have hmeaning : rule.meaning ∈ Form.string lexer.rules.start := by
        rw [← hformed.stringRules]
        exact List.mem_map_of_mem (State.mem_of_firstMatch? hfirst).1
      simp only [Form.string, List.mem_cons, List.not_mem_nil, or_false] at hmeaning
      rcases hmeaning with hmeaning | hmeaning
      · obtain ⟨-, hemit, hnext⟩ := Meaning.mk.inj hmeaning
        refine .inside rfl ?_ (Lexer.tokensOf_of_whole rfl hemit) ?_
        · simp only [Turn.exit, hnext, Option.getD_none]
        · intro h
          exact absurd h.1 (by simp [Lexer.tokenOf, Lexer.resolve])
      · obtain ⟨hnode, hemit, hnext⟩ := Meaning.mk.inj hmeaning
        have htext : (Span.mk start stop).text = ['\''] := by
          rw [hread.passes.text]
          rw [hnode] at hread
          cases hread with
          | chars _ hmem => rw [List.mem_singleton.mp (oneOf_contains.mp hmem)]
        exact .ends ⟨rfl, rule, _, _, rfl, hnext, hformed.start_ne_string⟩
          (Lexer.tokensOf_of_whole rfl hemit) rfl htext
  | @unmatched state cur c rest hfirst hrest =>
      obtain rfl : state = string := hstate
      have hquote : c ≠ '\'' := by
        intro hc
        rw [hc] at hrest
        exact hformed.firstMatch?_quote hrest hfirst
      have htokens : lexer.tokensOf ⟨state, cur, .unmatched c, cur.pass c rest⟩ =
          [⟨.string, cur.offset, [c]⟩] := by
        simp only [Lexer.tokensOf, hformed.stringDefault, Option.toList_some, List.map_cons,
          List.map_nil]
      refine .inside rfl rfl htokens ?_
      intro h
      exact hquote (List.singleton_inj.mp h.2)

variable (huniform : Uniform lexer.rules string)
  (hkeywords : KeywordTable.ofWords keywordLists = .ok lexer.keywords)

include huniform hkeywords

/-- Outside strings a quote begins one, and nothing else does. -/
theorem plays_of_ne_string (hstate : turn.state ≠ string) (htakes : lexer.Takes turn read) :
    Plays lexer string turn := by
  have hplain : Category.string ∉ plainCategories := by decide
  cases htakes with
  | @matched state start _ rule found _ _ hfirst _ _ _ =>
      rcases huniform.quotes state hstate rule (State.mem_of_firstMatch? hfirst).1 with
        ⟨hemit, hnext⟩ | ⟨hlabels, hnext⟩
      · exact .begins ⟨hstate, rule, found, rfl, hnext⟩ (Lexer.tokensOf_of_whole rfl hemit) rfl
      · have hexit : rule.next.getD state ≠ string := by
          cases hnext' : rule.next with
          | none => exact hstate
          | some next =>
              intro h
              rw [hnext', show next = string from h] at hnext
              exact hnext rfl
        refine .outside hstate hexit ?_
        intro token htoken
        obtain ⟨label, hlabel, hcategory⟩ := Lexer.exists_label_of_mem_emit htoken
        rw [hcategory]
        apply resolve_ne hkeywords hplain
        intro h
        rw [h] at hlabel
        exact hlabels hlabel
  | @unmatched state cur c _ _ _ =>
      refine .outside hstate hstate ?_
      intro token htoken
      obtain ⟨category, hcategory, rfl⟩ := List.mem_map.mp htoken
      intro h
      rw [show category = .string from h] at hcategory
      exact huniform.default state hstate (Option.mem_toList.mp hcategory)

variable (hformed : Formed lexer.rules string header)

include hformed

/-- **What a turn is to the strings of a script.** -/
theorem plays_of_takes (htakes : lexer.Takes turn read) : Plays lexer string turn := by
  by_cases hstate : turn.state = string
  · exact plays_of_string hformed hstate htakes
  · exact plays_of_ne_string huniform hkeywords hstate htakes

end Turns

/-! ### Strings are grouped in their state -/

/-- A string is being read exactly in the state for strings. -/
def Follows (string state : lexer.rules.StateId) (g : Grouping) : Prop :=
  g.open?.isSome = true ↔ state = string

theorem Follows.open?_eq_none (h : Follows string state g) (hstate : state ≠ string) :
    g.open? = none := by
  rw [← Option.not_isSome_iff_eq_none]
  exact fun hsome => hstate (h.mp hsome)

theorem Follows.exists_body (h : Follows string state g) (hstate : state = string) :
    ∃ body, g.open? = some body :=
  Option.isSome_iff_exists.mp (h.mpr hstate)

section Steps

variable {turn : Turn lexer.rules.size} {before after : List (Turn lexer.rules.size)}
  {cur : Cursor}

/-- **A turn keeps grouping in step.** -/
theorem follows_turn (line : Text) (h : Follows string turn.state g)
    (hplays : Plays lexer string turn) :
    Follows string turn.exit ((lexer.tokensOf turn).foldl (addToken line) g) := by
  cases hplays with
  | outside hstate hexit htokens =>
      have hgrouped := open?_foldl_of_ne line (h.open?_eq_none hstate) htokens
      simp [Follows, hgrouped, hexit]
  | begins henters htokens hcategory =>
      have hgrouped := addToken_begins line (h.open?_eq_none henters.1) hcategory
      simp [Follows, htokens, hgrouped, henters.exit]
  | inside hstate hexit htokens hbody =>
      obtain ⟨body, hopen⟩ := h.exists_body hstate
      obtain ⟨more, hgrouped⟩ := exists_addToken_inside line hopen hbody
      simp [Follows, htokens, hgrouped, hexit]
  | ends hleaves htokens hcategory htext =>
      obtain ⟨body, hopen⟩ := h.exists_body hleaves.1
      have hgrouped := addToken_ends line hopen hcategory htext
      simp [Follows, htokens, hgrouped, hleaves.exit_ne]

/-- Grouping is in step at each token of a turn. -/
theorem follows_token (line : Text) (h : Follows string turn.state g)
    (hplays : Plays lexer string turn) {seen more : List Token}
    (htokens : lexer.tokensOf turn = seen ++ token :: more) :
    Follows string turn.state (seen.foldl (addToken line) g) := by
  -- A turn that has to do with strings has one token, so nothing comes before that.
  have hone : ∀ {only : Token}, lexer.tokensOf turn = [only] → seen = [] := by
    intro only honly
    have hnone : seen = [] ∧ token = only ∧ more = [] := by
      simpa [honly, List.singleton_eq_append_iff] using htokens
    exact hnone.1
  cases hplays with
  | outside hstate hexit hcategory =>
      rw [htokens] at hcategory
      have hgrouped := open?_foldl_of_ne line (h.open?_eq_none hstate)
        fun token htoken => hcategory token (List.mem_append_left _ htoken)
      simp [Follows, hgrouped, hstate]
  | begins henters honly hcategory => rwa [hone honly]
  | inside hstate hexit honly hbody => rwa [hone honly]
  | ends hleaves honly hcategory htext => rwa [hone honly]

variable (hplays : ∀ {turn : Turn lexer.rules.size} {read : Text}, lexer.Takes turn read →
  Plays lexer string turn)

include hplays

theorem follows_runs {turns : List (Turn lexer.rules.size)} (line : Text)
    (h : Follows string state g) (hruns : lexer.Runs state cur turns) :
    Follows string (Lexer.exitOf state turns)
      ((turns.flatMap lexer.tokensOf).foldl (addToken line) g) := by
  induction hruns generalizing g with
  | done _ => exact h
  | turn hstate _ htakes _ ih =>
      subst hstate
      rw [List.flatMap_cons, List.foldl_append, Lexer.exitOf_cons]
      exact ih (follows_turn line h (hplays htakes))

/-- Grouping is in step at each turn of a line. -/
theorem follows_before (line : Text) (h : Follows string state g)
    (hruns : lexer.Runs state cur (before ++ turn :: after)) :
    Follows string turn.state ((before.flatMap lexer.tokensOf).foldl (addToken line) g) ∧
      Plays lexer string turn := by
  induction before generalizing state cur g with
  | nil =>
      cases hruns with
      | turn hstate _ htakes _ =>
          subst hstate
          exact ⟨h, hplays htakes⟩
  | cons first before ih =>
      cases hruns with
      | turn hstate _ htakes hruns =>
          subst hstate
          rw [List.flatMap_cons, List.foldl_append]
          exact ih (follows_turn line h (hplays htakes)) hruns

/-- **So are all lines of a script.** -/
theorem follows_threads {lines : List (LexedLine lexer.rules.size)} {exit : lexer.rules.StateId}
    (h : Follows string state g) (hthreads : lexer.Threads state lines exit) :
    Follows string exit (lines.foldl addLine g) := by
  induction hthreads generalizing g with
  | nil _ => exact h
  | @cons state exit line lines hentered htokens _ ih =>
      apply ih
      have hline := follows_runs hplays line.text h (lexer.lineTurns_runs state line.text)
      show (Option.map _ _).isSome = true ↔ _
      rw [Option.isSome_map, htokens]
      exact hline

/-- No string is being read where lines leave the start state again. -/
theorem open?_eq_none_of_threads {lines : List (LexedLine lexer.rules.size)}
    (hstart : lexer.start ≠ string) (hthreads : lexer.Threads lexer.start lines lexer.start) :
    (lines.foldl addLine .empty).open? = none := by
  have hempty : Follows string lexer.start Grouping.empty := by
    simp [Follows, Grouping.empty, hstart]
  exact (follows_threads hplays hempty hthreads).open?_eq_none hstart

end Steps

section Token

variable {turn : Turn lexer.rules.size} (line : Text) (h : Follows string turn.state g)
  (hplays : Plays lexer string turn) (htoken : token ∈ lexer.tokensOf turn)

include h hplays htoken

/-- A string begins at the token of a turn into the state for strings. -/
theorem Plays.begins_iff :
    g.open? = none ∧ (addToken line g token).open?.isSome = true ↔ turn.Enters string := by
  cases hplays with
  | outside hstate hexit hcategory =>
      have hgrouped : (addToken line g token).open? = none :=
        open?_addToken_of_ne (h.open?_eq_none hstate) (hcategory token htoken)
      constructor
      · intro hbegins
        rw [hgrouped] at hbegins
        exact absurd hbegins.2 (by simp)
      · intro henters
        exact absurd henters.exit hexit
  | begins henters honly hcategory =>
      have hopen := h.open?_eq_none henters.1
      rw [honly] at htoken
      obtain rfl := List.mem_singleton.mp htoken
      refine iff_of_true ⟨hopen, ?_⟩ henters
      simp [addToken_begins line hopen hcategory]
  | inside hstate hexit honly hbody =>
      obtain ⟨body, hopen⟩ := h.exists_body hstate
      refine iff_of_false ?_ fun henters => henters.1 hstate
      simp [hopen]
  | ends hleaves honly hcategory htext =>
      obtain ⟨body, hopen⟩ := h.exists_body hleaves.1
      refine iff_of_false ?_ fun henters => henters.1 hleaves.1
      simp [hopen]

/-- It ends at the token of a turn out of that state. -/
theorem Plays.ends_iff :
    g.open?.isSome = true ∧ (addToken line g token).open? = none ↔ turn.Leaves string := by
  cases hplays with
  | outside hstate hexit hcategory =>
      refine iff_of_false ?_ fun hleaves => hstate hleaves.1
      simp [h.open?_eq_none hstate]
  | begins henters honly hcategory =>
      refine iff_of_false ?_ fun hleaves => henters.1 hleaves.1
      simp [h.open?_eq_none henters.1]
  | inside hstate hexit honly hbody =>
      obtain ⟨body, hopen⟩ := h.exists_body hstate
      rw [honly] at htoken
      obtain rfl := List.mem_singleton.mp htoken
      obtain ⟨more, hgrouped⟩ := exists_addToken_inside line hopen hbody
      refine iff_of_false ?_ fun hleaves => hleaves.exit_ne hexit
      simp [hgrouped]
  | ends hleaves honly hcategory htext =>
      obtain ⟨body, hopen⟩ := h.exists_body hleaves.1
      rw [honly] at htoken
      obtain rfl := List.mem_singleton.mp htoken
      refine iff_of_true ?_ hleaves
      simp [hopen, addToken_ends line hopen hcategory htext]

/-- Inside a string the token goes to its body, or makes an item of it. -/
theorem Plays.exists_body (hstate : turn.state = string) :
    ∃ body, g.open? = some body ∧
      (turn.Leaves string ∧
          addToken line g token = ⟨g.done, g.current ++ [.literal body], none⟩ ∨
        ¬ turn.Leaves string ∧
          ∃ more, addToken line g token = ⟨g.done, g.current, some (body ++ more)⟩) := by
  obtain ⟨body, hopen⟩ := h.exists_body hstate
  refine ⟨body, hopen, ?_⟩
  cases hplays with
  | outside hne hexit hcategory => exact absurd hstate hne
  | begins henters honly hcategory => exact absurd hstate henters.1
  | inside _ hexit honly hbody =>
      rw [honly] at htoken
      obtain rfl := List.mem_singleton.mp htoken
      right
      exact ⟨fun hleaves => hleaves.exit_ne hexit, exists_addToken_inside line hopen hbody⟩
  | ends hleaves honly hcategory htext =>
      rw [honly] at htoken
      obtain rfl := List.mem_singleton.mp htoken
      left
      exact ⟨hleaves, addToken_ends line hopen hcategory htext⟩

end Token

/-- A turn into the state for strings, or out of it, has one token. -/
theorem Plays.exists_token {turn : Turn lexer.rules.size} (hplays : Plays lexer string turn)
    (h : turn.Enters string ∨ turn.Leaves string) : ∃ token, lexer.tokensOf turn = [token] := by
  cases hplays with
  | outside hstate hexit hcategory =>
      rcases h with henters | hleaves
      · exact absurd henters.exit hexit
      · exact absurd hleaves.1 hstate
  | begins henters honly hcategory => exact ⟨_, honly⟩
  | inside hstate hexit honly hbody => exact ⟨_, honly⟩
  | ends hleaves honly hcategory htext => exact ⟨_, honly⟩

end Gibiane

end LineLexer
