/-
Grouping in step with the lexer.

A string is being read exactly while the lexer is in the state for strings: at each token of
a script (`Meets.follows`) as at the end of each of its lines (`follows_line`).  So the token
of a rule that leads into this state begins a string, that of a rule that leads out of it ends
the string, and outside strings there are no escapes.

What has been grouped by a token stays (`Grouping.Stays`): statements that have ended are
statements of the script, and the items behind them begin the next one.
-/
import LineLexer.Proofs.Gibiane.Strings
import LineLexer.Proofs.Table.Numbers

namespace LineLexer

namespace Gibiane

open Grouping

variable {lexer : Lexer} {string header : lexer.rules.StateId} {g : Grouping} {token : Token}

/-! ### Escapes -/

/-- The table has no other states. -/
theorem StatesFormed.eq_or (hstates : StatesFormed lexer.rules string header)
    (hnames : lexer.rules.stateNames = ["start", "string", "procmethdef"])
    (state : lexer.rules.StateId) : state = lexer.start ∨ state = string ∨ state = header := by
  have hnodup : lexer.rules.stateNames.Nodup := by
    rw [hnames]
    decide
  have hid : lexer.rules.stateId? (lexer.rules.stateName state) = some state :=
    (RuleTable.stateId?_eq_some_iff hnodup).mpr rfl
  have hname := List.mem_of_getElem? (RuleTable.getElem?_stateNames state)
  rw [hnames] at hname
  simp only [List.mem_cons, List.not_mem_nil, or_false] at hname
  rcases hname with hname | hname | hname
  · left
    rw [hname, hstates.startName] at hid
    exact (Option.some.inj hid).symm
  · right
    left
    rw [hname, hstates.stringName] at hid
    exact (Option.some.inj hid).symm
  · right
    right
    rw [hname, hstates.headerName] at hid
    exact (Option.some.inj hid).symm

/-- **There are no escapes outside strings.** -/
theorem ne_escape_of_ne_string (hstates : StatesFormed lexer.rules string header)
    (hnames : lexer.rules.stateNames = ["start", "string", "procmethdef"])
    (hkeywords : KeywordTable.ofWords keywordLists = .ok lexer.keywords)
    {turn : Turn lexer.rules.size} {read : Text} (hstate : turn.state ≠ string)
    (htakes : lexer.Takes turn read) :
    ∀ token ∈ lexer.tokensOf turn, token.category ≠ .escape := by
  have hplain : Category.escape ∉ plainCategories := by decide
  have hrules : ∀ rule ∈ (lexer.rules.state turn.state).rules,
      Label.fixed .escape ∉ rule.emit.labels := by
    intro rule hrule
    have hmeaning : rule.meaning ∈ (lexer.rules.state turn.state).meanings :=
      List.mem_map_of_mem hrule
    show Label.fixed .escape ∉ rule.meaning.emit.labels
    revert hmeaning
    generalize rule.meaning = meaning
    rcases hstates.eq_or hnames turn.state with hstart | hstring | hheader
    · rw [hstart, Lexer.start, hstates.formed.startRules]
      revert meaning
      simp [Form.start, Emit.labels, procedureHeader, loopHeader, loopEnd, procedureEnd, assignment,
        dottedName]
    · exact absurd hstring hstate
    · rw [hheader, hstates.headerRules]
      revert meaning
      simp [Form.header, Emit.labels]
  have hdefault : (lexer.rules.state turn.state).default ≠ some .escape := by
    rcases hstates.eq_or hnames turn.state with hstart | hstring | hheader
    · rw [hstart, Lexer.start, hstates.formed.startDefault]
      simp
    · exact absurd hstring hstate
    · rw [hheader, hstates.headerDefault]
      simp
  intro token htoken
  cases htakes with
  | @matched state start _ rule found _ _ hfirst _ _ _ =>
      obtain ⟨label, hlabel, hcategory⟩ := Lexer.exists_label_of_mem_emit htoken
      rw [hcategory]
      apply resolve_ne hkeywords hplain
      intro h
      rw [h] at hlabel
      exact hrules rule (State.mem_of_firstMatch? hfirst).1 hlabel
  | unmatched _ _ =>
      obtain ⟨category, hcategory, rfl⟩ := List.mem_map.mp htoken
      intro h
      rw [show category = .escape from h] at hcategory
      exact hdefault (Option.mem_toList.mp hcategory)

/-! ### Statements that stay -/

/-- What has been grouped stays: the statements that have ended, and the items behind them, which
begin the next one. -/
inductive Grouping.Stays (g : Grouping) : Grouping → Prop where
  /-- No statement has ended since. -/
  | current (items : List Item) (open? : Option Text) :
      Stays g ⟨g.done, g.current ++ items, open?⟩
  /-- The statement that was being read has ended, and others behind it. -/
  | ended (items : List Item) (rest : List Statement) (current : Statement)
      (open? : Option Text) : Stays g ⟨g.done ++ (g.current ++ items) :: rest, current, open?⟩

namespace Grouping.Stays

variable {g' g'' : Grouping}

/-- The string being read does not matter. -/
theorem setOpen (g : Grouping) (open? : Option Text) : g.Stays { g with open? } := by
  have h := Stays.current (g := g) [] open?
  rwa [List.append_nil] at h

theorem refl (g : Grouping) : g.Stays g := setOpen g g.open?

theorem trans (h : g.Stays g') (h' : g'.Stays g'') : g.Stays g'' := by
  cases h with
  | current items open? =>
      cases h' with
      | current more open? =>
          rw [List.append_assoc]
          exact .current (items ++ more) open?
      | ended more rest current open? =>
          rw [List.append_assoc]
          exact .ended (items ++ more) rest current open?
  | ended items rest current open? =>
      cases h' with
      | current more open? => exact .ended items rest _ open?
      | ended more rest' current' open? =>
          have hdone := Stays.ended (g := g) items (rest ++ (current ++ more) :: rest') current'
            open?
          rwa [← List.cons_append, ← List.append_assoc] at hdone

/-- What each step keeps, all of them keep. -/
theorem foldl {α : Type} {step : Grouping → α → Grouping}
    (hstep : ∀ (g : Grouping) (a : α), g.Stays (step g a)) (l : List α) (g : Grouping) :
    g.Stays (l.foldl step g) := by
  induction l generalizing g with
  | nil => exact refl g
  | cons a l ih => exact (hstep g a).trans (ih (step g a))

theorem endStatement (g : Grouping) : g.Stays g.endStatement := by
  unfold Grouping.endStatement
  split
  · exact refl g
  · have h := Stays.ended (g := g) [] [] [] g.open?
    rwa [List.append_nil] at h

/-- **A token leaves what has been grouped.** -/
theorem addToken (line : Text) (g : Grouping) (token : Token) :
    g.Stays (Grouping.addToken line g token) := by
  unfold Grouping.addToken
  split
  · unfold addInside
    split
    · exact .current _ _
    · split
      · exact setOpen g _
      · exact setOpen g _
  · unfold addOutside
    split
    · exact refl g
    · exact setOpen g _
    · split
      · exact endStatement g
      · exact .current _ _
    · exact .current _ _

theorem endLine (g : Grouping) : g.Stays g.endLine := setOpen g _

theorem addLine {n : Nat} (g : Grouping) (line : LexedLine n) : g.Stays (g.addLine line) :=
  (foldl (addToken line.text) line.tokens g).trans (endLine _)

/-- What has been grouped is found in the statements. -/
theorem statements (h : g.Stays g') : g.done <+: g'.statements ∧
    (g.current ≠ [] → ∃ items, g.done ++ [g.current ++ items] <+: g'.statements) := by
  have hcurrent := current_endStatement g'
  have hend := h.trans (endStatement g')
  unfold Grouping.statements
  generalize g'.endStatement = last at hend hcurrent
  cases hend with
  | current items open? =>
      refine ⟨List.prefix_refl _, fun hne => ?_⟩
      exact absurd (List.append_eq_nil_iff.mp hcurrent).1 hne
  | ended items rest current open? =>
      refine ⟨List.prefix_append _ _, fun _ => ⟨items, rest, ?_⟩⟩
      rw [List.append_assoc, List.singleton_append]

end Grouping.Stays

/-! ### Scripts -/

/-- The token of a turn of a line is the next one to be grouped, and `g` is what has been grouped
before it. -/
def Meets (lexer : Lexer) (text : Text) (line : LexedLine lexer.rules.size)
    (turn : Turn lexer.rules.size) (token : Token) (g : Grouping) : Prop :=
  ∃ earlier later before after seen more,
    (lexer.tokenizeDocument text).lines = earlier ++ line :: later ∧
      lexer.lineTurns line.entered line.text = before ++ turn :: after ∧
      lexer.tokensOf turn = seen ++ token :: more ∧
      g = seen.foldl (addToken line.text)
        ((before.flatMap lexer.tokensOf).foldl (addToken line.text) (earlier.foldl addLine .empty))

/-- How the strings of a script are grouped, in step with the lexer. -/
structure InStep (lexer : Lexer) (string : lexer.rules.StateId) (text : Text) : Prop where
  /-- After a line a string is being read exactly if the line leaves the state for strings. -/
  lines : ∀ earlier line later, (lexer.tokenizeDocument text).lines = earlier ++ line :: later →
    ((addLine (earlier.foldl addLine .empty) line).open?.isSome = true ↔
      (lexer.tokenizeLine line.entered line.text).2 = string)
  /-- Every token that is grouped belongs to a turn of its line. -/
  met : ∀ earlier line later seen token more,
    (lexer.tokenizeDocument text).lines = earlier ++ line :: later →
      line.tokens = seen ++ token :: more →
        ∃ turn, Meets lexer text line turn token
          (seen.foldl (addToken line.text) (earlier.foldl addLine .empty))
  /-- A turn that leads into the state for strings, or out of it, has one token. -/
  single : ∀ line ∈ (lexer.tokenizeDocument text).lines,
    ∀ turn ∈ lexer.lineTurns line.entered line.text, turn.Enters string ∨ turn.Leaves string →
      ∃ token, lexer.tokensOf turn = [token]
  /-- At a token a string is being read exactly if the token was found in the state for strings. -/
  follows : ∀ line turn token g, Meets lexer text line turn token g →
    (g.open?.isSome = true ↔ turn.state = string)
  /-- A token begins a string exactly if its rule leads into the state for strings. -/
  begins : ∀ line turn token g, Meets lexer text line turn token g →
    (g.open? = none ∧ (addToken line.text g token).open?.isSome = true ↔ turn.Enters string)
  /-- A token ends a string exactly if its rule leads out of that state. -/
  ends : ∀ line turn token g, Meets lexer text line turn token g →
    (g.open?.isSome = true ∧ (addToken line.text g token).open? = none ↔ turn.Leaves string)
  /-- What is found inside a string goes to its body, whatever it is: it is no item and ends no
  statement.  The one item is the string itself, when it ends. -/
  inside : ∀ line turn token g, Meets lexer text line turn token g → turn.state = string →
    ∃ body, g.open? = some body ∧
      (turn.Leaves string ∧
          addToken line.text g token = ⟨g.done, g.current ++ [.literal body], none⟩ ∨
        ¬ turn.Leaves string ∧
          ∃ more, addToken line.text g token = ⟨g.done, g.current, some (body ++ more)⟩)
  /-- There are no escapes outside strings. -/
  escapes : ∀ line turn token g, Meets lexer text line turn token g →
    token.category = .escape → g.open?.isSome = true
  /-- The statements of the script are what has been grouped after its last line. -/
  grouped : Gibiane.statements (lexer.tokenizeDocument text) =
    ((lexer.tokenizeDocument text).lines.foldl addLine .empty).statements
  /-- What has been grouped before a token is found in them: the statements that have ended are the
  first ones, and the items behind those, if there are any, begin the next. -/
  kept : ∀ line turn token g, Meets lexer text line turn token g →
    g.done <+: Gibiane.statements (lexer.tokenizeDocument text) ∧
      (g.current ≠ [] → ∃ items,
        g.done ++ [g.current ++ items] <+: Gibiane.statements (lexer.tokenizeDocument text))

/-- A token of some turns is a token of one of them. -/
theorem exists_turn_of_tokens {turns : List (Turn lexer.rules.size)} {seen more : List Token}
    (h : turns.flatMap lexer.tokensOf = seen ++ token :: more) :
    ∃ before turn after first last, turns = before ++ turn :: after ∧
      lexer.tokensOf turn = first ++ token :: last ∧
      seen = before.flatMap lexer.tokensOf ++ first := by
  induction turns generalizing seen with
  | nil => exact absurd h (by simp)
  | cons turn turns ih =>
      rw [List.flatMap_cons] at h
      rcases List.append_eq_append_iff.mp h with ⟨rest, rfl, hrest⟩ | ⟨rest, hfirst, hrest⟩
      · obtain ⟨before, found, after, first, last, rfl, htokens, rfl⟩ := ih hrest
        exact ⟨turn :: before, found, after, first, last, rfl, htokens, by simp⟩
      · cases rest with
        | nil =>
            have hnext : turns.flatMap lexer.tokensOf = [] ++ token :: more := hrest.symm
            obtain ⟨before, found, after, first, last, rfl, htokens, hseen⟩ := ih hnext
            refine ⟨turn :: before, found, after, first, last, rfl, htokens, ?_⟩
            rw [List.flatMap_cons, List.append_assoc, ← hseen, hfirst, List.append_nil,
              List.append_nil]
        | cons other rest =>
            obtain ⟨rfl, -⟩ := List.cons.inj hrest
            exact ⟨[], turn, turns, seen, rest, rfl, hfirst, by simp⟩

/-- The turn of a token that is grouped reads something. -/
theorem Meets.exists_takes {text : Text} {line : LexedLine lexer.rules.size}
    {turn : Turn lexer.rules.size} (h : Meets lexer text line turn token g) :
    ∃ read, lexer.Takes turn read := by
  obtain ⟨_, _, before, after, _, _, -, hturns, -, -⟩ := h
  have hruns := lexer.lineTurns_runs line.entered line.text
  rw [hturns] at hruns
  have hmem : turn ∈ before ++ turn :: after := by simp
  exact (hruns.standsIn (.atStart line.text) turn hmem).2

/-- The tokens of a line are those of its turns. -/
theorem tokens_eq_of_lines {text : Text} {line : LexedLine lexer.rules.size}
    {earlier later : List (LexedLine lexer.rules.size)}
    (hlines : (lexer.tokenizeDocument text).lines = earlier ++ line :: later) :
    line.tokens = (lexer.lineTurns line.entered line.text).flatMap lexer.tokensOf :=
  (lexer.tokenizeDocument_threads text).tokens line (by simp [hlines])

/-- Every token that is grouped belongs to a turn. -/
theorem exists_meets {text : Text} {line : LexedLine lexer.rules.size}
    {earlier later : List (LexedLine lexer.rules.size)} {seen more : List Token}
    (hlines : (lexer.tokenizeDocument text).lines = earlier ++ line :: later)
    (htokens : line.tokens = seen ++ token :: more) :
    ∃ turn, Meets lexer text line turn token
      (seen.foldl (addToken line.text) (earlier.foldl addLine .empty)) := by
  rw [tokens_eq_of_lines hlines] at htokens
  obtain ⟨before, turn, after, first, last, hturns, hfirst, rfl⟩ := exists_turn_of_tokens htokens
  refine ⟨turn, earlier, later, before, after, first, last, hlines, hturns, hfirst, ?_⟩
  rw [List.foldl_append]

/-- What has been grouped before a token stays to the end of the script. -/
theorem Meets.stays {text : Text} {line : LexedLine lexer.rules.size}
    {turn : Turn lexer.rules.size} (h : Meets lexer text line turn token g) :
    g.Stays ((lexer.tokenizeDocument text).lines.foldl addLine .empty) := by
  obtain ⟨earlier, later, before, after, seen, more, hlines, hturns, htokens, rfl⟩ := h
  have hall : line.tokens = before.flatMap lexer.tokensOf ++
      (seen ++ token :: (more ++ after.flatMap lexer.tokensOf)) := by
    rw [tokens_eq_of_lines hlines, hturns, List.flatMap_append, List.flatMap_cons, htokens,
      List.append_assoc, List.cons_append]
  rw [hlines, List.foldl_append, List.foldl_cons, Grouping.addLine, hall, List.foldl_append,
    List.foldl_append]
  have hline := Grouping.Stays.foldl (Grouping.Stays.addToken line.text)
    (token :: (more ++ after.flatMap lexer.tokensOf)) (seen.foldl (addToken line.text)
      ((before.flatMap lexer.tokensOf).foldl (addToken line.text) (earlier.foldl addLine .empty)))
  exact (hline.trans (.endLine _)).trans (.foldl .addLine later _)

section Script

variable {text : Text} {line : LexedLine lexer.rules.size}
  {earlier later : List (LexedLine lexer.rules.size)} {turn : Turn lexer.rules.size}
  (hplays : ∀ {turn : Turn lexer.rules.size} {read : Text}, lexer.Takes turn read →
    Plays lexer string turn)
  (hstart : lexer.start ≠ string)

include hplays hstart

/-- Grouping is in step at the start of each line and at its end. -/
theorem follows_line (hlines : (lexer.tokenizeDocument text).lines = earlier ++ line :: later) :
    Follows string line.entered (earlier.foldl addLine .empty) ∧
      Follows string (lexer.tokenizeLine line.entered line.text).2
        (addLine (earlier.foldl addLine .empty) line) := by
  have hempty : Follows string lexer.start Grouping.empty := by
    simp [Follows, Grouping.empty, hstart]
  have hthreads := lexer.tokenizeDocument_threads text
  rw [hlines] at hthreads
  obtain ⟨mid, hearlier, hline⟩ := hthreads.split
  have hbefore := follows_threads hplays hempty hearlier
  cases hline with
  | cons hentered htokens _ =>
      subst hentered
      have hone := Lexer.Threads.cons rfl htokens (.nil _)
      exact ⟨hbefore, follows_threads hplays hbefore hone⟩

/-- Grouping is in step at each token. -/
theorem Meets.follows (h : Meets lexer text line turn token g) :
    Follows string turn.state g ∧ Plays lexer string turn ∧ token ∈ lexer.tokensOf turn := by
  obtain ⟨earlier, later, before, after, seen, more, hlines, hturns, htokens, rfl⟩ := h
  have hentered := (follows_line hplays hstart hlines).1
  have hruns := lexer.lineTurns_runs line.entered line.text
  rw [hturns] at hruns
  obtain ⟨hturn, hturnPlays⟩ := follows_before hplays line.text hentered hruns
  refine ⟨follows_token line.text hturn hturnPlays htokens, hturnPlays, ?_⟩
  rw [htokens]
  exact List.mem_append_right _ List.mem_cons_self

end Script

/-- The rules of Gibiane have one state for strings. -/
theorem Uniform.eq_of_formed {string' : lexer.rules.StateId} (huniform : Uniform lexer.rules string)
    (hformed : Formed lexer.rules string' header) : string' = string := by
  by_contra hne
  exact huniform.default string' hne hformed.stringDefault

/-- **Grouping is in step with the lexer.**  Over all lines of a script a string is being read exactly
while the lexer is in the state for strings; it begins and ends with the tokens of the rules that
lead into this state and out of it, and what is found in between is its body. -/
theorem exists_lexer_inStep :
    ∃ lexer, Gibiane.lexer = .ok lexer ∧ ∃ string, lexer.rules.stateId? "string" = some string ∧
      ∀ text, InStep lexer string text := by
  obtain ⟨lexer, hlexer, ⟨string, header, hstates⟩, hkeywords⟩ := exists_lexer_statesFormed
  obtain ⟨other, hother, ⟨string', _, -, huniform⟩, -⟩ := exists_lexer_uniform
  obtain rfl := Except.ok.inj (hlexer.symm.trans hother)
  obtain rfl := huniform.eq_of_formed hstates.formed
  obtain ⟨other, hother, -, hsound⟩ := exists_lexer
  obtain rfl := Except.ok.inj (hlexer.symm.trans hother)
  have hplays : ∀ {turn : Turn lexer.rules.size} {read : Text}, lexer.Takes turn read →
      Plays lexer string turn := plays_of_takes huniform hkeywords hstates.formed
  have hstart := hstates.formed.start_ne_string
  refine ⟨lexer, hlexer, string, hstates.stringName, fun text => ?_⟩
  refine ⟨?_, ?_, ?_, ?_, ?_, ?_, ?_, ?_, rfl, ?_⟩
  · intro earlier line later hlines
    exact (follows_line hplays hstart hlines).2
  · intro earlier line later seen token more hlines htokens
    exact exists_meets hlines htokens
  · intro line _ turn hturn hcrosses
    obtain ⟨-, read, htakes⟩ :=
      (lexer.lineTurns_runs line.entered line.text).standsIn (.atStart line.text) turn hturn
    exact (hplays htakes).exists_token hcrosses
  · intro line turn token g hmeets
    exact (hmeets.follows hplays hstart).1
  · intro line turn token g hmeets
    obtain ⟨hfollows, hturn, htoken⟩ := hmeets.follows hplays hstart
    exact hturn.begins_iff line.text hfollows htoken
  · intro line turn token g hmeets
    obtain ⟨hfollows, hturn, htoken⟩ := hmeets.follows hplays hstart
    exact hturn.ends_iff line.text hfollows htoken
  · intro line turn token g hmeets hstate
    obtain ⟨hfollows, hturn, htoken⟩ := hmeets.follows hplays hstart
    exact hturn.exists_body line.text hfollows htoken hstate
  · intro line turn token g hmeets hescape
    obtain ⟨hfollows, -, htoken⟩ := hmeets.follows hplays hstart
    obtain ⟨read, htakes⟩ := hmeets.exists_takes
    apply hfollows.mpr
    by_contra hstate
    exact ne_escape_of_ne_string hstates hsound.names hkeywords hstate htakes token htoken hescape
  · intro line turn token g hmeets
    exact hmeets.stays.statements

end Gibiane

end LineLexer
