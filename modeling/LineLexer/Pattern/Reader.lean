/-
Reading a pattern text.

Patterns are read in one pass: flags are resolved on the way, so what comes out is
already a tree of sets, assertions, choices, repetitions and numbered groups.  Groups
are numbered by their opening parentheses.  The reader of a whole pattern, `Node.read`,
is one recursion over the branches of a group; each call consumes a character, so the
length of the text bounds its depth.
-/
import LineLexer.Pattern.Class
import LineLexer.Pattern.Node
import LineLexer.Unicode.Letter

namespace LineLexer

namespace Reader

/-- What has been used up by the groups read so far. -/
structure Groups where
  /-- The number of groups opened. -/
  count : Nat
  /-- The names taken. -/
  names : List Text
deriving DecidableEq, Repr

/-! ### Opening a group -/

/-- What an opening parenthesis turned out to be. -/
inductive Opening where
  /-- Flags for the rest of the enclosing group. -/
  | directive (flags : Flags)
  /-- A group that is not remembered, read with these flags. -/
  | plain (flags : Flags)
  /-- A remembered group. -/
  | capture (index : Nat)
deriving DecidableEq, Repr

/-- A group's name up to its closing bracket, and the rest. -/
def readName (groups : Groups) (t : Text) : Except PatternDefect (Text × Text) :=
  let name := t.takeWhile (· ≠ '>')
  let isFirst (c : Char) := c == '_' || Unicode.isAlphabetic c
  let isNext (c : Char) :=
    c == '_' || c == '.' || c == '[' || c == ']' || Unicode.isAlphanumeric c
  match t.drop name.length, name with
  | _ :: rest, c :: cs =>
    if isFirst c && cs.all isNext && !groups.names.contains name then .ok (name, rest)
    else .error .badGroupName
  | _, _ => .error .badGroupName

/-- Opens a remembered group with the next number. -/
def Groups.open (groups : Groups) (name : Option Text) : Opening × Groups :=
  (.capture (groups.count + 1), ⟨groups.count + 1, name.toList ++ groups.names⟩)

/-- Reads what follows an opening parenthesis. -/
def readOpening (flags : Flags) (groups : Groups) (t : Text) :
    Except PatternDefect (Opening × Groups × Text) :=
  match flags.skip t with
  | '?' :: '=' :: _ | '?' :: '!' :: _ | '?' :: '<' :: '=' :: _ | '?' :: '<' :: '!' :: _ =>
    .error .lookAround
  | '?' :: 'P' :: '<' :: t | '?' :: '<' :: t => do
    let (name, rest) ← readName groups t
    let (opening, groups) := groups.open name
    return (opening, groups, rest)
  | '?' :: t => do
    let (inner, letters, closing, rest) ← flags.readNames t
    if closing = ':' then return (.plain inner, groups, rest)
    else if letters.isEmpty then .error .nothingToRepeat
    else return (.directive inner, groups, rest)
  | t =>
    let (opening, groups) := groups.open none
    .ok (opening, groups, t)

/-! ### Repetition -/

/-- The digits of a count, past the blanks on either side. -/
def readCount (flags : Flags) (t : Text) : Option Nat × Text :=
  let t := Text.trimStart t
  let digits := t.takeWhile (fun c => c.isDigit || flags.verbose && isBlank c)
  let rest := Text.trimStart (t.drop digits.length)
  let digits := digits.filter Char.isDigit
  if digits.isEmpty then (none, rest)
  else (some (digits.foldl (fun n c => 10 * n + (c.toNat - 48)) 0), rest)

/-- The largest count a repetition may name. -/
def maxCount : Nat := 4294967295

/-- The bounds between braces, from the text after the opening one. -/
def readBounds (flags : Flags) (t : Text) :
    Except PatternDefect (Nat × Option Nat × Text) :=
  let closed (min : Nat) (max : Option Nat) (t : Text) :
      Except PatternDefect (Nat × Option Nat × Text) :=
    match t with
    | '}' :: rest =>
      if min ≤ maxCount ∧ max.all (fun n => min ≤ n && n ≤ maxCount) then
        .ok (min, max, flags.skip rest)
      else .error .badCount
    | _ => .error .badCount
  match readCount flags (flags.skip t) with
  | (some min, ',' :: rest) =>
    let rest := flags.skip rest
    if rest.head? = some '}' then closed min none rest
    else match readCount flags rest with
      | (some max, rest) => closed min (some max) rest
      | (none, _) => .error .badCount
  | (some min, rest) => closed min (some min) rest
  | (none, _) => .error .badCount

/-- A repetition's bounds, from the text that starts with its operator; none if there is no
operator. -/
def readOperator? (flags : Flags) (t : Text) :
    Option (Except PatternDefect (Nat × Option Nat × Text)) :=
  match t with
  | '?' :: rest => some (.ok (0, some 1, rest))
  | '*' :: rest => some (.ok (0, none, rest))
  | '+' :: rest => some (.ok (1, none, rest))
  | '{' :: rest => some (readBounds flags rest)
  | _ => none

/-- Repeats the item read last; a directive cannot be repeated. -/
def repeatLast (flags : Flags) (min : Nat) (max : Option Nat) (lazy : Bool) :
    List (Option Node) → Except PatternDefect (List (Option Node))
  | some body :: before =>
    .ok (some (.repeated body min max (lazy == flags.swapGreed)) :: before)
  | _ => .error .nothingToRepeat

/-! ### Single items -/

/-- A character outside a class. -/
def literal (flags : Flags) (c : Char) (byte : Bool) : Except PatternDefect Node :=
  if byte && !flags.unicode && 0x80 ≤ c.toNat then .error .splitsCharacters
  else .ok (.chars (flags.fold (.single c)))

/-- Any character, line ends apart unless the flags include them. -/
def dot (flags : Flags) : Except PatternDefect Node :=
  if !flags.unicode then .error .splitsCharacters
  else if flags.dotAll then .ok (.chars .all)
  else if flags.crlf then .ok (.chars (.diff .all (.ofPairs [(0x0A, 0x0A), (0x0D, 0x0D)])))
  else .ok (.chars (.diff .all (.single '\n')))

/-- What a backslash sequence matches outside a class. -/
def atomNode (flags : Flags) : Atom → Except PatternDefect Node
  | .literal c byte => literal flags c byte
  | .letterClass cls negated => (cls.read flags negated).map .chars
  | .look demand => .ok (.look demand)

/-- One item that is neither a group nor an operator, and the rest. -/
def readItem (flags : Flags) : Text → Except PatternDefect (Node × Text)
  | [] => .ok (.empty, [])
  | c :: rest =>
    match c with
    | '[' => do
      let (set, rest) ← CharClass.read flags rest
      return (.chars set, rest)
    | '\\' => do
      let (atom, rest) ← Escape.read flags rest
      return (← atomNode flags atom, rest)
    | '.' => do return (← dot flags, rest)
    | '^' => .ok (.look (if flags.multiLine then .lineStart flags.crlf else .textStart), rest)
    | '$' => .ok (.look (if flags.multiLine then .lineEnd flags.crlf else .textEnd), rest)
    | c => do return (← literal flags c false, rest)

/-! ### Branches -/

/-- The items of a branch, read last first, as one node. -/
def branch (items : List (Option Node)) : Node := .concat (items.reverse.filterMap id)

/-- The branches of a group up to its closing parenthesis or the end of the pattern.  `done` holds
the branches finished and `items` those of the current one, both last first. -/
def readBranches :
    Nat → Flags → Groups → List Node → List (Option Node) → Text →
      Except PatternDefect (Node × Groups × Text)
  | 0, _, _, _, _, _ => .error .unclosedGroup
  | fuel + 1, flags, groups, done, items, t =>
    let t := flags.skip t
    match t with
    | [] => .ok (.choice (branch items :: done).reverse, groups, t)
    | ')' :: _ => .ok (.choice (branch items :: done).reverse, groups, t)
    | '|' :: rest => readBranches fuel flags groups (branch items :: done) [] rest
    | '(' :: rest => do
      let (opening, groups, rest) ← readOpening flags groups rest
      match opening with
      | .directive flags => readBranches fuel flags groups done (none :: items) rest
      | .plain inner =>
        let (body, groups, rest) ← readBranches fuel inner groups [] [] rest
        match rest with
        | _ :: rest => readBranches fuel flags groups done (some body :: items) rest
        | [] => .error .unclosedGroup
      | .capture index =>
        let (body, groups, rest) ← readBranches fuel flags groups [] [] rest
        match rest with
        | _ :: rest => readBranches fuel flags groups done (some (.group index body) :: items) rest
        | [] => .error .unclosedGroup
    | _ =>
      match readOperator? flags t with
      | some bounds => do
        let (min, max, rest) ← bounds
        let lazy := rest.head? == some '?'
        let items ← repeatLast flags min max lazy items
        readBranches fuel flags groups done items (if lazy then rest.drop 1 else rest)
      | none => do
        let (item, rest) ← readItem flags t
        readBranches fuel flags groups done (some item :: items) rest

end Reader

/-- The node a pattern text describes. -/
def Node.read (caseInsensitive : Bool) (t : Text) : Except PatternDefect Node := do
  let (node, _, rest) ←
    Reader.readBranches (t.length + 1) (.initial caseInsensitive) ⟨0, []⟩ [] [] t
  if rest.isEmpty then return node else .error .unopenedGroup

end LineLexer
