/-
Bracketed classes.

A class is a union of characters, ranges, lettered and named classes and nested
brackets, on which `&&`, `--` and `~~` work from left to right with equal rank.
Outside a Unicode group a class holds ASCII characters only and cannot be negated,
since the complement would hold parts of characters.
-/
import LineLexer.Pattern.Escape

namespace LineLexer

/-- How two parts of a class combine. -/
inductive ClassOp where
  /-- `&&` -/
  | inter
  /-- `--` -/
  | diff
  /-- `~~` -/
  | symmDiff
deriving DecidableEq, Repr

/-- The combination of two sets. -/
def ClassOp.apply : ClassOp → CharSet → CharSet → CharSet
  | inter => CharSet.inter
  | diff => CharSet.diff
  | symmDiff => CharSet.symmDiff

namespace CharClass

/-! ### Named classes -/

/-- The set named between `[:` and `:]`. -/
def named? (name : Text) : Option CharSet :=
  match String.ofList name with
  | "alnum" => some (.ofPairs [(0x30, 0x39), (0x41, 0x5A), (0x61, 0x7A)])
  | "alpha" => some (.ofPairs [(0x41, 0x5A), (0x61, 0x7A)])
  | "ascii" => some (.ofPairs [(0x00, 0x7F)])
  | "blank" => some (.ofPairs [(0x09, 0x09), (0x20, 0x20)])
  | "cntrl" => some (.ofPairs [(0x00, 0x1F), (0x7F, 0x7F)])
  | "digit" => some .asciiDigit
  | "graph" => some (.ofPairs [(0x21, 0x7E)])
  | "lower" => some (.range 'a' 'z')
  | "print" => some (.ofPairs [(0x20, 0x7E)])
  | "punct" => some (.ofPairs [(0x21, 0x2F), (0x3A, 0x40), (0x5B, 0x60), (0x7B, 0x7E)])
  | "space" => some .asciiSpace
  | "upper" => some (.range 'A' 'Z')
  | "word" => some .asciiWord
  | "xdigit" => some (.ofPairs [(0x30, 0x39), (0x41, 0x46), (0x61, 0x66)])
  | _ => none

/-- A named class after its opening bracket: the set, whether it is negated, and the rest.  None if
the text is no such class; then the bracket opens an ordinary one. -/
def readNamed? (t : Text) : Option (CharSet × Bool × Text) :=
  match t with
  | ':' :: t =>
    let negated := t.head? == some '^'
    let t := if negated then t.drop 1 else t
    match t.dropWhile (· ≠ ':') with
    | ':' :: ']' :: rest => (named? (t.takeWhile (· ≠ ':'))).map fun set => (set, negated, rest)
    | _ => none
  | _ => none

/-! ### Items -/

/-- One character or escape, as it may stand in a class. -/
def readAtom (flags : Flags) : Text → Except PatternDefect (Atom × Text)
  | [] => .error .unclosedClass
  | '\\' :: rest => Escape.read flags rest
  | c :: rest => .ok (.literal c false, rest)

/-- The character of a literal: outside Unicode an ASCII one. -/
def literal (flags : Flags) : Atom → Except PatternDefect Char
  | .literal c _ =>
    if flags.unicode || c.toNat < 0x80 then .ok c else .error .splitsCharacters
  | _ => .error .badClassItem

/-- The set an item that is no range stands for. -/
def itemSet (flags : Flags) : Atom → Except PatternDefect CharSet
  | .letterClass cls negated => cls.read flags negated
  | atom => (literal flags atom).map .single

/-- A character, an escape or a range. -/
def readItem (flags : Flags) (t : Text) : Except PatternDefect (CharSet × Text) := do
  let (first, t) ← readAtom flags t
  let t := flags.skip t
  match t with
  | [] => .error .unclosedClass
  | '-' :: rest =>
    let rest := flags.skip rest
    if rest.head? = some ']' ∨ rest.head? = some '-' then
      return (← itemSet flags first, t)
    else
      let (last, rest) ← readAtom flags rest
      let lo ← literal flags first
      let hi ← literal flags last
      if lo ≤ hi then return (.range lo hi, rest) else .error .badRange
  | _ => return (← itemSet flags first, t)

/-- What the opening bracket is followed by: whether the class is negated, the dashes or the closing
bracket that stand for themselves, and the rest. -/
def readOpening (flags : Flags) (t : Text) : Bool × CharSet × Text :=
  let t := flags.skip t
  let negated := t.head? == some '^'
  let t := if negated then flags.skip (t.drop 1) else t
  let dashes := t.takeWhile (fun c => c == '-' || flags.verbose && isBlank c)
  let t' := t.drop dashes.length
  if dashes.contains '-' then (negated, .single '-', t')
  else if t'.head? = some ']' then (negated, .single ']', flags.skip (t'.drop 1))
  else (negated, .empty, t')

/-! ### Whole classes -/

/-- The part read last, combined with the parts before it. -/
def combine (flags : Flags) (pending : Option (ClassOp × CharSet)) (part : CharSet) : CharSet :=
  match pending with
  | none => part
  | some (op, before) => op.apply (flags.fold before) (flags.fold part)

/-- The rest of a class up to its closing bracket, after the parts in `pending` and the items in
`part`.  Every round consumes a character, which bounds `fuel`. -/
def readRest (flags : Flags) :
    Nat → Option (ClassOp × CharSet) → CharSet → Text → Except PatternDefect (CharSet × Text)
  | 0, _, _, _ => .error .unclosedClass
  | fuel + 1, pending, part, t =>
    match flags.skip t with
    | [] => .error .unclosedClass
    | ']' :: rest => .ok (combine flags pending part, rest)
    | '&' :: '&' :: rest =>
      readRest flags fuel (some (.inter, combine flags pending part)) .empty rest
    | '-' :: '-' :: rest =>
      readRest flags fuel (some (.diff, combine flags pending part)) .empty rest
    | '~' :: '~' :: rest =>
      readRest flags fuel (some (.symmDiff, combine flags pending part)) .empty rest
    | '[' :: rest =>
      match readNamed? rest with
      | some (set, negated, rest) => do
        let set ← flags.negateIf negated (flags.fold set)
        readRest flags fuel pending (part.union set) rest
      | none => do
        let (negated, opening, rest) := readOpening flags rest
        let (set, rest) ← readRest flags fuel none opening rest
        let set ← flags.negateIf negated (flags.fold set)
        readRest flags fuel pending (part.union set) rest
    | t => do
      let (set, rest) ← readItem flags t
      readRest flags fuel pending (part.union set) rest

/-- A class, from the text after its opening bracket. -/
def read (flags : Flags) (t : Text) : Except PatternDefect (CharSet × Text) := do
  let (negated, opening, rest) := readOpening flags t
  let (set, rest) ← readRest flags (rest.length + 1) none opening rest
  let set ← flags.negateIf negated (flags.fold set)
  return (set, rest)

end CharClass

end LineLexer
