/-
Flags of a pattern, and why a pattern text cannot be read.

Flags change how the text after them is read: `(?i)` holds to the end of the group it
stands in, `(?i:…)` inside its own group.  A pattern starts with Unicode off, so that
`\w`, `\b` and case mean ASCII, and with case folding as its state asks.
-/
import LineLexer.CharSet

namespace LineLexer

/-! ### Malformed patterns -/

/-- A reason for which a pattern text is malformed. -/
inductive PatternDefect where
  /-- A group is opened and not closed. -/
  | unclosedGroup
  /-- A group is closed that was not opened. -/
  | unopenedGroup
  /-- A repetition has nothing before it to repeat. -/
  | nothingToRepeat
  /-- A counted repetition has no count, no end, or bounds in the wrong order. -/
  | badCount
  /-- A backslash starts nothing known, or a character number is not one. -/
  | badEscape
  /-- A class is opened and not closed. -/
  | unclosedClass
  /-- A class holds something that is not a set of characters. -/
  | badClassItem
  /-- A range of a class runs backwards. -/
  | badRange
  /-- The flags of a group are unknown, repeated or missing. -/
  | badFlags
  /-- The name of a group is empty, malformed, unfinished or taken. -/
  | badGroupName
  /-- A group looks ahead or behind. -/
  | lookAround
  /-- An item could match part of a character: outside a Unicode group only ASCII sets are whole. -/
  | splitsCharacters
  /-- A class is given by a Unicode property. -/
  | propertyClass
deriving DecidableEq, Repr

/-- The text shown for a malformed pattern, which names no particular reason. -/
def PatternDefect.message (_ : PatternDefect) : String := "SYNTAX"

/-! ### Flags -/

/-- How pattern text is to be read. -/
structure Flags where
  /-- Letters match in either case. -/
  caseInsensitive : Bool
  /-- `^` and `$` match at every line. -/
  multiLine : Bool
  /-- `.` matches line feeds too. -/
  dotAll : Bool
  /-- Repetitions are lazy unless marked otherwise. -/
  swapGreed : Bool
  /-- Classes, `.` and case cover all scripts. -/
  unicode : Bool
  /-- Lines also end at carriage returns. -/
  crlf : Bool
  /-- Blanks and comments in the pattern are skipped. -/
  verbose : Bool
deriving DecidableEq, Repr

namespace Flags

/-- The flags a pattern starts with. -/
def initial (caseInsensitive : Bool) : Flags :=
  ⟨caseInsensitive, false, false, false, false, false, false⟩

/-- The flags after switching the one with this letter; none if no flag has the letter. -/
def set? (flags : Flags) (letter : Char) (on : Bool) : Option Flags :=
  match letter with
  | 'i' => some { flags with caseInsensitive := on }
  | 'm' => some { flags with multiLine := on }
  | 's' => some { flags with dotAll := on }
  | 'U' => some { flags with swapGreed := on }
  | 'u' => some { flags with unicode := on }
  | 'R' => some { flags with crlf := on }
  | 'x' => some { flags with verbose := on }
  | _ => none

/-- The set with the other cases of its characters, if case is ignored. -/
def fold (flags : Flags) (set : CharSet) : CharSet :=
  if flags.caseInsensitive then
    if flags.unicode then set.foldUnicode else set.foldAscii
  else set

/-- The characters not in the set; outside Unicode that would split characters. -/
def negate (flags : Flags) (set : CharSet) : Except PatternDefect CharSet :=
  if flags.unicode then .ok set.complement else .error .splitsCharacters

/-- The set, or its complement where `negated` asks for that. -/
def negateIf (flags : Flags) (negated : Bool) (set : CharSet) : Except PatternDefect CharSet :=
  if negated then flags.negate set else .ok set

/-- What is left of the pattern after the blanks and comments that `verbose` skips. -/
def skip (flags : Flags) (t : Text) : Text := if flags.verbose then go false t else t
where
  /-- Skips, inside a comment or not. -/
  go : Bool → Text → Text
    | _, [] => []
    | true, c :: rest => go (c != '\n') rest
    | false, c :: rest =>
      if isBlank c then go false rest else if c = '#' then go true rest else c :: rest

/-- The flags named before a closing character, with what follows it. -/
def readNames (flags : Flags) (t : Text) :
    Except PatternDefect (Flags × List Char × Char × Text) :=
  go flags [] true false t
where
  /-- Reads on, with the flags so far, the letters seen, whether they switch on, and whether a
  minus sign was the last thing read. -/
  go (flags : Flags) (seen : List Char) (on afterMinus : Bool) :
      Text → Except PatternDefect (Flags × List Char × Char × Text)
    | [] => .error .unclosedGroup
    | c :: rest =>
      if c = ':' ∨ c = ')' then
        if afterMinus then .error .badFlags else .ok (flags, seen, c, rest)
      else if seen.contains c then .error .badFlags
      else if c = '-' then go flags (c :: seen) false true rest
      else match flags.set? c on with
        | some flags => go flags (c :: seen) on false rest
        | none => .error .badFlags

end Flags

end LineLexer
