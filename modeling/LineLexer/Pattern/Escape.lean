/-
Escapes: what may follow a backslash, in a class or outside one.

Classes given by a Unicode property, such as `\pL` and `\p{Greek}`, are refused.  Outside a
Unicode group that is as it has to be, since classes hold ASCII characters only there; inside
one, as in `(?u:\pL)`, such a class has a meaning, but no table of properties is kept here.
-/
import LineLexer.Pattern.Flags
import LineLexer.Pattern.Look

namespace LineLexer

/-- The classes with a letter of their own. -/
inductive LetterClass where
  /-- Decimal digits, `\d`. -/
  | digit
  /-- Blanks, `\s`. -/
  | space
  /-- Word characters, `\w`. -/
  | word
deriving DecidableEq, Repr

/-- What one backslash sequence, or one plain character, stands for. -/
inductive Atom where
  /-- A character; `byte` when it was given as a two-digit number, which outside Unicode means a
  byte. -/
  | literal (c : Char) (byte : Bool)
  /-- A lettered class or its complement. -/
  | letterClass (cls : LetterClass) (negated : Bool)
  /-- A demand on the position. -/
  | look (demand : Look)
deriving DecidableEq, Repr

namespace LetterClass

/-- The characters of the class. -/
def set (unicode : Bool) : LetterClass → CharSet
  | digit => if unicode then .unicodeDigit else .asciiDigit
  | space => if unicode then .unicodeSpace else .asciiSpace
  | word => if unicode then .unicodeWord else .asciiWord

end LetterClass

namespace Escape

/-! ### Character numbers -/

/-- The value of a hexadecimal digit. -/
def hexValue? (c : Char) : Option Nat :=
  if c.isDigit then some (c.toNat - 48)
  else if 'a' ≤ c ∧ c ≤ 'f' then some (c.toNat - 87)
  else if 'A' ≤ c ∧ c ≤ 'F' then some (c.toNat - 55)
  else none

/-- The character with a number, if there is one. -/
def charOf (n : Nat) : Except PatternDefect Char :=
  if n.isValidChar then .ok (Char.ofNat n) else .error .badEscape

/-- A number of exactly so many hexadecimal digits. -/
def readDigits (flags : Flags) : Nat → Nat → Text → Except PatternDefect (Nat × Text)
  | 0, value, t => .ok (value, t)
  | _ + 1, _, [] => .error .badEscape
  | count + 1, value, c :: rest =>
    match hexValue? c with
    | some d => readDigits flags count (16 * value + d) (flags.skip rest)
    | none => .error .badEscape

/-- A number of one hexadecimal digit or more before a closing brace. -/
def readBraced (flags : Flags) (t : Text) : Except PatternDefect (Nat × Text) :=
  let digits := t.takeWhile (· ≠ '}')
  let digits := if flags.verbose then digits.filter (!isBlank ·) else digits
  match t.dropWhile (· ≠ '}'), digits.mapM hexValue? with
  | _ :: rest, some (d :: ds) => .ok ((d :: ds).foldl (16 * · + ·) 0, flags.skip rest)
  | _, _ => .error .badEscape

/-- A character number, braced or of `width` digits. -/
def readNumber (flags : Flags) (width : Nat) (t : Text) : Except PatternDefect (Atom × Text) := do
  match flags.skip t with
  | '{' :: rest =>
    let (n, rest) ← readBraced flags rest
    return (.literal (← charOf n) false, rest)
  | t =>
    let (n, rest) ← readDigits flags width 0 t
    return (.literal (← charOf n) (width == 2), rest)

/-! ### Word boundaries -/

/-- The edge named between braces after a word boundary. -/
def wordEdge? (name : Text) : Option WordEdge :=
  if name = "start".toList then some .start
  else if name = "end".toList then some .stop
  else if name = "start-half".toList then some .startHalf
  else if name = "end-half".toList then some .stopHalf
  else none

/-- A word boundary, with the edge named in braces if there is one; braces that cannot hold a name
are left for a repetition. -/
def readBoundary (flags : Flags) (t : Text) : Except PatternDefect (Atom × Text) :=
  let plain := (Atom.look (.word .boundary flags.unicode), t)
  match t with
  | '{' :: rest =>
    let isNameChar (c : Char) := c.isAlpha || c == '-'
    match flags.skip rest with
    | [] => .error .badCount
    | c :: body =>
      if isNameChar c then
        let inner := (c :: body).takeWhile (fun c => isNameChar c || flags.verbose && isBlank c)
        match (c :: body).drop inner.length, wordEdge? (inner.filter isNameChar) with
        | '}' :: rest, some edge => .ok (.look (.word edge flags.unicode), rest)
        | _, _ => .error .badEscape
      else .ok plain
  | _ => .ok plain

/-! ### All escapes -/

/-- Whether the character stands for itself after a backslash: any ASCII character that is not a
letter or digit, the angle brackets apart. -/
def standsForItself (c : Char) : Bool :=
  c.toNat < 0x80 && !c.isAlphanum && c != '<' && c != '>'

/-- What a backslash stands for, from the text after it; never a class by Unicode property. -/
def read (flags : Flags) : Text → Except PatternDefect (Atom × Text)
  | [] => .error .badEscape
  | c :: rest =>
    if standsForItself c then .ok (.literal c false, rest)
    else match c with
      | 'x' => readNumber flags 2 rest
      | 'u' => readNumber flags 4 rest
      | 'U' => readNumber flags 8 rest
      | 'p' | 'P' => .error .propertyClass
      | 'd' => .ok (.letterClass .digit false, rest)
      | 'D' => .ok (.letterClass .digit true, rest)
      | 's' => .ok (.letterClass .space false, rest)
      | 'S' => .ok (.letterClass .space true, rest)
      | 'w' => .ok (.letterClass .word false, rest)
      | 'W' => .ok (.letterClass .word true, rest)
      | 'a' => .ok (.literal '\x07' false, rest)
      | 'f' => .ok (.literal '\x0c' false, rest)
      | 't' => .ok (.literal '\t' false, rest)
      | 'n' => .ok (.literal '\n' false, rest)
      | 'r' => .ok (.literal '\r' false, rest)
      | 'v' => .ok (.literal '\x0b' false, rest)
      | 'A' => .ok (.look .textStart, rest)
      | 'z' => .ok (.look .textEnd, rest)
      | 'b' => readBoundary flags rest
      | 'B' => .ok (.look (.word .noBoundary flags.unicode), rest)
      | '<' => .ok (.look (.word .start flags.unicode), rest)
      | '>' => .ok (.look (.word .stop flags.unicode), rest)
      | _ => .error .badEscape

end Escape

/-- The characters of a lettered class, as the flags read it. -/
def LetterClass.read (flags : Flags) (cls : LetterClass) (negated : Bool) :
    Except PatternDefect CharSet :=
  flags.negateIf negated (cls.set flags.unicode)

end LineLexer
