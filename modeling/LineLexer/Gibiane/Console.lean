/-
Reading printed values back.

A run prints a value as `name= value`.  The name is searched for without regard to ASCII
case at every place of a line, up to the first semicolon; lines that start with a dollar
sign echo the script and are passed over.  On each line the first place that is followed
by something like a number counts, and of these the first that is one.
-/
import LineLexer.Numeral.Read
import LineLexer.Text.Blank

namespace LineLexer.Gibiane

/-- A character that a number may hold. -/
def isNumeralChar (c : Char) : Bool :=
  c.isDigit || c == '.' || c == '+' || c == '-' || c == 'e' || c == 'E'

/-- What follows `name=` at the start of a text, in any case of its letters. -/
def afterName? (name : Text) (t : Text) : Option Text :=
  match t.drop name.length with
  | '=' :: rest => if Text.eqIgnoreCase (t.take name.length) name then some rest else none
  | _ => none

/-- The number-like text that follows `name=` and blanks at the start of a text. -/
def candidate? (name : Text) (t : Text) : Option Text :=
  (afterName? name t).bind fun rest =>
    match (Text.trimStart rest).takeWhile isNumeralChar with
    | [] => none
    | run => some run

/-- The first candidate of a line. -/
def lineCandidate? (name : Text) : Text → Option Text
  | [] => none
  | c :: rest =>
    match candidate? name (c :: rest) with
    | some run => some run
    | none => lineCandidate? name rest

/-- The part of a line in which names are searched for; none of a line that echoes the script. -/
def codeOf? (line : Text) : Option Text :=
  if line.head? = some '$' then none else some (line.takeWhile (· ≠ ';'))

/-- The value printed under a name. -/
def lookForScalar (text name : Text) : Option Binary64 :=
  if name.isEmpty then none
  else text.lines.findSome? fun line =>
    (codeOf? line).bind fun code => (lineCandidate? name code).bind Binary64.read?

end LineLexer.Gibiane
