/-
Token categories.

A category says what a token is in terms an editor can style without knowing the
language.  Each has one dotted label, and a label names at most one category
(`ofLabel?_label`).
-/
namespace LineLexer

/-- What a token is. -/
inductive Category where
  /-- A comment. -/
  | comment
  /-- Text inside quotes, the quotes included. -/
  | string
  /-- A sequence that stands for another character inside a string. -/
  | escape
  /-- An opening bracket. -/
  | leftParen
  /-- A closing bracket. -/
  | rightParen
  /-- A number. -/
  | numeric
  /-- A word that names a type or declares. -/
  | storageType
  /-- Text of no particular kind, such as the blanks of a header. -/
  | text
  /-- The name of a procedure where it is defined. -/
  | functionName
  /-- A word that directs control flow. -/
  | controlKeyword
  /-- A parameter. -/
  | parameter
  /-- A variable. -/
  | var
  /-- An operator. -/
  | operator
  /-- A separator. -/
  | punctuation
  /-- A constant of the language. -/
  | languageConstant
  /-- A built-in operator or procedure. -/
  | builtinFunction
  /-- Any other word. -/
  | identifier
deriving DecidableEq, Repr

namespace Category

/-- Every category. -/
def all : List Category :=
  [.comment, .string, .escape, .leftParen, .rightParen, .numeric, .storageType, .text,
    .functionName, .controlKeyword, .parameter, .var, .operator, .punctuation,
    .languageConstant, .builtinFunction, .identifier]

/-- The dotted label editor themes key their styles on. -/
def label : Category → String
  | comment => "comment.line.character"
  | string => "string"
  | escape => "constant.language.escape"
  | leftParen => "paren.lparen"
  | rightParen => "paren.rparen"
  | numeric => "constant.numeric"
  | storageType => "storage.type"
  | text => "text"
  | functionName => "entity.name.function"
  | controlKeyword => "keyword.control"
  | parameter => "variable.parameter"
  | var => "variable.other"
  | operator => "keyword.operator"
  | punctuation => "punctuation.operator"
  | languageConstant => "constant.language"
  | builtinFunction => "support.function"
  | identifier => "identifier"

/-- The category a label names. -/
def ofLabel? (s : String) : Option Category := all.find? (·.label == s)

/-- Every known label in ascending order. -/
def labels : List String := (all.map label).mergeSort (· ≤ ·)

theorem mem_all (c : Category) : c ∈ all := by cases c <;> decide

/-- A label names the category it belongs to. -/
@[simp] theorem ofLabel?_label (c : Category) : ofLabel? c.label = some c := by
  cases c <;> simp [ofLabel?, all, label]

end Category

/-- A label that names no category. -/
structure UnknownCategory where
  /-- The label as it was written. -/
  label : String
deriving DecidableEq, Repr

/-- The text shown for an unknown label. -/
def UnknownCategory.message (e : UnknownCategory) : String :=
  "unknown token category `" ++ e.label ++ "`"

/-- The category a label names, or the reason there is none. -/
def Category.parse (s : String) : Except UnknownCategory Category :=
  match ofLabel? s with
  | some c => .ok c
  | none => .error ⟨s⟩

end LineLexer
