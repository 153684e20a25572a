/-
Diagnostics: what a host shows for a defect, apart from how it draws it.
-/
namespace LineLexer

/-- How bad a diagnosed defect is. -/
inductive Severity where
  /-- The configuration cannot be used. -/
  | error
  /-- The document is suspicious but was lexed. -/
  | warning
deriving DecidableEq, Repr

/-- A span of a file that a diagnostic points at. -/
structure DiagnosticLabel where
  /-- The host's handle of the file. -/
  file : Nat
  /-- Byte offset of the span. -/
  start : Nat
  /-- Byte offset one past the span. -/
  stop : Nat
  /-- What is to be seen there. -/
  message : String
deriving DecidableEq, Repr

/-- A defect as a host reports it. -/
structure Diagnostic where
  /-- How bad it is. -/
  severity : Severity
  /-- The headline. -/
  message : String
  /-- Remarks below it. -/
  notes : List String
  /-- The spans it is about, each a primary one. -/
  labels : List DiagnosticLabel
deriving DecidableEq, Repr

/-- The line a terminal shows first. -/
def Diagnostic.headline (d : Diagnostic) : String :=
  (match d.severity with
    | .error => "error: "
    | .warning => "warning: ") ++ d.message

end LineLexer
