import ChocoLang.Diagnostic.Code
import ChocoLang.Json
import ChocoLang.Source.Span

/-!
# Diagnostics

A diagnostic records one problem of a program: its code, how severe it is, what it says, where it
was found, and remarks that go with it.  Diagnostics are kept in the order in which the stages
record them.
-/

namespace ChocoLang

/-- How much a diagnostic matters. -/
inductive Severity where
  | error
  | warning
deriving DecidableEq, Repr

/-- The word for a severity. -/
def Severity.name : Severity → String
  | error => "error"
  | warning => "warning"

/-- The sort of problem a diagnostic reports. -/
inductive DiagnosticKind where
  | lexical
  | syntactic
  | name
  | type
deriving DecidableEq, Repr

namespace DiagnosticKind

/-- The word for a kind. -/
def word : DiagnosticKind → String
  | lexical => "lexical"
  | syntactic => "syntax"
  | name => "name"
  | type => "type"

/-- The kind that the second and third character of a code tell; a type problem if none does. -/
def ofCode (code : String) : DiagnosticKind :=
  match (code.toList.drop 1).take 2 with
  | ['0', '1'] => lexical
  | ['0', '2'] => syntactic
  | ['0', '3'] => name
  | _ => type

end DiagnosticKind

/-- One recorded problem. -/
structure Diagnostic where
  /-- The code of the problem. -/
  code : String
  /-- How severe the problem is. -/
  severity : Severity
  /-- What is wrong, in a sentence. -/
  message : String
  /-- The text at fault, if the problem has a place. -/
  span : Option Span := none
  /-- The sort of problem. -/
  kind : DiagnosticKind := .type
  /-- Further remarks. -/
  notes : List String := []
  /-- Suggestions for a remedy. -/
  helps : List String := []
deriving DecidableEq, Repr

namespace Diagnostic

/-- An error whose kind follows from its code. -/
def error (code message : String) (span : Option Span) (helps notes : List String) :
    Diagnostic :=
  { code, severity := .error, message, span, kind := .ofCode code, notes, helps }

/-- A warning whose kind follows from its code. -/
def warning (code message : String) (span : Option Span) : Diagnostic :=
  { code, severity := .warning, message, span, kind := .ofCode code }

/-- The problem keeps the program from being read at all. -/
def isSyntactic (diagnostic : Diagnostic) : Bool :=
  diagnostic.kind == .lexical || diagnostic.kind == .syntactic

/-- The diagnostic is an error and not a warning. -/
def isError (diagnostic : Diagnostic) : Bool := diagnostic.severity == .error

/-- The diagnostic on one line: place, code and message. -/
def summary (diagnostic : Diagnostic) : String :=
  let place :=
    match diagnostic.span with
    | none => ""
    | some span => toString span.start.line ++ ":" ++ toString span.start.column ++ ": "
  place ++ "[" ++ diagnostic.code ++ "] " ++ diagnostic.message

/-- The four numbers by which a record tells its place, all zero for no place. -/
def location (span : Option Span) : Json :=
  match span with
  | none => .array [.integer 0, .integer 0, .integer 0, .integer 0]
  | some span => .array (span.coordinates.map Json.integer)

/-- The record of a diagnostic. -/
def toJson (diagnostic : Diagnostic) : Json :=
  .object
    [("kind", .string "CompilerError"),
      ("location", location diagnostic.span),
      ("message", .string diagnostic.message),
      ("syntax", .bool diagnostic.isSyntactic),
      ("category", .string diagnostic.kind.word),
      ("code", .string diagnostic.code),
      ("severity", .string diagnostic.severity.name)]

/-- The record of a list of diagnostics. -/
def listToJson (diagnostics : List Diagnostic) : Json :=
  .object
    [("kind", .string "Errors"),
      ("location", location none),
      ("errors", .array (diagnostics.map toJson))]

end Diagnostic

/-- The problems that a stage of reading a program can find. -/
class Problem (α : Type) where
  /-- The code of a problem. -/
  code : α → ErrorCode
  /-- What a problem is reported to be. -/
  message : α → String
  /-- The remedies suggested for a problem. -/
  helps : α → List String

/-- The diagnostic that reports a problem where it was found. -/
def Located.toDiagnostic {α : Type} [Problem α] (problem : Located α) : Diagnostic :=
  .error (Problem.code problem.content).id (Problem.message problem.content) (some problem.span)
    (Problem.helps problem.content) []

end ChocoLang
