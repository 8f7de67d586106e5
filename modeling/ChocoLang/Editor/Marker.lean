import ChocoLang.Diagnostic

/-!
# Markers in an editor

An editor counts lines and characters from zero, and shows a diagnostic as a marker on a range of
the text.  A place before the beginning of a text or line counts as its beginning, and a diagnostic
without a place is marked on the first character.
-/

namespace ChocoLang

/-- A place in a text as an editor counts it, from zero. -/
structure EditorPlace where
  /-- How many lines stand before the place. -/
  line : Nat
  /-- How many characters stand before the place on its line. -/
  character : Nat
deriving DecidableEq, Repr

/-- The place at which an editor finds a position. -/
def Position.editorPlace (position : Position) : EditorPlace :=
  { line := (position.line - 1).toNat, character := (position.column - 1).toNat }

/-- A stretch of a text as an editor counts it. -/
structure EditorRange where
  /-- The first place of the stretch. -/
  start : EditorPlace
  /-- The first place after it. -/
  stop : EditorPlace
deriving DecidableEq, Repr

namespace EditorRange

/-- The range of the first character of a text. -/
def first : EditorRange := { start := ⟨0, 0⟩, stop := ⟨0, 1⟩ }

/-- The range of a span; of the first character for no span. -/
def ofSpan : Option Span → EditorRange
  | none => first
  | some span => { start := span.start.editorPlace, stop := span.stop.editorPlace }

/-- The four numbers of a range. -/
def coordinates (range : EditorRange) : List Nat :=
  [range.start.line, range.start.character, range.stop.line, range.stop.character]

end EditorRange

/-- A diagnostic as an editor shows it. -/
structure Marker where
  /-- The text marked. -/
  range : EditorRange
  /-- What the marker says. -/
  message : String
  /-- How much the marker matters. -/
  severity : Severity
  /-- The code of the problem. -/
  code : String
deriving DecidableEq, Repr

namespace Marker

/-- The name under which all markers are shown. -/
def source : String := "chocopy"

/-- The number by which an editor knows a severity. -/
def severityNumber : Severity → Nat
  | .error => 1
  | .warning => 2

/-- The marker of a diagnostic; its remarks follow its message on lines of their own. -/
def ofDiagnostic (diagnostic : Diagnostic) : Marker :=
  { range := .ofSpan diagnostic.span
    message := "\n".intercalate
      (diagnostic.message :: diagnostic.notes.map (fun note => "note: " ++ note)
        ++ diagnostic.helps.map fun help => "help: " ++ help)
    severity := diagnostic.severity
    code := diagnostic.code }

end Marker
end ChocoLang
