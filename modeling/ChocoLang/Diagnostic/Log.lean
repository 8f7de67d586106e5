import ChocoLang.Diagnostic.Render

/-!
# Logs of diagnostics

The diagnostics of one compilation, in the order in which they were recorded.  A log only grows:
recording puts one diagnostic at its end and leaves the others as they are.
-/

namespace ChocoLang

/-- The diagnostics recorded so far for one file. -/
structure DiagnosticLog where
  /-- The file the diagnostics are about. -/
  file : String := defaultFile
  /-- The diagnostics, oldest first. -/
  entries : List Diagnostic := []

namespace DiagnosticLog

/-- Records a diagnostic after all others. -/
def record (log : DiagnosticLog) (diagnostic : Diagnostic) : DiagnosticLog :=
  { log with entries := log.entries ++ [diagnostic] }

/-- Records several diagnostics in their order. -/
def recordAll (log : DiagnosticLog) (diagnostics : List Diagnostic) : DiagnosticLog :=
  { log with entries := log.entries ++ diagnostics }

/-- How many errors are recorded. -/
def errorCount (log : DiagnosticLog) : Nat := log.entries.countP (·.isError)

/-- How many warnings are recorded. -/
def warningCount (log : DiagnosticLog) : Nat := log.entries.countP (!·.isError)

/-- At least one error is recorded. -/
def hasErrors (log : DiagnosticLog) : Bool := log.entries.any (·.isError)

/-- All diagnostics as a reader sees them, with an empty line between two. -/
def render (log : DiagnosticLog) (palette : Palette) (source : String) : String :=
  "\n\n".intercalate (log.entries.map (Diagnostic.render palette source))

@[simp]
theorem entries_record (log : DiagnosticLog) (diagnostic : Diagnostic) :
    (log.record diagnostic).entries = log.entries ++ [diagnostic] :=
  rfl

@[simp]
theorem entries_recordAll (log : DiagnosticLog) (diagnostics : List Diagnostic) :
    (log.recordAll diagnostics).entries = log.entries ++ diagnostics :=
  rfl

end DiagnosticLog
end ChocoLang
