import ChocoLang.Artifact
import ChocoLang.CommandLine.Invocation
import ChocoLang.Diagnostic.Log
import ChocoLang.Source.File

/-!
# Reports of the compiler

What an invocation prints and the status it ends with: zero for a program without diagnostics, one
for a program that has some, two for a source that cannot be read or a record that cannot be
written.  Results go to the standard output and diagnostics to the standard error.
-/

namespace ChocoLang

/-- What an invocation prints, and how it ends. -/
structure Report where
  /-- The status of the process. -/
  status : Nat := 0
  /-- What is printed on the standard output. -/
  out : String := ""
  /-- What is printed on the standard error. -/
  err : String := ""
deriving DecidableEq, Repr

/-- Why an invocation has no report. -/
inductive Breakdown where
  /-- The text of the program is refused. -/
  | refused (refusal : Refusal)
  /-- An option is left without a value that is needed. -/
  | valueless (option : String)
deriving DecidableEq, Repr

/-- The circumstances in which colours are shown. -/
structure Surroundings where
  /-- The standard output is a terminal. -/
  isTerminal : Bool := false
  /-- The value by which the environment declines colours, if it is not empty. -/
  declined : String := ""
deriving DecidableEq, Repr

/-- The colours of what an invocation prints. -/
def Surroundings.palette (surroundings : Surroundings) (colorless : Bool) : Palette :=
  .choose (surroundings.isTerminal && !colorless && surroundings.declined.isEmpty)

namespace Report

/-- The status for a program with certain diagnostics. -/
def statusOf (diagnostics : List Diagnostic) : Nat := if diagnostics.isEmpty then 0 else 1

/-- Diagnostics as they are printed, each with an empty line after it. -/
def diagnosticLines (palette : Palette) (source : String) (diagnostics : List Diagnostic) :
    String :=
  String.join (diagnostics.map fun diagnostic => diagnostic.render palette source ++ "\n\n")

/-- The report for an invocation that names no command. -/
def overview : Report := { out := Invocation.usage.help }

/-- The report of a failure. -/
def failure (palette : Palette) (message : String) : Report :=
  { status := 2, err := palette.error ++ "Error:" ++ palette.reset ++ " " ++ message ++ "\n" }

/-- The report for a source that cannot be read. -/
def unreadable (palette : Palette) (word path : String) (error : AccessError) : Report :=
  failure palette ("cannot read " ++ word ++ ": " ++ error.message path)

/-- The report for a program whose record has no settled layout. -/
def unsettled (palette : Palette) : Report :=
  failure palette (failureMessage "can't multiply sequence by non-int of type 'list'")

/-- The report that lists the tokens of a text. -/
def ofLexing (palette : Palette) (source : String) (lexing : Lexing) : Report :=
  { status := statusOf lexing.diagnostics
    out := String.join (lexing.tokens.map fun token => token.listing ++ "\n")
    err := diagnosticLines palette source lexing.diagnostics }

/-- The report that shows a record. -/
def ofRecord (indent : Option Int) (diagnostics : List Diagnostic) (record : Json) : Report :=
  { status := statusOf diagnostics, out := record.render indent ++ "\n" }

/-- The report that shows the record of a program. -/
def ofProgram (palette : Palette) (layout : JsonLayout) (program : Program) : Report :=
  match layout.indent? with
  | some indent => ofRecord indent program.errors program.toJson
  | none => unsettled palette

/-- The report that shows the record of a compilation; it needs a settled layout. -/
def ofCompilation (layout : JsonLayout) (compilation : Compilation) : Except Breakdown Report :=
  match layout.indent? with
  | some indent => .ok (ofRecord indent compilation.errors compilation.toJson)
  | none => .error (.valueless Invocation.indentOption)

/-- The line that sums up the check of a program. -/
def verdict (palette : Palette) (file : String) (diagnostics : List Diagnostic) : String :=
  match diagnostics.length with
  | 0 => palette.success ++ "[ok]" ++ palette.reset ++ " " ++ file ++ " (no errors)"
  | count =>
    palette.error ++ "[!!]" ++ palette.reset ++ " " ++ file ++ ": " ++ toString count
      ++ (if count = 1 then " error" else " errors")

/-- The report on the check of a program. -/
def ofCheck (palette : Palette) (file source : String) (program : Program) : Report :=
  { status := statusOf program.errors
    out := verdict palette file program.errors ++ "\n"
    err := diagnosticLines palette source program.errors }

/-- What a command prints about a text. -/
def ofSource (command : Command) (layout : JsonLayout) (palette : Palette)
    (file source : String) : Except Breakdown Report :=
  match command with
  | .tokens => ((Lexing.ofSource file source).map (ofLexing palette source)).mapError .refused
  | .parse => ((Program.ofSource file source).map (ofProgram palette layout)).mapError .refused
  | .typecheck =>
    ((Program.checkedOfSource file source).map (ofProgram palette layout)).mapError .refused
  | .compile =>
    ((Compilation.ofSource true file source).mapError .refused).bind (ofCompilation layout)
  | .check =>
    ((Program.checkedOfSource file source).map (ofCheck palette file source)).mapError .refused

end Report

/-- Where the program of an invocation comes from. -/
def Invocation.origin (invocation : Invocation) : SourceOrigin := .ofWord invocation.source

/-- What an invocation prints, given the text of its source or why there is none. -/
def Invocation.report (surroundings : Surroundings) (invocation : Invocation)
    (input : Except AccessError String) : Except Breakdown Report :=
  let palette := surroundings.palette invocation.colorless
  let file := invocation.origin.name
  match input with
  | .error error => .ok (.unreadable palette invocation.source file error)
  | .ok source => Report.ofSource invocation.command invocation.layout palette file source

end ChocoLang
