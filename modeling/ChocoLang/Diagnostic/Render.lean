import ChocoLang.Diagnostic
import ChocoLang.Text.Lines

/-!
# Diagnostics as a reader sees them

A rendered diagnostic opens with its code and message, names the place, quotes the line the place
is on and underlines the text at fault, and ends with its remarks.  The line is quoted only if the
text has a line of that number; tabs in it show as single blanks, so that each character takes one
column.
-/

namespace ChocoLang

/-- The escape sequences that colour the parts of a rendered diagnostic. -/
structure Palette where
  /-- Ends a coloured part. -/
  reset : String
  /-- Opens a part in bold. -/
  bold : String
  /-- Opens the word for an error. -/
  error : String
  /-- Opens the word for a warning. -/
  warning : String
  /-- Opens the gutter. -/
  gutter : String
  /-- Opens the word that introduces a suggestion. -/
  help : String
  /-- Opens the mark of a success. -/
  success : String

namespace Palette

/-- No colours at all. -/
def plain : Palette :=
  { reset := "", bold := "", error := "", warning := "", gutter := "", help := "",
    success := "" }

/-- The colours of a terminal. -/
def terminal : Palette :=
  { reset := "\x1b[0m", bold := "\x1b[1m", error := "\x1b[91m", warning := "\x1b[93m",
    gutter := "\x1b[94m", help := "\x1b[92m", success := "\x1b[92m" }

/-- The colours if they are wanted. -/
def choose (colored : Bool) : Palette := if colored then terminal else plain

/-- The colour of a severity. -/
def severity (palette : Palette) : Severity → String
  | .error => palette.error
  | .warning => palette.warning

end Palette

namespace Diagnostic

/-- So many copies of a character, none for a negative number. -/
def repeated (c : Char) (count : Int) : String := String.ofList (List.replicate count.toNat c)

/-- A line number, set flush right in three columns. -/
def lineLabel (number : Int) : String :=
  let digits := toString number
  repeated ' ' (3 - digits.length) ++ digits

/-- A line as it is quoted: every tab shows as one blank. -/
def quotedLine (line : List Char) : String :=
  String.ofList (line.map fun c => if c = '\t' then ' ' else c)

/-- The line of the source on which a span starts, if there is one. -/
def lineAt? (source : String) (number : Int) : Option (List Char) :=
  if 1 ≤ number then (Text.displayLines source.toList)[(number - 1).toNat]? else none

/-- The first line: severity, code and message. -/
def headline (palette : Palette) (diagnostic : Diagnostic) : String :=
  palette.severity diagnostic.severity ++ palette.bold ++ diagnostic.severity.name
    ++ "[" ++ diagnostic.code ++ "]" ++ palette.reset ++ ": "
    ++ palette.bold ++ diagnostic.message ++ palette.reset

/-- The line that names the place. -/
def placeLine (palette : Palette) (span : Span) : String :=
  "  " ++ palette.gutter ++ "-->" ++ palette.reset ++ " " ++ span.display

/-- An empty line of the excerpt. -/
def gutterLine (palette : Palette) : String :=
  "   " ++ palette.gutter ++ "|" ++ palette.reset

/-- The quoted line behind its number. -/
def sourceLine (palette : Palette) (number : Int) (line : List Char) : String :=
  palette.gutter ++ lineLabel number ++ " |" ++ palette.reset ++ " " ++ quotedLine line

/-- The line of carets that underlines the text at fault. -/
def underline (palette : Palette) (severity : Severity) (span : Span) : String :=
  gutterLine palette ++ " " ++ repeated ' ' (span.start.column - 1)
    ++ palette.severity severity ++ repeated '^' span.length ++ palette.reset

/-- The excerpt of the source under the place: quoted line and carets between empty lines. -/
def excerpt (palette : Palette) (severity : Severity) (source : String) (span : Span) :
    List String :=
  match lineAt? source span.start.line with
  | none => []
  | some line =>
    [gutterLine palette, sourceLine palette span.start.line line,
      underline palette severity span, gutterLine palette]

/-- A remark behind the word that introduces it. -/
def remark (palette : Palette) (color word text : String) : String :=
  "   " ++ palette.gutter ++ "=" ++ palette.reset ++ " " ++ color ++ word ++ ":" ++ palette.reset
    ++ " " ++ text

/-- The lines of a rendered diagnostic. -/
def renderLines (palette : Palette) (source : String) (diagnostic : Diagnostic) : List String :=
  let place :=
    match diagnostic.span with
    | none => []
    | some span => placeLine palette span :: excerpt palette diagnostic.severity source span
  headline palette diagnostic :: place
    ++ diagnostic.notes.map (remark palette palette.bold "note")
    ++ diagnostic.helps.map (remark palette palette.help "help")

/-- A diagnostic as a reader sees it, with the source for context. -/
def render (palette : Palette) (source : String) (diagnostic : Diagnostic) : String :=
  "\n".intercalate (diagnostic.renderLines palette source)

end Diagnostic
end ChocoLang
