import ChocoLang.Checking.Program
import ChocoLang.Editor.Marker
import ChocoLang.Syntax.Outline

/-!
# Analyses of documents

An analysis is one version of a document with the program that it is.  It answers what an editor
asks about places in the text: which problems are to be marked, and what the type of the expression
under the pointer is.
-/

namespace ChocoLang

/-- One version of a document, checked. -/
structure Analysis where
  /-- The address of the document, which is the file name of its diagnostics. -/
  uri : String
  /-- The text of the document. -/
  text : String
  /-- The checked program that the text is. -/
  program : Program

/-- What an editor shows about the text under the pointer. -/
structure Hover where
  /-- What is shown, as marked-up text. -/
  contents : String
  /-- The text it is about. -/
  range : EditorRange
deriving DecidableEq, Repr

/-- The markup in which hover text is written. -/
def Hover.markup : String := "markdown"

namespace Label

/-- The label is that of an expression with a type, and its text covers a position. -/
def typedAt (position : Position) (label : Label) : Bool :=
  label.kind.isExpression && label.type.isSome && decide (label.span.Covers position)

/-- What is told about an expression: its type, and for a name what the name stands for. -/
def description (label : Label) (type : ValueType) : String :=
  match label.name with
  | none => type.display
  | some name =>
    if type.isFunction then "def " ++ name ++ type.display else name ++ ": " ++ type.display

/-- What an editor shows about a node, if it has a type. -/
def hover? (label : Label) : Option Hover :=
  label.type.map fun type =>
    { contents := "```chocopy\n" ++ label.description type ++ "\n```"
      range := .ofSpan (some label.span) }

end Label

namespace Analysis

/-- Analyses a text, unless it is refused. -/
def ofText (uri text : String) : Except Refusal Analysis :=
  (Program.checkedOfSource uri text).map fun program => { uri, text, program }

/-- The markers of a document, in the order of its diagnostics. -/
def markers (analysis : Analysis) : List Marker :=
  analysis.program.errors.map Marker.ofDiagnostic

/--
The innermost expression with a type at a place counted from zero.  An outline lists inner nodes
after outer ones, so it is the last one that covers the place.
-/
def expressionAt? (analysis : Analysis) (line character : Int) : Option Label :=
  let position : Position := ⟨line + 1, character + 1⟩
  ((analysis.program.outline.preorder.map Outline.label).filter (·.typedAt position)).getLast?

/-- What is shown at a place counted from zero. -/
def hover? (analysis : Analysis) (line character : Int) : Option Hover :=
  (analysis.expressionAt? line character).bind Label.hover?

end Analysis
end ChocoLang
