import ChocoLang.Artifact
import ChocoLang.Checking.Declaration
import ChocoLang.Checking.Error
import ChocoLang.Checking.Expression
import ChocoLang.Checking.Program
import ChocoLang.Checking.State
import ChocoLang.Checking.Statement
import ChocoLang.CommandLine.Arguments
import ChocoLang.CommandLine.Invocation
import ChocoLang.CommandLine.Report
import ChocoLang.CommandLine.Service
import ChocoLang.CommandLine.Usage
import ChocoLang.Compilation
import ChocoLang.Diagnostic
import ChocoLang.Diagnostic.Code
import ChocoLang.Diagnostic.Log
import ChocoLang.Diagnostic.Render
import ChocoLang.Diagnostic.Suggestion
import ChocoLang.Editor.Analysis
import ChocoLang.Editor.Marker
import ChocoLang.Editor.Session
import ChocoLang.Json
import ChocoLang.Main
import ChocoLang.Parsing.Cursor
import ChocoLang.Parsing.Declaration
import ChocoLang.Parsing.Error
import ChocoLang.Parsing.Expression
import ChocoLang.Parsing.Program
import ChocoLang.Parsing.Statement
import ChocoLang.Proofs.Checking.Annotation.Program
import ChocoLang.Proofs.Checking.Annotation.Statement
import ChocoLang.Proofs.Checking.Bare.Declaration
import ChocoLang.Proofs.Checking.Bare.Statement
import ChocoLang.Proofs.Checking.Clarity.Expression
import ChocoLang.Proofs.Checking.Clarity.Program
import ChocoLang.Proofs.Checking.Classes.Calls
import ChocoLang.Proofs.Checking.Classes.Declaring
import ChocoLang.Proofs.Checking.Classes.Program
import ChocoLang.Proofs.Checking.Effects
import ChocoLang.Proofs.Checking.Establishes
import ChocoLang.Proofs.Checking.Exchange
import ChocoLang.Proofs.Checking.FirstPass
import ChocoLang.Proofs.Checking.Headings
import ChocoLang.Proofs.Checking.Indifference
import ChocoLang.Proofs.Checking.Inheritance
import ChocoLang.Proofs.Checking.Lexical.Program
import ChocoLang.Proofs.Checking.Lexical.Scope
import ChocoLang.Proofs.Checking.Lexical.Statement
import ChocoLang.Proofs.Checking.Marking.Expression
import ChocoLang.Proofs.Checking.Marking.Program
import ChocoLang.Proofs.Checking.Marking.Statement
import ChocoLang.Proofs.Checking.Members
import ChocoLang.Proofs.Checking.MissingReturns
import ChocoLang.Proofs.Checking.Narrowing.Expression
import ChocoLang.Proofs.Checking.Narrowing.Program
import ChocoLang.Proofs.Checking.Narrowing.Statement
import ChocoLang.Proofs.Checking.Nonlocal.Declaring
import ChocoLang.Proofs.Checking.Nonlocal.Meaning
import ChocoLang.Proofs.Checking.Nonlocal.Program
import ChocoLang.Proofs.Checking.Nonlocal.Uses
import ChocoLang.Proofs.Checking.Overriding
import ChocoLang.Proofs.Checking.Rechecking.Expression
import ChocoLang.Proofs.Checking.Rechecking.Heading
import ChocoLang.Proofs.Checking.Rechecking.Program
import ChocoLang.Proofs.Checking.Rechecking.Statement
import ChocoLang.Proofs.Checking.Reports.Declaration
import ChocoLang.Proofs.Checking.Reports.Program
import ChocoLang.Proofs.Checking.Reports.Receiver
import ChocoLang.Proofs.Checking.Reports.Rules
import ChocoLang.Proofs.Checking.Reports.Statement
import ChocoLang.Proofs.Checking.Reports.Text
import ChocoLang.Proofs.Checking.Restoring
import ChocoLang.Proofs.Checking.Soundness.Declaration
import ChocoLang.Proofs.Checking.Soundness.Expression
import ChocoLang.Proofs.Checking.Soundness.Program
import ChocoLang.Proofs.Checking.Soundness.Statement
import ChocoLang.Proofs.Checking.Verdicts
import ChocoLang.Proofs.Compilation.Records
import ChocoLang.Proofs.Compilation.Stages
import ChocoLang.Proofs.Diagnostic.Excerpt
import ChocoLang.Proofs.Diagnostic.Placement
import ChocoLang.Proofs.Diagnostic.Suggestions
import ChocoLang.Proofs.Editor.Conversations
import ChocoLang.Proofs.Editor.Innermost
import ChocoLang.Proofs.Editor.Steps
import ChocoLang.Proofs.Json.Reading
import ChocoLang.Proofs.Parsing.Advancing
import ChocoLang.Proofs.Parsing.Agreement.Declaration
import ChocoLang.Proofs.Parsing.Agreement.Expression
import ChocoLang.Proofs.Parsing.Agreement.Line
import ChocoLang.Proofs.Parsing.Behind
import ChocoLang.Proofs.Parsing.Brackets
import ChocoLang.Proofs.Parsing.Containment
import ChocoLang.Proofs.Parsing.Dependable
import ChocoLang.Proofs.Parsing.Enclosing
import ChocoLang.Proofs.Parsing.FunctionSite
import ChocoLang.Proofs.Parsing.LineByLine
import ChocoLang.Proofs.Parsing.LineOrder
import ChocoLang.Proofs.Parsing.Nesting.Program
import ChocoLang.Proofs.Parsing.Nesting.Statement
import ChocoLang.Proofs.Parsing.Opening
import ChocoLang.Proofs.Parsing.Passing
import ChocoLang.Proofs.Parsing.Placed
import ChocoLang.Proofs.Parsing.PlacedTrees
import ChocoLang.Proofs.Parsing.Prefixes
import ChocoLang.Proofs.Parsing.Progress
import ChocoLang.Proofs.Parsing.Quiet
import ChocoLang.Proofs.Parsing.ReadBack.Expression
import ChocoLang.Proofs.Parsing.ReadBack.Program
import ChocoLang.Proofs.Parsing.ReadBack.Statement
import ChocoLang.Proofs.Parsing.ReadTrees
import ChocoLang.Proofs.Parsing.Reads
import ChocoLang.Proofs.Parsing.Recovered.Account
import ChocoLang.Proofs.Parsing.Recovered.Function
import ChocoLang.Proofs.Parsing.Recovered.Lines
import ChocoLang.Proofs.Parsing.Recovered.Program
import ChocoLang.Proofs.Parsing.Recovered.Reading
import ChocoLang.Proofs.Parsing.Recovered.Sheet
import ChocoLang.Proofs.Parsing.Recovered.Statement
import ChocoLang.Proofs.Parsing.Repetition
import ChocoLang.Proofs.Parsing.Room
import ChocoLang.Proofs.Parsing.RoundTrip.Declaration
import ChocoLang.Proofs.Parsing.RoundTrip.Expression
import ChocoLang.Proofs.Parsing.RoundTrip.Program
import ChocoLang.Proofs.Parsing.RoundTrip.Statement
import ChocoLang.Proofs.Parsing.Running
import ChocoLang.Proofs.Parsing.Shallow
import ChocoLang.Proofs.Parsing.Skipping
import ChocoLang.Proofs.Parsing.Spelling
import ChocoLang.Proofs.Parsing.TopLevel
import ChocoLang.Proofs.Parsing.Towers
import ChocoLang.Proofs.Parsing.Writing
import ChocoLang.Proofs.Parsing.Yields
import ChocoLang.Proofs.Source.Breaks
import ChocoLang.Proofs.Source.Within
import ChocoLang.Proofs.Syntax.Bare
import ChocoLang.Proofs.Syntax.Decoding
import ChocoLang.Proofs.Syntax.Height
import ChocoLang.Proofs.Syntax.Labels
import ChocoLang.Proofs.Syntax.Nesting
import ChocoLang.Proofs.Syntax.Paths
import ChocoLang.Proofs.Syntax.Places
import ChocoLang.Proofs.Syntax.Portable
import ChocoLang.Proofs.Syntax.Recovery
import ChocoLang.Proofs.Syntax.Relabelling
import ChocoLang.Proofs.Syntax.Traversal
import ChocoLang.Proofs.Syntax.WellFormed
import ChocoLang.Proofs.Text.EditDistance
import ChocoLang.Proofs.Token.Accounting
import ChocoLang.Proofs.Token.BlankLines
import ChocoLang.Proofs.Token.Cutting
import ChocoLang.Proofs.Token.Entries
import ChocoLang.Proofs.Token.Levels
import ChocoLang.Proofs.Token.Lexemes
import ChocoLang.Proofs.Token.LineBreaks
import ChocoLang.Proofs.Token.Lines
import ChocoLang.Proofs.Token.Names
import ChocoLang.Proofs.Token.Nesting
import ChocoLang.Proofs.Token.Realignment
import ChocoLang.Proofs.Token.Refusal
import ChocoLang.Proofs.Token.Relocation
import ChocoLang.Proofs.Token.Rows
import ChocoLang.Proofs.Token.Script
import ChocoLang.Proofs.Token.Succession
import ChocoLang.Proofs.Token.Tiles
import ChocoLang.Proofs.Token.Within
import ChocoLang.Proofs.Token.Written
import ChocoLang.Proofs.Typing.ClassTable
import ChocoLang.Proofs.Typing.Growth
import ChocoLang.Proofs.Typing.Join
import ChocoLang.Proofs.Typing.Lookups
import ChocoLang.Proofs.Typing.Narrowing
import ChocoLang.Proofs.Typing.Order
import ChocoLang.Proofs.Typing.Rules
import ChocoLang.Proofs.Typing.Scopes
import ChocoLang.Proofs.Typing.Superclasses
import ChocoLang.Source.File
import ChocoLang.Source.Span
import ChocoLang.Syntax
import ChocoLang.Syntax.Encoding
import ChocoLang.Syntax.Outline
import ChocoLang.Table
import ChocoLang.Text.Case
import ChocoLang.Text.CaseTable
import ChocoLang.Text.Decimal
import ChocoLang.Text.EditDistance
import ChocoLang.Text.Lines
import ChocoLang.Text.Printable
import ChocoLang.Text.Quoted
import ChocoLang.Token
import ChocoLang.Token.Error
import ChocoLang.Token.Layout
import ChocoLang.Token.Lexing
import ChocoLang.Token.Reading
import ChocoLang.Token.Segment
import ChocoLang.Typing.Hierarchy
import ChocoLang.Typing.Scope
import ChocoLang.Typing.ValueType
