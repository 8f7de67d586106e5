import ChocoLang.CommandLine.Arguments
import ChocoLang.Compilation

/-!
# Invocations of the compiler

The compiler is invoked with the name of a command and a source; options before the command concern
all commands, and those after it the command alone.  Here stand the commands and how the arguments
of an invocation are read.
-/

namespace ChocoLang

/-- What the compiler can be told to do. -/
inductive Command where
  | tokens
  | parse
  | typecheck
  | compile
  | check
deriving DecidableEq, Repr

namespace Command

/-- All commands, in the order in which they are listed. -/
def all : List Command := [tokens, parse, typecheck, compile, check]

/-- The word for a command. -/
def name : Command → String
  | tokens => "tokens"
  | parse => "parse"
  | typecheck => "typecheck"
  | compile => "compile"
  | check => "check"

/-- The command of a word. -/
def ofName? (word : String) : Option Command := all.find? fun command => command.name == word

/-- What a command does, in a few words. -/
def explanation : Command → String
  | tokens => "Print the token stream"
  | parse => "Print the untyped AST as JSON"
  | typecheck => "Print the typed AST as JSON"
  | compile => "Print both ASTs and all diagnostics as JSON"
  | check => "Check a program and print its diagnostics"

/-- The command prints JSON. -/
def printsJson : Command → Bool
  | parse | typecheck | compile => true
  | tokens | check => false

theorem mem_all (command : Command) : command ∈ all := by
  cases command <;> decide

end Command

/-! ## Grammars -/

/-- The settings for all commands. -/
structure GlobalSettings where
  /-- Colours are not wanted. -/
  colorless : Bool := false
  /-- How much is logged; none if that was left open. -/
  logLevel : Option String := some "WARNING"
deriving DecidableEq, Repr

/-- How JSON is set out. -/
inductive JsonLayout where
  /-- On one line. -/
  | oneLine
  /-- Over lines, with a number of blanks for each level. -/
  | indented (blanks : Int)
  /-- Over lines, with a number of blanks that was left open. -/
  | unsettled
deriving DecidableEq, Repr

namespace JsonLayout

/-- The layout for a number of blanks, if there is one. -/
def ofBlanks : Option Int → JsonLayout
  | some blanks => indented blanks
  | none => unsettled

/-- The indentation of a settled layout: none on one line. -/
def indent? : JsonLayout → Option (Option Int)
  | oneLine => some none
  | indented blanks => some (some blanks)
  | unsettled => none

end JsonLayout

/-- The settings for one command. -/
structure CommandSettings where
  /-- How JSON is set out. -/
  layout : JsonLayout := .oneLine
deriving DecidableEq, Repr

/-- The entry of the option that shows a help text. -/
def helpEntry : HelpEntry :=
  { term := "-h, --help", explanation := some "show this help message and exit" }

/-- The option that shows a help text. -/
def helpOption {σ : Type} (usage : Usage) : CommandOption σ :=
  { spellings := ["-h", "--help"], effect := .display usage.help }

namespace Invocation

/-- The name of the compiler. -/
def program : String := "chocopy"

/-- The option that says how much is logged. -/
def logOption : String := "--log-level"

/-- How much can be logged. -/
def logLevels : List String := ["DEBUG", "INFO", "WARNING", "ERROR"]

/-- How the compiler is used. -/
def usage : Usage :=
  let commands := choiceTerm (Command.all.map Command.name)
  let levels := logOption ++ " " ++ choiceTerm logLevels
  { program
    synopsis :=
      ["usage: chocopy [-h] [-V] [--no-color] [" ++ levels ++ "]",
        "               " ++ commands ++ " ..."]
    about := some "ChocoPy - lexer, parser and type checker for the ChocoPy language"
    sections :=
      [{ heading := "positional arguments"
         entries :=
          { term := commands, explanation := some "Available commands" }
            :: Command.all.map fun command =>
              { indent := 4, term := command.name, explanation := some command.explanation } },
        { heading := "options"
          entries :=
            [helpEntry,
              { term := "-V, --version"
                explanation := some "show program's version number and exit" },
              { term := "--no-color", explanation := some "Disable colored output" },
              { term := levels, explanation := some "Logging level (default: WARNING)" }] }] }

/-- The arguments for all commands. -/
def grammar : CommandGrammar GlobalSettings :=
  { usage
    options :=
      [helpOption usage,
        { spellings := ["-V", "--version"]
          effect := .display (program ++ " " ++ compilerVersion ++ "\n") },
        { spellings := ["--no-color"]
          effect := .mark fun settings => { settings with colorless := true } },
        { spellings := [logOption]
          effect := .choice logLevels fun logLevel settings => { settings with logLevel } }]
    form := .subcommand }

/-- The option that says how JSON is set out. -/
def indentOption : String := "--indent"

/-- The name of the word that tells the source. -/
def sourceWord : String := "input"

/-- How a command is used. -/
def commandUsage (command : Command) : Usage :=
  let program := program ++ " " ++ command.name
  let indentTerm := indentOption ++ " INDENT"
  { program
    synopsis :=
      ["usage: " ++ program ++ " [-h] "
        ++ (if command.printsJson then "[" ++ indentTerm ++ "] " else "") ++ sourceWord]
    sections :=
      [{ heading := "positional arguments"
         entries :=
          [{ term := sourceWord
             explanation := some "Input ChocoPy file, or - for stdin" }] },
        { heading := "options"
          entries := helpEntry ::
            if command.printsJson then
              [{ term := indentTerm
                 explanation := some "Indent JSON output by this many spaces" }]
            else [] }] }

/-- The arguments for one command. -/
def commandGrammar (command : Command) : CommandGrammar CommandSettings :=
  let usage := commandUsage command
  { usage
    options := helpOption usage ::
      if command.printsJson then
        [{ spellings := [indentOption]
           effect := .integer fun blanks settings =>
            { settings with layout := .ofBlanks blanks } }]
      else []
    form := .required sourceWord }

end Invocation

/-! ## Reading an invocation -/

/-- A command with all it needs to know. -/
structure Invocation where
  /-- What to do. -/
  command : Command
  /-- The word that tells the source. -/
  source : String
  /-- How JSON is set out. -/
  layout : JsonLayout
  /-- Colours are not wanted. -/
  colorless : Bool
deriving DecidableEq, Repr

/-- How an invocation ends without doing anything. -/
inductive Exit where
  /-- A text that was asked for. -/
  | shown (text : String)
  /-- The complaint about a command line in error. -/
  | misused (complaint : String)
  /-- An option is left without a value that is needed. -/
  | valueless (option : String)
deriving DecidableEq, Repr

/-- The text printed for an interruption in a command that is used in a certain way. -/
def Interruption.exit (usage : Usage) : Interruption → Exit
  | .display text => .shown text
  | .error cause => .misused (usage.complaint cause)

/-- Reads the arguments of a command; on an interruption, what is to be printed. -/
def CommandGrammar.readOrExit {σ : Type} (grammar : CommandGrammar σ) (settings : σ)
    (args : List String) : Except Exit (σ × Operands) :=
  (grammar.read settings args).mapError (·.exit grammar.usage)

namespace Invocation

/-- The name under which the word for the command is spoken of. -/
def commandWord : String := "command"

/-- The exit for an error in the arguments for all commands. -/
def misused (error : UsageError) : Exit := .misused (usage.complaint error)

/-- Reads the arguments of the command that a word names. -/
def readCommand (settings : GlobalSettings) (word : String) (args : List String) :
    Except Exit (Invocation × List String) :=
  match Command.ofName? word with
  | none => .error (misused (.invalidChoice commandWord word (Command.all.map Command.name)))
  | some command => do
    let (own, operands) ← (commandGrammar command).readOrExit {} args
    let source := (operands.words.bind List.head?).getD ""
    return (⟨command, source, own.layout, settings.colorless⟩, operands.extras)

/-- Reads the arguments of the compiler; there is no invocation if they name no command. -/
def ofArguments (args : List String) : Except Exit (Option Invocation) := do
  let (settings, operands) ← grammar.readOrExit {} args
  let (invocation, further) ←
    match operands.words with
    | some (word :: rest) => do
      let (invocation, further) ← readCommand settings word rest
      pure (some invocation, further)
    | _ => pure (none, [])
  match operands.extras ++ further, settings.logLevel with
  | [], some _ => return invocation
  | [], none => .error (.valueless logOption)
  | extras, _ => .error (misused (.unrecognized extras))

end Invocation
end ChocoLang
