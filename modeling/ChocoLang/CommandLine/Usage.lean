import ChocoLang.Text.Quoted

/-!
# Usage of a command

How a command line is told what it can say and what it said wrong.  The parts of a help text are
set out in two columns: terms on the left, their explanations on the right.
-/

namespace ChocoLang

/-- What is wrong with a command line. -/
inductive UsageError where
  /-- A shortened option could stand for several ones. -/
  | ambiguousOption (written : String) (candidates : List String)
  /-- An option that takes no value was given one. -/
  | unwantedValue (option value : String)
  /-- An option that takes a value was given none. -/
  | missingValue (option : String)
  /-- The value of an option is no integer. -/
  | invalidInteger (option value : String)
  /-- A value is not among those to choose from. -/
  | invalidChoice (subject value : String) (choices : List String)
  /-- A word is missing that the command needs. -/
  | missingOperand (name : String)
  /-- There are words that the command has no use for. -/
  | unrecognized (words : List String)
deriving DecidableEq, Repr

/-- What a user is told about an error. -/
def UsageError.message : UsageError → String
  | ambiguousOption written candidates =>
    "ambiguous option: " ++ written ++ " could match " ++ ", ".intercalate candidates
  | unwantedValue option value =>
    "argument " ++ option ++ ": ignored explicit argument " ++ Text.quoted value
  | missingValue option => "argument " ++ option ++ ": expected one argument"
  | invalidInteger option value =>
    "argument " ++ option ++ ": invalid int value: " ++ Text.quoted value
  | invalidChoice subject value choices =>
    "argument " ++ subject ++ ": invalid choice: " ++ Text.quoted value ++ " (choose from "
      ++ ", ".intercalate (choices.map Text.quoted) ++ ")"
  | missingOperand name => "the following arguments are required: " ++ name
  | unrecognized words => "unrecognized arguments: " ++ " ".intercalate words

/-- The values to choose from, as a usage shows them. -/
def choiceTerm (choices : List String) : String :=
  "\x7b" ++ ",".intercalate choices ++ "\x7d"

/-! ## Help texts -/

/-- One line of a help text: a term and its explanation. -/
structure HelpEntry where
  /-- The number of blanks before the term. -/
  indent : Nat := 2
  /-- What is explained. -/
  term : String
  /-- The explanation, if one is given. -/
  explanation : Option String
deriving Repr

/-- Entries under a heading. -/
structure HelpSection where
  /-- The heading. -/
  heading : String
  /-- The entries, in their order. -/
  entries : List HelpEntry
deriving Repr

namespace HelpEntry

/-- The column in which the explanation would have to stand to leave two blanks after the term. -/
def reach (entry : HelpEntry) : Nat := entry.indent + entry.term.length + 2

/-- The lines of an entry whose explanation stands in a column. -/
def lines (column : Nat) (entry : HelpEntry) : List String :=
  let term := "".pushn ' ' entry.indent ++ entry.term
  match entry.explanation with
  | none => [term]
  | some explanation =>
    if entry.reach ≤ column then
      [term ++ "".pushn ' ' (column - (entry.reach - 2)) ++ explanation]
    else [term, "".pushn ' ' column ++ explanation]

end HelpEntry

/-- The column in which explanations stand at the farthest. -/
def farthestColumn : Nat := 24

/-- The column in which the explanations of some entries stand. -/
def explanationColumn (entries : List HelpEntry) : Nat :=
  min farthestColumn ((entries.map HelpEntry.reach).foldl max 0)

/-- The lines of a section, with an empty line before it. -/
def HelpSection.lines (column : Nat) (part : HelpSection) : List String :=
  "" :: (part.heading ++ ":") :: part.entries.flatMap (HelpEntry.lines column)

/-- How a command is used. -/
structure Usage where
  /-- The words that invoke the command. -/
  program : String
  /-- The lines that show what can follow them. -/
  synopsis : List String
  /-- What the command is. -/
  about : Option String := none
  /-- What can be said to it. -/
  sections : List HelpSection

namespace Usage

/-- A text that consists of lines. -/
def ofLines (lines : List String) : String := String.join (lines.map (· ++ "\n"))

/-- The full help text. -/
def help (usage : Usage) : String :=
  let column := explanationColumn (usage.sections.flatMap HelpSection.entries)
  ofLines
    (usage.synopsis
      ++ (match usage.about with
          | none => []
          | some about => ["", about])
      ++ usage.sections.flatMap (HelpSection.lines column))

/-- What a user is told who made an error. -/
def complaint (usage : Usage) (error : UsageError) : String :=
  ofLines (usage.synopsis ++ [usage.program ++ ": error: " ++ error.message])

end Usage
end ChocoLang
