import ChocoLang.Checking.Program
import ChocoLang.Syntax.Encoding

/-!
# Compilations

Compiling a text yields the program as it was read and, unless checking is not wanted, the program
as it was checked.  The diagnostics of a compilation are those of its last stage, which include the
ones of the stages before.
-/

namespace ChocoLang

/-- The version of the compiler. -/
def compilerVersion : String := "0.1.0"

/-- What compiling a text yields. -/
structure Compilation where
  /-- The program as it was read. -/
  untyped : Program
  /-- The program as it was checked. -/
  typed : Option Program := none
deriving Repr

namespace Compilation

/-- The compilation of a text, with or without its check, unless the text is refused. -/
def ofSource (checking : Bool) (file source : String) : Except Refusal Compilation :=
  (Program.ofSource file source).map fun program =>
    { untyped := program, typed := if checking then some program.check else none }

/-- The diagnostics of the last stage. -/
def errors (compilation : Compilation) : List Diagnostic :=
  (compilation.typed.getD compilation.untyped).errors

/-- At least one diagnostic was recorded. -/
def hasErrors (compilation : Compilation) : Bool := !compilation.errors.isEmpty

/-- The record of a compilation. -/
def toJson (compilation : Compilation) : Json :=
  .object
    [("untypedAst", compilation.untyped.toJson),
      ("typedAst", (compilation.typed.map Program.toJson).getD .null),
      ("errors", .array (compilation.errors.map Diagnostic.toJson)),
      ("hasErrors", .bool compilation.hasErrors)]

/-- How many diagnostics a summary lists. -/
def summaryLimit : Nat := 5

/-- The lines about the diagnostics: their number and the first of them. -/
def errorLines (errors : List Diagnostic) : List String :=
  if errors.isEmpty then []
  else
    let further := errors.length - summaryLimit
    ("  Errors: " ++ toString errors.length)
      :: ((errors.take summaryLimit).map fun error => "    - " ++ error.summary)
      ++ (if further = 0 then [] else ["    ... and " ++ toString further ++ " more"])

/-- A summary of a compilation for a reader. -/
def summary (compilation : Compilation) : String :=
  let verdict := if compilation.hasErrors then "True" else "False"
  "\n".intercalate
    ("Compilation Result:" :: ("  Has Errors: " ++ verdict) :: errorLines compilation.errors)

/-- Checking leaves the program as it was read alone. -/
theorem untyped_ofSource (checking : Bool) (file source : String) :
    (ofSource checking file source).map untyped = Program.ofSource file source := by
  unfold ofSource
  cases Program.ofSource file source <;> rfl

end Compilation
end ChocoLang
