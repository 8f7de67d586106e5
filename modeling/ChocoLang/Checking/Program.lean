import ChocoLang.Checking.Declaration
import ChocoLang.Parsing.Program

/-!
# Checking programs

A checker takes programs one after the other.  What one program declares stays declared for the
next ones, and the diagnostics of all of them are collected.  Usually a checker sees a single
program; `Program.check` is that case.
-/

namespace ChocoLang

/-- The functions present in every program. -/
def builtinFunctions : List (String × Signature) :=
  [("print", { params := [.object], result := .none }),
    ("len", { params := [.object], result := .int }),
    ("input", { params := [], result := .str })]

/-- The bindings present in every program: the classes, and the functions. -/
def ClassHierarchy.builtinBindings (hierarchy : ClassHierarchy) : List Binding :=
  hierarchy.classes.values.map (fun info =>
      { name := info.name, type := info.type, kind := .classDef })
    ++ builtinFunctions.map fun (name, signature) =>
      { name, type := signature.type, kind := .function }

/-- The names of the classes that declarations define. -/
def definedClasses (declarations : List Decl) : List String :=
  declarations.filterMap fun decl =>
    match decl with
    | .classDef _ name _ _ => some name.name
    | _ => none

namespace Check

/-- Binds what is present in every program. -/
def declareBuiltins : Check Unit := do
  let bindings ← view (·.hierarchy.builtinBindings)
  modifyScope fun scope => bindings.foldl Scope.define scope

/-- Makes the names of classes known, whether they are declared already or later. -/
def announceClasses (names : List String) : Check Unit :=
  modify fun state => { state with classNames := state.classNames ++ names }

/--
Lets written types consist of certain names; of those of all classes known by now, unless other
names are given.
-/
def settleTypeNames (names : Option (List String)) : Check Unit :=
  modify fun state => { state with typeNames := names.getD state.classNames }

/-- Checks the declarations and statements of a program. -/
def checkProgram (typeNames : Option (List String)) (program : Program) :
    Check (List Decl × List Stmt) := do
  declareBuiltins
  announceClasses (definedClasses program.declarations)
  settleTypeNames typeNames
  let headings ← declareGlobals program.declarations
  let declarations ← checkDecls program.declarations headings
  let statements ← checkStmts program.statements
  return (declarations, statements)

end Check

/-- A program that is put to a checker, perhaps not for the first time. -/
structure Submission where
  /-- The program. -/
  program : Program
  /-- The names its written types could consist of when it was checked first. -/
  typeNames : Option (List String) := none

/-- A checker between two programs. -/
structure Checker where
  /-- What is known from earlier programs. -/
  state : CheckState := {}
  /-- The diagnostics known of the first program before it was checked. -/
  known : Option (List Diagnostic) := none

namespace Checker

/-- The diagnostics collected so far. -/
def diagnostics (checker : Checker) : List Diagnostic :=
  checker.known.getD [] ++ checker.state.problems.map Located.toDiagnostic

/-- Checks a program, and records at it all diagnostics collected so far. -/
def check (checker : Checker) (submission : Submission) : Submission × Checker :=
  let program := submission.program
  let ((declarations, statements), state) :=
    (Check.checkProgram submission.typeNames program).run checker.state
  let checker := { state, known := some (checker.known.getD program.errors) }
  let checked := { program with declarations, statements, errors := checker.diagnostics }
  ({ program := checked, typeNames := some state.typeNames }, checker)

end Checker

/-- The program with the types of its expressions, and all that is wrong with it. -/
def Program.check (program : Program) : Program := (({} : Checker).check { program }).1.program

/-- The checked program that a text is, unless the text is refused. -/
def Program.checkedOfSource (file source : String) : Except Refusal Program :=
  (Program.ofSource file source).map Program.check

/-- A checked program is the program that was read, checked. -/
theorem Program.exists_of_checkedOfSource {file source : String} {program : Program}
    (checked : Program.checkedOfSource file source = .ok program) :
    ∃ read, Program.ofSource file source = .ok read ∧ program = read.check :=
  exists_ok_of_map checked

end ChocoLang
