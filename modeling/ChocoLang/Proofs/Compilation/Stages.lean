import ChocoLang.Compilation
import ChocoLang.Proofs.Checking.Bare.Declaration
import ChocoLang.Proofs.Checking.Reports.Program
import ChocoLang.Proofs.Parsing.ReadTrees
import ChocoLang.Proofs.Syntax.Bare

/-!
# The stages of a compilation

Each stage adds to what the stages before it made of a text and changes nothing of it.  Checking
records errors and types at the nodes of the tree that was read: without these the checked tree is
the tree that was read.  The diagnostics of a stage stand behind those of the stages before, and
their kind tells the stage.
-/

namespace ChocoLang

/-! ## The kinds of the diagnostics of a stage -/

/-- The kind of the problems that have a code. -/
def ErrorCode.kind : ErrorCode → DiagnosticKind
  | invalidCharacter | unterminatedString | invalidStringContent | invalidInteger
  | integerOutOfRange | inconsistentDedent => .lexical
  | unexpectedToken | missingToken | invalidExpression | invalidTarget | misplacedDeclaration
  | emptyBody | unexpectedIndent | invalidInitializer | nestingTooDeep => .syntactic
  | undefinedName | duplicateDeclaration | shadowedClass | notGlobalVariable | notNonlocalVariable
  | undeclaredAssignment | unknownClass | undefinedSuperclass | superclassNotClass
  | specialSuperclass | redefinedAttribute | invalidReceiver => .name
  | typeMismatch | incompatibleOperands | wrongArgumentCount | notCallable | memberNotFound
  | notIndexable | nonIntegerIndex | notIterable | invalidCondition | incompatibleOverride
  | returnOutsideFunction | missingReturn | invalidMultipleAssignment | immutableString => .type

/-- The kind is told by the characters of the code. -/
theorem DiagnosticKind.ofCode_id (code : ErrorCode) : ofCode code.id = code.kind := by
  cases code <;> decide +kernel

theorem Located.kind_toDiagnostic {α : Type} [Problem α] (problem : Located α) :
    problem.toDiagnostic.kind = (Problem.code problem.content).kind :=
  DiagnosticKind.ofCode_id _

theorem LexicalError.kind_code (error : LexicalError) : error.code.kind = .lexical := by
  cases error <;> rfl

theorem SyntaxError.kind_code (error : SyntaxError) : error.code.kind = .syntactic := by
  cases error <;> rfl

theorem CheckError.kind_code (error : CheckError) :
    error.code.kind = .name ∨ error.code.kind = .type := by
  cases error <;> simp [code, ErrorCode.kind]

theorem Lexing.kind_diagnostics (lexing : Lexing) :
    ∀ diagnostic ∈ lexing.diagnostics, diagnostic.kind = .lexical :=
  List.forall_mem_map.mpr fun problem _ =>
    problem.kind_toDiagnostic.trans problem.content.kind_code

namespace Program

/-- The diagnostics of a program are those known before and those of reading its tokens. -/
theorem errors_ofTokens (file : String) (known : List Diagnostic) {tokens : List Token}
    (nonempty : tokens ≠ []) : (ofTokens file known tokens nonempty).errors =
      known ++ (ofTokens file [] tokens nonempty).errors :=
  rfl

theorem kind_ofTokens (file : String) {tokens : List Token} (nonempty : tokens ≠ []) :
    ∀ diagnostic ∈ (ofTokens file [] tokens nonempty).errors, diagnostic.kind = .syntactic :=
  List.forall_mem_map.mpr fun problem _ =>
    problem.kind_toDiagnostic.trans problem.content.kind_code

/-- The diagnostics of a checked program are those of reading it and those of its problems. -/
theorem errors_check (program : Program) :
    program.check.errors = program.errors ++ program.problems.map Located.toDiagnostic := by
  rw [check_eq]
  rfl

theorem kind_problems (program : Program) :
    ∀ diagnostic ∈ program.problems.map Located.toDiagnostic,
      diagnostic.kind = .name ∨ diagnostic.kind = .type :=
  List.forall_mem_map.mpr fun problem _ =>
    problem.kind_toDiagnostic ▸ problem.content.kind_code

end Program

/-! ## The stages in a row -/

namespace Compilation

/-- A compilation of a lexing adds to it, stage by stage, and changes nothing that was there. -/
structure Additive (compilation : Compilation) (file : String) (lexing : Lexing)
    (typed : Program) : Prop where
  /-- There is a checked program. -/
  present : compilation.typed = some typed
  /-- Without what checking records, the checked tree is the tree that was read. -/
  bare : typed.bare = { compilation.untyped with errors := [] }
  /-- Nothing is recorded in the tree that was read. -/
  fresh : compilation.untyped.outline.Fresh
  /-- Reading the tokens adds its diagnostics to those of the tokens. -/
  read : compilation.untyped.errors =
    lexing.diagnostics ++ (Program.ofTokens file [] lexing.tokens lexing.tokens_ne_nil).errors
  /-- The first of them are lexical. -/
  lexical : ∀ diagnostic ∈ lexing.diagnostics, diagnostic.kind = .lexical
  /-- The others are syntactic. -/
  syntactic : ∀ diagnostic ∈ (Program.ofTokens file [] lexing.tokens lexing.tokens_ne_nil).errors,
    diagnostic.kind = .syntactic
  /-- Checking adds the diagnostics of the problems it finds to those of reading. -/
  checked : typed.errors =
    compilation.untyped.errors ++ compilation.untyped.problems.map Located.toDiagnostic
  /-- They are about names and types. -/
  semantic : ∀ diagnostic ∈ compilation.untyped.problems.map Located.toDiagnostic,
    diagnostic.kind = .name ∨ diagnostic.kind = .type
  /-- The diagnostics of the compilation are those of the checked program. -/
  errors : compilation.errors = typed.errors

/-- What a compilation consists of: the program that is read, and the same program checked. -/
theorem exists_of_ofSource {file source : String} {compilation : Compilation}
    (compiled : ofSource true file source = .ok compilation) :
    ∃ program, Program.ofSource file source = .ok program ∧
      compilation = ⟨program, some program.check⟩ :=
  exists_ok_of_map compiled

/-- Compiling a text with its check only ever adds to what was made of the text before. -/
theorem additive_of_ofSource {file source : String} {compilation : Compilation}
    (compiled : ofSource true file source = .ok compilation) :
    ∃ lexing typed, Lexing.ofSource file source = .ok lexing ∧
      compilation.Additive file lexing typed := by
  obtain ⟨program, read, rfl⟩ := exists_of_ofSource compiled
  have fresh := Program.fresh_of_ofSource read
  obtain ⟨lexing, lexed, rfl⟩ := Program.exists_of_ofSource read
  refine ⟨lexing, (Program.ofLexing file lexing).check, lexed, ?_⟩
  constructor
  case present => rfl
  case bare => rw [Program.bare_check, Program.bare_of_fresh fresh]
  case fresh => exact fresh
  case read => exact Program.errors_ofTokens file lexing.diagnostics lexing.tokens_ne_nil
  case lexical => exact lexing.kind_diagnostics
  case syntactic => exact Program.kind_ofTokens file lexing.tokens_ne_nil
  case checked => exact Program.errors_check _
  case semantic => exact Program.kind_problems _
  case errors => rfl

/-- A text with a mistake of every kind. -/
def mistakenText : String := "x: int = 1 $\ny = \"a\"\nx = \"a\"\nx +\n"

/-- Each of its mistakes is found by the stage it belongs to, and the stages add up. -/
theorem additive_mistakenText :
    ∃ compilation lexing typed, ofSource true "mistaken.choc" mistakenText = .ok compilation ∧
      Lexing.ofSource "mistaken.choc" mistakenText = .ok lexing ∧
      compilation.Additive "mistaken.choc" lexing typed ∧
      compilation.errors.map Diagnostic.kind = [.lexical, .syntactic, .name, .type] := by
  obtain ⟨compilation, compiled, kinds⟩ : ∃ compilation,
      ofSource true "mistaken.choc" mistakenText = .ok compilation ∧
        decide (compilation.errors.map Diagnostic.kind = [.lexical, .syntactic, .name, .type]) =
          true :=
    exists_ok_of_any (by decide +kernel)
  obtain ⟨lexing, typed, lexed, additive⟩ := additive_of_ofSource compiled
  exact ⟨compilation, lexing, typed, compiled, lexed, additive, of_decide_eq_true kinds⟩

end Compilation
end ChocoLang
