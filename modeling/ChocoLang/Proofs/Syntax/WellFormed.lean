import ChocoLang.Parsing.Declaration

/-!
# Well-formed trees

The trees that the grammar can write.  Assignments have targets that can be assigned, variables are
defined by literals, and each declaration stands in a body that may hold it.  The type of the
absent value is written nowhere; a function whose result is left out has it as its result.
-/

namespace ChocoLang

/-- The bodies that hold declarations. -/
inductive BodyKind where
  /-- A whole program. -/
  | program
  /-- The body of a class. -/
  | ofClass
  /-- The body of a function. -/
  | ofFunction
deriving DecidableEq, Repr

/-- The written type is that of a result left out. -/
def WrittenType.IsImplicit : WrittenType → Prop
  | named _ name => name = Parse.noResult
  | list _ _ => False

/-- The written type can be written. -/
def WrittenType.Writable : WrittenType → Prop
  | named _ name => name ≠ Parse.noResult
  | list _ element => element.Writable

/-- The parameters of a function have writable types, and the result has one or is left out. -/
def FunctionHeading.WellFormed (heading : FunctionHeading) : Prop :=
  (∀ var ∈ heading.params, var.written.Writable) ∧
    (heading.returns.IsImplicit ∨ heading.returns.Writable)

mutual

/-- The assignments in the statement have targets, all of which can be assigned. -/
def Stmt.WellFormed : Stmt → Prop
  | .assign _ targets _ => targets ≠ [] ∧ ∀ target ∈ targets, target.isTarget
  | .ifElse _ _ thenBody elseBody => WellFormedStmts thenBody ∧ WellFormedStmts elseBody
  | .whileLoop _ _ body => WellFormedStmts body
  | .forLoop _ _ _ body => WellFormedStmts body
  | .expr _ _ | .ret _ _ => True

/-- All statements are well formed. -/
def WellFormedStmts : List Stmt → Prop
  | [] => True
  | stmt :: rest => stmt.WellFormed ∧ WellFormedStmts rest

end

mutual

/-- The declaration is well formed and may stand in a body of the kind. -/
def Decl.WellFormed (place : BodyKind) : Decl → Prop
  | .varDef _ var value => var.written.Writable ∧ value.isLiteral
  | .funcDef _ heading declarations statements _ =>
    heading.WellFormed ∧ WellFormedDecls .ofFunction declarations ∧ WellFormedStmts statements
  | .classDef _ _ _ declarations => place = .program ∧ WellFormedDecls .ofClass declarations
  | .globalDecl _ _ | .nonlocalDecl _ _ => place = .ofFunction

/-- All declarations are well formed and may stand in a body of the kind. -/
def WellFormedDecls (place : BodyKind) : List Decl → Prop
  | [] => True
  | decl :: rest => decl.WellFormed place ∧ WellFormedDecls place rest

end

/-- The program is one that the grammar can write. -/
structure Program.WellFormed (program : Program) : Prop where
  /-- The declarations are well formed. -/
  declarations : WellFormedDecls .program program.declarations
  /-- The statements are well formed. -/
  statements : WellFormedStmts program.statements

/-- No function of the program lost a part of its body. -/
def Program.Intact (program : Program) : Prop :=
  ∀ function ∈ functionsIn program.declarations, function.2 = false

theorem wellFormedStmts_iff (stmts : List Stmt) :
    WellFormedStmts stmts ↔ ∀ stmt ∈ stmts, stmt.WellFormed := by
  induction stmts with
  | nil => simp [WellFormedStmts]
  | cons stmt rest ih => simp [WellFormedStmts, ih]

theorem wellFormedDecls_iff (place : BodyKind) (decls : List Decl) :
    WellFormedDecls place decls ↔ ∀ decl ∈ decls, decl.WellFormed place := by
  induction decls with
  | nil => simp [WellFormedDecls]
  | cons decl rest ih => simp [WellFormedDecls, ih]

end ChocoLang
