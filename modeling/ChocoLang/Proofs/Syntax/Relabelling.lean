import ChocoLang.Syntax.Outline

/-!
# Relabelled trees

Relabelling changes what is recorded at the nodes of a tree and nothing else.  The shape of a tree
is its relabelling by blanks: two trees of one shape differ at most in the places they were read
from, in the errors found at them, and in their types.
-/

namespace ChocoLang

/-- A change of what is recorded at nodes and at expressions. -/
structure Relabelling where
  /-- What is recorded at a node afterwards. -/
  node : NodeInfo → NodeInfo
  /-- What is recorded at an expression afterwards. -/
  expr : ExprInfo → ExprInfo

/-- The relabelling that forgets everything, also the places. -/
def Relabelling.blank : Relabelling where
  node _ := .ofSpan (.point "" 0 0)
  expr _ := .ofSpan (.point "" 0 0)

@[simp]
theorem Relabelling.node_blank (info : NodeInfo) : blank.node info = .ofSpan (.point "" 0 0) := rfl

@[simp]
theorem Relabelling.expr_blank (info : ExprInfo) : blank.expr info = .ofSpan (.point "" 0 0) := rfl

/-- A relabelled written type. -/
def WrittenType.relabel (change : Relabelling) : WrittenType → WrittenType
  | named info name => named (change.node info) name
  | list info element => list (change.node info) (element.relabel change)

/-- A relabelled name. -/
def Identifier.relabel (change : Relabelling) (name : Identifier) : Identifier :=
  { name with info := change.expr name.info }

mutual

/-- A relabelled expression. -/
def Expr.relabel (change : Relabelling) : Expr → Expr
  | .name identifier => .name (identifier.relabel change)
  | .integer info value => .integer (change.expr info) value
  | .boolean info value => .boolean (change.expr info) value
  | .string info value => .string (change.expr info) value
  | .none info => .none (change.expr info)
  | .list info elements => .list (change.expr info) (relabelExprs change elements)
  | .binary info left operator right =>
    .binary (change.expr info) (left.relabel change) operator (right.relabel change)
  | .unary info operator operand => .unary (change.expr info) operator (operand.relabel change)
  | .conditional info condition thenExpr elseExpr =>
    .conditional (change.expr info) (condition.relabel change) (thenExpr.relabel change)
      (elseExpr.relabel change)
  | .member info object field =>
    .member (change.expr info) (object.relabel change) (field.relabel change)
  | .index info container position =>
    .index (change.expr info) (container.relabel change) (position.relabel change)
  | .call info function args =>
    .call (change.expr info) (function.relabel change) (relabelExprs change args)
  | .methodCall info access object method args =>
    .methodCall (change.expr info) (change.expr access) (object.relabel change)
      (method.relabel change) (relabelExprs change args)

/-- Relabelled expressions. -/
def relabelExprs (change : Relabelling) : List Expr → List Expr
  | [] => []
  | expr :: rest => expr.relabel change :: relabelExprs change rest

end

mutual

/-- A relabelled statement. -/
def Stmt.relabel (change : Relabelling) : Stmt → Stmt
  | .expr info value => .expr (change.node info) (value.relabel change)
  | .assign info targets value =>
    .assign (change.node info) (targets.map (Expr.relabel change)) (value.relabel change)
  | .ifElse info condition thenBody elseBody =>
    .ifElse (change.node info) (condition.relabel change) (relabelStmts change thenBody)
      (relabelStmts change elseBody)
  | .whileLoop info condition body =>
    .whileLoop (change.node info) (condition.relabel change) (relabelStmts change body)
  | .forLoop info element iterable body =>
    .forLoop (change.node info) (element.relabel change) (iterable.relabel change)
      (relabelStmts change body)
  | .ret info value => .ret (change.node info) (value.map (Expr.relabel change))

/-- Relabelled statements. -/
def relabelStmts (change : Relabelling) : List Stmt → List Stmt
  | [] => []
  | stmt :: rest => stmt.relabel change :: relabelStmts change rest

end

/-- A relabelled name with its written type. -/
def TypedVar.relabel (change : Relabelling) (var : TypedVar) : TypedVar where
  info := change.node var.info
  identifier := var.identifier.relabel change
  written := var.written.relabel change

/-- A relabelled heading of a function. -/
def FunctionHeading.relabel (change : Relabelling) (heading : FunctionHeading) :
    FunctionHeading where
  name := heading.name.relabel change
  params := heading.params.map (TypedVar.relabel change)
  returns := heading.returns.relabel change

mutual

/-- A relabelled declaration. -/
def Decl.relabel (change : Relabelling) : Decl → Decl
  | .varDef info var value =>
    .varDef (change.node info) (var.relabel change) (value.relabel change)
  | .funcDef info heading declarations statements recovered =>
    .funcDef (change.node info) (heading.relabel change) (relabelDecls change declarations)
      (relabelStmts change statements) recovered
  | .classDef info name superclass declarations =>
    .classDef (change.node info) (name.relabel change) (superclass.relabel change)
      (relabelDecls change declarations)
  | .globalDecl info name => .globalDecl (change.node info) (name.relabel change)
  | .nonlocalDecl info name => .nonlocalDecl (change.node info) (name.relabel change)

/-- Relabelled declarations. -/
def relabelDecls (change : Relabelling) : List Decl → List Decl
  | [] => []
  | decl :: rest => decl.relabel change :: relabelDecls change rest

end

section Lists

variable (change : Relabelling)

@[simp]
theorem relabelExprs_eq_map (exprs : List Expr) :
    relabelExprs change exprs = exprs.map (Expr.relabel change) := by
  induction exprs with
  | nil => simp [relabelExprs]
  | cons expr rest ih => simp [relabelExprs, ih]

@[simp]
theorem relabelStmts_eq_map (stmts : List Stmt) :
    relabelStmts change stmts = stmts.map (Stmt.relabel change) := by
  induction stmts with
  | nil => simp [relabelStmts]
  | cons stmt rest ih => simp [relabelStmts, ih]

@[simp]
theorem relabelDecls_eq_map (decls : List Decl) :
    relabelDecls change decls = decls.map (Decl.relabel change) := by
  induction decls with
  | nil => simp [relabelDecls]
  | cons decl rest ih => simp [relabelDecls, ih]

/-- Whether an expression can be assigned does not depend on what is recorded at it. -/
@[simp]
theorem Expr.isTarget_relabel (expr : Expr) : (expr.relabel change).isTarget = expr.isTarget := by
  cases expr <;> simp [Expr.relabel, Expr.isTarget]

end Lists

/-! ## Shapes -/

/-- The shape of a written type. -/
abbrev WrittenType.shape : WrittenType → WrittenType := relabel .blank

/-- The shape of an expression. -/
abbrev Expr.shape : Expr → Expr := relabel .blank

/-- The shape of a statement. -/
abbrev Stmt.shape : Stmt → Stmt := relabel .blank

/-- The shape of a name with its written type. -/
abbrev TypedVar.shape : TypedVar → TypedVar := relabel .blank

/-- The shape of the heading of a function. -/
abbrev FunctionHeading.shape : FunctionHeading → FunctionHeading := relabel .blank

/-- The shape of a declaration. -/
abbrev Decl.shape : Decl → Decl := relabel .blank

/-- The shape of a program, without its errors. -/
def Program.shape (program : Program) : Program where
  info := Relabelling.blank.node program.info
  declarations := program.declarations.map Decl.shape
  statements := program.statements.map Stmt.shape
  errors := []

end ChocoLang
