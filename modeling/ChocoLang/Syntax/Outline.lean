import ChocoLang.Syntax

/-!
# Outlines

The outline of a program forgets what the nodes of its tree are made of and keeps, for each node,
its sort, what is recorded at it, and its children in the order of the text.  All traversals are
those of the outline.  `walk_eq_preorderAll` says that the walk with a stack of nodes still to be
seen meets the nodes in the order of the recursive one.  A visitor leaves out the children of the
sorts of nodes that it does not descend into.
-/

namespace ChocoLang

/-- What an outline tells about a node. -/
structure Label where
  /-- The sort of the node. -/
  kind : NodeKind
  /-- The text of the node. -/
  span : Span
  /-- The message of the error found at the node. -/
  error : Option String
  /-- The type of the node, if it is an expression that has one. -/
  type : Option ValueType := none
  /-- The name the node consists of, if it is a name. -/
  name : Option String := none
deriving DecidableEq, Repr

/-- A tree of labelled nodes. -/
inductive Outline where
  | node (label : Label) (children : List Outline)
deriving Repr

namespace Outline

/-- What the outline tells about its topmost node. -/
def label : Outline → Label
  | node label _ => label

/-- The outlines below the topmost node. -/
def children : Outline → List Outline
  | node _ children => children

mutual

/-- The number of nodes. -/
def size : Outline → Nat
  | node _ children => 1 + sizeAll children

/-- The number of nodes of several outlines. -/
def sizeAll : List Outline → Nat
  | [] => 0
  | outline :: rest => outline.size + sizeAll rest

end

mutual

/-- The nodes of an outline, each before its children. -/
def preorder : Outline → List Outline
  | node label children => node label children :: preorderAll children

/-- The nodes of several outlines, one outline after the other. -/
def preorderAll : List Outline → List Outline
  | [] => []
  | outline :: rest => outline.preorder ++ preorderAll rest

end

theorem sizeAll_append (first second : List Outline) :
    sizeAll (first ++ second) = sizeAll first + sizeAll second := by
  induction first with
  | nil => simp [sizeAll]
  | cons outline rest ih => simp [sizeAll, ih, Nat.add_assoc]

theorem size_eq (outline : Outline) : outline.size = 1 + sizeAll outline.children := by
  cases outline
  rw [size, children]

/-- Meets the node on top of a stack, then its children, then the rest of the stack. -/
def walk : List Outline → List Outline
  | [] => []
  | outline :: pending => outline :: walk (outline.children ++ pending)
termination_by pending => sizeAll pending
decreasing_by
  rw [sizeAll_append, sizeAll, size_eq]
  omega

theorem preorderAll_append (first second : List Outline) :
    preorderAll (first ++ second) = preorderAll first ++ preorderAll second := by
  induction first with
  | nil => simp [preorderAll]
  | cons outline rest ih => simp [preorderAll, ih]

/-- The walk with a stack meets the nodes in the order of the recursive walk. -/
theorem walk_eq_preorderAll (pending : List Outline) : walk pending = preorderAll pending := by
  fun_induction walk pending with
  | case1 => simp [preorderAll]
  | case2 outline pending ih =>
      rw [ih, preorderAll_append, preorderAll]
      cases outline
      simp [preorder, children]

end Outline

/-- Whether a visitor with nothing but the default methods goes on to the children of a node. -/
def NodeKind.descends : NodeKind → Bool
  | program => true
  | classType => false
  | listType => true
  | typedVar => true
  | varDef => true
  | funcDef => true
  | classDef => true
  | globalDecl => true
  | nonlocalDecl => true
  | exprStmt => true
  | assignStmt => true
  | ifStmt => true
  | whileStmt => true
  | forStmt => true
  | returnStmt => true
  | identifier => false
  | integerLiteral => false
  | booleanLiteral => false
  | stringLiteral => false
  | noneLiteral => false
  | listExpr => true
  | binaryExpr => true
  | unaryExpr => true
  | ifExpr => true
  | memberExpr => true
  | indexExpr => true
  | callExpr => true
  | methodCallExpr => true

namespace Outline

mutual

/-- The nodes in the order in which a visitor with nothing but the default methods visits them. -/
def visited : Outline → List Outline
  | node label children =>
    node label children :: if label.kind.descends then visitedAll children else []

/-- The nodes of several outlines, visited one outline after the other. -/
def visitedAll : List Outline → List Outline
  | [] => []
  | outline :: rest => outline.visited ++ visitedAll rest

end

end Outline

/-! ## The outline of a tree -/

/-- The label of a node that is no expression. -/
def NodeInfo.label (kind : NodeKind) (info : NodeInfo) : Label :=
  { kind, span := info.span, error := info.error }

/-- The label of an expression. -/
def ExprInfo.label (kind : NodeKind) (info : ExprInfo) : Label :=
  { kind, span := info.span, error := info.error, type := info.type }

/-- The outline of a name. -/
def Identifier.outline (identifier : Identifier) : Outline :=
  .node { identifier.info.label .identifier with name := some identifier.name } []

/-- The outline of a written type. -/
def WrittenType.outline : WrittenType → Outline
  | .named info _ => .node (info.label .classType) []
  | .list info element => .node (info.label .listType) [element.outline]

mutual

/-- The outline of an expression. -/
def Expr.outline : Expr → Outline
  | .name identifier => identifier.outline
  | .integer info _ => .node (info.label .integerLiteral) []
  | .boolean info _ => .node (info.label .booleanLiteral) []
  | .string info _ => .node (info.label .stringLiteral) []
  | .none info => .node (info.label .noneLiteral) []
  | .list info elements => .node (info.label .listExpr) (Expr.outlines elements)
  | .binary info left _ right => .node (info.label .binaryExpr) [left.outline, right.outline]
  | .unary info _ operand => .node (info.label .unaryExpr) [operand.outline]
  | .conditional info condition thenExpr elseExpr =>
    .node (info.label .ifExpr) [condition.outline, thenExpr.outline, elseExpr.outline]
  | .member info object field =>
    .node (info.label .memberExpr) [object.outline, field.outline]
  | .index info container position =>
    .node (info.label .indexExpr) [container.outline, position.outline]
  | .call info function args =>
    .node (info.label .callExpr) (function.outline :: Expr.outlines args)
  | .methodCall info access object method args =>
    .node (info.label .methodCallExpr)
      (.node (access.label .memberExpr) [object.outline, method.outline] :: Expr.outlines args)

/-- The outlines of several expressions. -/
def Expr.outlines : List Expr → List Outline
  | [] => []
  | expr :: rest => expr.outline :: Expr.outlines rest

end

mutual

/-- The outline of a statement. -/
def Stmt.outline : Stmt → Outline
  | .expr info value => .node (info.label .exprStmt) [value.outline]
  | .assign info targets value =>
    .node (info.label .assignStmt) (Expr.outlines targets ++ [value.outline])
  | .ifElse info condition thenBody elseBody =>
    .node (info.label .ifStmt)
      (condition.outline :: (Stmt.outlines thenBody ++ Stmt.outlines elseBody))
  | .whileLoop info condition body =>
    .node (info.label .whileStmt) (condition.outline :: Stmt.outlines body)
  | .forLoop info element iterable body =>
    .node (info.label .forStmt) (element.outline :: iterable.outline :: Stmt.outlines body)
  | .ret info value => .node (info.label .returnStmt) (value.map Expr.outline).toList

/-- The outlines of several statements. -/
def Stmt.outlines : List Stmt → List Outline
  | [] => []
  | stmt :: rest => stmt.outline :: Stmt.outlines rest

end

/-- The outline of a name with its written type. -/
def TypedVar.outline (var : TypedVar) : Outline :=
  .node (var.info.label .typedVar) [var.identifier.outline, var.written.outline]

/-- The outlines of the parts of a function that others see. -/
def FunctionHeading.outlines (heading : FunctionHeading) : List Outline :=
  heading.name.outline :: (heading.params.map TypedVar.outline ++ [heading.returns.outline])

mutual

/-- The outline of a declaration. -/
def Decl.outline : Decl → Outline
  | .varDef info var value => .node (info.label .varDef) [var.outline, value.outline]
  | .funcDef info heading declarations statements _ =>
    .node (info.label .funcDef)
      (heading.outlines ++ (Decl.outlines declarations ++ Stmt.outlines statements))
  | .classDef info name superclass declarations =>
    .node (info.label .classDef)
      (name.outline :: superclass.outline :: Decl.outlines declarations)
  | .globalDecl info name => .node (info.label .globalDecl) [name.outline]
  | .nonlocalDecl info name => .node (info.label .nonlocalDecl) [name.outline]

/-- The outlines of several declarations. -/
def Decl.outlines : List Decl → List Outline
  | [] => []
  | decl :: rest => decl.outline :: Decl.outlines rest

end

/-- The outline of a program. -/
def Program.outline (program : Program) : Outline :=
  .node (program.info.label .program)
    (Decl.outlines program.declarations ++ Stmt.outlines program.statements)

end ChocoLang
