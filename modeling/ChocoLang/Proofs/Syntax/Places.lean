import ChocoLang.Proofs.Syntax.Height
import ChocoLang.Proofs.Syntax.Labels

/-!
# Places in trees

A place in a tree is a node with the number of one of its children.  At some places stand names
that are no values: what is declared there, a superclass, or a member of an object.  An outline is
annotated if the expressions that have a type are those at all other places.
-/

namespace ChocoLang

/--
The numbers of those children of a node of the sort that are names but no values: the name of a
function or class, the superclass, a variable that is declared, or a member.
-/
def NodeKind.names : NodeKind → List Nat
  | .funcDef | .typedVar | .globalDecl | .nonlocalDecl => [0]
  | .classDef => [0, 1]
  | .memberExpr => [1]
  | _ => []

/-- If the node is an expression, then it has a type unless it is a name that is no value. -/
def Label.Annotated (named : Prop) (label : Label) : Prop :=
  label.kind.isExpression → (label.type.isSome ↔ ¬ named)

namespace Outline

mutual

/-- The expressions that have a type are those that are values. -/
def Annotated (named : Prop) : Outline → Prop
  | node label children => label.Annotated named ∧ AnnotatedFrom label.kind 0 children

/-- The children of a node, from one of them on, have types where they are values. -/
def AnnotatedFrom (parent : NodeKind) (index : Nat) : List Outline → Prop
  | [] => True
  | outline :: rest =>
    outline.Annotated (index ∈ parent.names) ∧ AnnotatedFrom parent (index + 1) rest

end

variable {named : Prop} {parent : NodeKind}

@[simp]
theorem annotated_node (label : Label) (children : List Outline) :
    (node label children).Annotated named ↔
      label.Annotated named ∧ AnnotatedFrom label.kind 0 children := by
  rw [Annotated]

@[simp]
theorem annotatedFrom_nil (index : Nat) : AnnotatedFrom parent index [] ↔ True := by
  rw [AnnotatedFrom]

@[simp]
theorem annotatedFrom_cons (index : Nat) (outline : Outline) (rest : List Outline) :
    AnnotatedFrom parent index (outline :: rest) ↔
      outline.Annotated (index ∈ parent.names) ∧ AnnotatedFrom parent (index + 1) rest := by
  rw [AnnotatedFrom]

/-- If all children from one of them on are values, then they are all annotated as such. -/
theorem annotatedFrom_iff {index : Nat} (values : ∀ name ∈ parent.names, name < index)
    (outlines : List Outline) :
    AnnotatedFrom parent index outlines ↔ ∀ outline ∈ outlines, outline.Annotated False := by
  induction outlines generalizing index with
  | nil => simp
  | cons outline rest ih =>
      have own : ¬ index ∈ parent.names := fun among => Nat.lt_irrefl _ (values index among)
      rw [annotatedFrom_cons, ih fun name among => Nat.lt_succ_of_lt (values name among),
        eq_false own, List.forall_mem_cons]

theorem annotated_of_getElem {start : Nat} {outlines : List Outline}
    (annotated : AnnotatedFrom parent start outlines) {index : Nat} {outline : Outline}
    (found : outlines[index]? = some outline) :
    outline.Annotated (start + index ∈ parent.names) := by
  induction outlines generalizing start index with
  | nil => cases found
  | cons first rest ih =>
      obtain ⟨own, others⟩ := (annotatedFrom_cons start first rest).mp annotated
      cases index with
      | zero =>
          obtain rfl := Option.some.inj found
          exact own
      | succ index =>
          have later := ih others found
          rwa [Nat.add_right_comm] at later

theorem Annotated.label {outline : Outline} (annotated : outline.Annotated named) :
    outline.label.Annotated named := by
  cases outline
  exact ((annotated_node _ _).mp annotated).1

mutual

/-- In an annotated outline every child of every node is annotated as its place demands. -/
theorem Annotated.child : (outline : Outline) → ∀ {named : Prop}, outline.Annotated named →
    ∀ parent ∈ outline.preorder, ∀ {index : Nat} {child : Outline},
      parent.children[index]? = some child →
        child.label.Annotated (index ∈ parent.label.kind.names)
  | node label children, named, annotated, parent, among, index, child, found => by
      obtain ⟨-, below⟩ := (annotated_node label children).mp annotated
      rw [preorder, List.mem_cons] at among
      rcases among with rfl | inside
      · have own := annotated_of_getElem below found
        rw [Nat.zero_add] at own
        exact own.label
      · exact AnnotatedFrom.child children below parent inside found

theorem AnnotatedFrom.child : (outlines : List Outline) → ∀ {kind : NodeKind} {start : Nat},
    AnnotatedFrom kind start outlines → ∀ parent ∈ preorderAll outlines, ∀ {index : Nat}
      {child : Outline}, parent.children[index]? = some child →
        child.label.Annotated (index ∈ parent.label.kind.names)
  | [], _, _, _, _, among, _, _, _ => by simp [preorderAll] at among
  | outline :: rest, kind, start, annotated, parent, among, index, child, found => by
      obtain ⟨own, others⟩ := (annotatedFrom_cons start outline rest).mp annotated
      rw [preorderAll, List.mem_append] at among
      rcases among with first | later
      · exact Annotated.child outline own parent first found
      · exact AnnotatedFrom.child rest others parent later found

end

end Outline

/-! ## Parts of trees -/

attribute [local simp] Label.Annotated NodeInfo.label ExprInfo.label NodeKind.isExpression
  NodeKind.names

theorem Identifier.annotated_outline (named : Prop) (name : Identifier) :
    name.outline.Annotated named ↔ (name.info.type.isSome ↔ ¬ named) := by
  simp [outline]

@[simp]
theorem WrittenType.annotated_outline (named : Prop) (written : WrittenType) :
    written.outline.Annotated named := by
  induction written generalizing named with
  | named info name => simp [outline]
  | list info element ih => simp [outline, ih]

@[simp]
theorem TypedVar.annotated_outline (named : Prop) (var : TypedVar) :
    var.outline.Annotated named ↔ var.identifier.info.type = none := by
  simp [outline, Identifier.annotated_outline]

/-! ## Expressions -/

/-- Every value in the expression has a type, itself included. -/
def Expr.Annotated (expr : Expr) : Prop := expr.outline.Annotated False

namespace Expr

attribute [local simp] Annotated outline outlines_eq_map Identifier.annotated_outline

variable {info : ExprInfo}

theorem annotated_list {elements : List Expr} : (list info elements).Annotated ↔
    info.type.isSome ∧ ∀ expr ∈ elements, expr.Annotated := by
  have values : ∀ name ∈ NodeKind.listExpr.names, name < 0 := by decide
  simp [Outline.annotatedFrom_iff values]

theorem annotated_binary {left right : Expr} {operator : BinaryOperator} :
    (binary info left operator right).Annotated ↔
      info.type.isSome ∧ left.Annotated ∧ right.Annotated := by
  simp

theorem annotated_unary {operator : UnaryOperator} {operand : Expr} :
    (unary info operator operand).Annotated ↔ info.type.isSome ∧ operand.Annotated := by
  simp

theorem annotated_conditional {condition thenExpr elseExpr : Expr} :
    (conditional info condition thenExpr elseExpr).Annotated ↔ info.type.isSome ∧
      condition.Annotated ∧ thenExpr.Annotated ∧ elseExpr.Annotated := by
  simp

theorem annotated_member {object : Expr} {field : Identifier} :
    (member info object field).Annotated ↔
      info.type.isSome ∧ object.Annotated ∧ field.info.type = Option.none := by
  simp

theorem annotated_index {container position : Expr} : (index info container position).Annotated ↔
    info.type.isSome ∧ container.Annotated ∧ position.Annotated := by
  simp

theorem annotated_call {function : Identifier} {args : List Expr} :
    (call info function args).Annotated ↔
      info.type.isSome ∧ function.info.type.isSome ∧ ∀ arg ∈ args, arg.Annotated := by
  have values : ∀ name ∈ NodeKind.callExpr.names, name < 1 := by decide
  simp [Outline.annotatedFrom_iff values]

theorem annotated_methodCall {access : ExprInfo} {object : Expr} {method : Identifier}
    {args : List Expr} : (methodCall info access object method args).Annotated ↔
      info.type.isSome ∧ (access.type.isSome ∧ object.Annotated ∧
        method.info.type = Option.none) ∧ ∀ arg ∈ args, arg.Annotated := by
  have values : ∀ name ∈ NodeKind.methodCallExpr.names, name < 1 := by decide
  simp [Outline.annotatedFrom_iff values]

theorem annotated_name {identifier : Identifier} :
    (name identifier).Annotated ↔ identifier.info.type.isSome := by
  simp

theorem Annotated.typed {expr : Expr} (annotated : expr.Annotated) : expr.info.type.isSome := by
  cases expr <;> simp_all [Expr.info]

/-- An expression is annotated still when another type is recorded at it. -/
theorem Annotated.withInfo {expr : Expr} (annotated : expr.Annotated) (typed : info.type.isSome) :
    (expr.withInfo info).Annotated := by
  cases expr <;> simp_all [Expr.withInfo]

end Expr

/-! ## Statements -/

/-- Every value in the statement has a type. -/
def Stmt.Annotated (stmt : Stmt) : Prop := stmt.outline.Annotated False

namespace Stmt

attribute [local simp] Annotated Expr.Annotated outline outlines_eq_map Expr.outlines_eq_map or_imp
  forall_and

variable {info : NodeInfo}

theorem annotated_expr {value : Expr} : (expr info value).Annotated ↔ value.Annotated := by
  simp

theorem annotated_assign {targets : List Expr} {value : Expr} :
    (assign info targets value).Annotated ↔
      (∀ target ∈ targets, target.Annotated) ∧ value.Annotated := by
  have values : ∀ name ∈ NodeKind.assignStmt.names, name < 0 := by decide
  simp [Outline.annotatedFrom_iff values]

theorem annotated_ifElse {condition : Expr} {thenBody elseBody : List Stmt} :
    (ifElse info condition thenBody elseBody).Annotated ↔ condition.Annotated ∧
      (∀ stmt ∈ thenBody, stmt.Annotated) ∧ ∀ stmt ∈ elseBody, stmt.Annotated := by
  have values : ∀ name ∈ NodeKind.ifStmt.names, name < 1 := by decide
  simp [Outline.annotatedFrom_iff values]

theorem annotated_whileLoop {condition : Expr} {body : List Stmt} :
    (whileLoop info condition body).Annotated ↔
      condition.Annotated ∧ ∀ stmt ∈ body, stmt.Annotated := by
  have values : ∀ name ∈ NodeKind.whileStmt.names, name < 1 := by decide
  simp [Outline.annotatedFrom_iff values]

theorem annotated_forLoop {element : Identifier} {iterable : Expr} {body : List Stmt} :
    (forLoop info element iterable body).Annotated ↔ element.info.type.isSome ∧
      iterable.Annotated ∧ ∀ stmt ∈ body, stmt.Annotated := by
  have values : ∀ name ∈ NodeKind.forStmt.names, name < 2 := by decide
  simp [Outline.annotatedFrom_iff values, Identifier.annotated_outline]

theorem annotated_ret {value : Option Expr} :
    (ret info value).Annotated ↔ ∀ result ∈ value, result.Annotated := by
  cases value <;> simp

end Stmt

/-! ## Declarations -/

/-- Every value in the declaration has a type, and nothing else has one. -/
def Decl.Annotated (decl : Decl) : Prop := decl.outline.Annotated False

/-- No name in the heading of the function has a type. -/
def FunctionHeading.Untyped (heading : FunctionHeading) : Prop :=
  heading.name.info.type = none ∧ ∀ var ∈ heading.params, var.identifier.info.type = none

namespace Decl

attribute [local simp] Annotated Stmt.Annotated Expr.Annotated outline outlines_eq_map
  Stmt.outlines_eq_map Identifier.annotated_outline FunctionHeading.outlines or_imp forall_and

variable {info : NodeInfo}

theorem annotated_varDef {var : TypedVar} {value : Expr} :
    (varDef info var value).Annotated ↔ var.identifier.info.type = none ∧ value.Annotated := by
  simp

theorem annotated_funcDef {heading : FunctionHeading} {declarations : List Decl}
    {statements : List Stmt} {recovered : Bool} :
    (funcDef info heading declarations statements recovered).Annotated ↔ heading.Untyped ∧
      (∀ decl ∈ declarations, decl.Annotated) ∧ ∀ stmt ∈ statements, stmt.Annotated := by
  have values : ∀ name ∈ NodeKind.funcDef.names, name < 1 := by decide
  simp [Outline.annotatedFrom_iff values, FunctionHeading.Untyped, and_assoc]

theorem annotated_classDef {name superclass : Identifier} {members : List Decl} :
    (classDef info name superclass members).Annotated ↔ name.info.type = none ∧
      superclass.info.type = none ∧ ∀ decl ∈ members, decl.Annotated := by
  have values : ∀ name ∈ NodeKind.classDef.names, name < 2 := by decide
  simp [Outline.annotatedFrom_iff values]

theorem annotated_globalDecl {name : Identifier} :
    (globalDecl info name).Annotated ↔ name.info.type = none := by
  simp

theorem annotated_nonlocalDecl {name : Identifier} :
    (nonlocalDecl info name).Annotated ↔ name.info.type = none := by
  simp

end Decl

/-- Every value in the program has a type, and nothing else has one. -/
theorem Program.annotated_outline {program : Program} : program.outline.Annotated False ↔
    (∀ decl ∈ program.declarations, decl.Annotated) ∧
      ∀ stmt ∈ program.statements, stmt.Annotated := by
  have values : ∀ name ∈ NodeKind.program.names, name < 0 := by decide
  simp [outline, Outline.annotatedFrom_iff values, Decl.outlines_eq_map, Stmt.outlines_eq_map,
    or_imp, forall_and, Decl.Annotated, Stmt.Annotated]

end ChocoLang
