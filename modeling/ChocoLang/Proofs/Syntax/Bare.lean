import ChocoLang.Proofs.Syntax.Height
import ChocoLang.Proofs.Syntax.Labels
import ChocoLang.Proofs.Syntax.Relabelling

/-!
# Bare trees and fresh trees

A bare tree is a tree without what checking records: no node has an error or a type, and all places
are kept.  Two trees with one bare tree differ at most in the errors and types recorded in them.
The outline of a bare tree is the outline of the tree with bare labels.

A tree in which nothing is recorded is its own bare tree.  So what checking makes of a fresh tree
tells the fresh tree: it is the bare tree of the checked one.
-/

namespace ChocoLang

/-- The relabelling that forgets errors and types, and keeps the places. -/
def Relabelling.bare : Relabelling where
  node info := .ofSpan info.span
  expr info := .ofSpan info.span

@[simp]
theorem Relabelling.node_bare (info : NodeInfo) : bare.node info = .ofSpan info.span := rfl

@[simp]
theorem Relabelling.expr_bare (info : ExprInfo) : bare.expr info = .ofSpan info.span := rfl

/-- A written type without what is recorded at it. -/
abbrev WrittenType.bare : WrittenType → WrittenType := relabel .bare

/-- A name without what is recorded at it. -/
abbrev Identifier.bare : Identifier → Identifier := relabel .bare

/-- An expression without what is recorded at it. -/
abbrev Expr.bare : Expr → Expr := relabel .bare

/-- A statement without what is recorded at it. -/
abbrev Stmt.bare : Stmt → Stmt := relabel .bare

/-- A name with its written type, without what is recorded at them. -/
abbrev TypedVar.bare : TypedVar → TypedVar := relabel .bare

/-- The heading of a function without what is recorded at it. -/
abbrev FunctionHeading.bare : FunctionHeading → FunctionHeading := relabel .bare

/-- A declaration without what is recorded at it. -/
abbrev Decl.bare : Decl → Decl := relabel .bare

/-- A name is told by its bare form up to what is recorded at it. -/
theorem Identifier.bare_eq_iff {first second : Identifier} :
    first.bare = second.bare ↔
      first.info.span = second.info.span ∧ first.name = second.name := by
  simp [bare, relabel, ExprInfo.ofSpan]

/-- What is recorded at an expression does not matter, provided that the place is the same. -/
theorem Expr.bare_withInfo {info : ExprInfo} {expr : Expr} (same : info.span = expr.info.span) :
    (expr.withInfo info).bare = expr.bare := by
  cases expr <;> simp_all [bare, withInfo, relabel, Identifier.relabel, Expr.info]

/-! ## Bare outlines -/

/-- A label without error and type. -/
def Label.bare (label : Label) : Label := { label with error := none, type := none }

namespace Outline

mutual

/-- An outline with bare labels. -/
def bare : Outline → Outline
  | node label children => node label.bare (bareAll children)

/-- Outlines with bare labels. -/
def bareAll : List Outline → List Outline
  | [] => []
  | outline :: rest => outline.bare :: bareAll rest

end

@[simp]
theorem bareAll_eq_map (outlines : List Outline) : bareAll outlines = outlines.map bare := by
  induction outlines with
  | nil => simp [bareAll]
  | cons outline rest ih => simp [bareAll, ih]

@[simp]
theorem bare_node (label : Label) (children : List Outline) :
    (node label children).bare = node label.bare (children.map bare) := by
  rw [bare, bareAll_eq_map]

end Outline

@[simp]
theorem NodeInfo.label_bare (kind : NodeKind) (info : NodeInfo) :
    (info.label kind).bare = (NodeInfo.ofSpan info.span).label kind := rfl

@[simp]
theorem ExprInfo.label_bare (kind : NodeKind) (info : ExprInfo) :
    (info.label kind).bare = (ExprInfo.ofSpan info.span).label kind := rfl

section Outlines

attribute [local simp] Expr.outline Expr.relabel Stmt.outline Stmt.relabel Decl.outline
  Decl.relabel Expr.outlines_eq_map Stmt.outlines_eq_map Decl.outlines_eq_map

@[simp]
theorem Identifier.outline_bare (name : Identifier) : name.bare.outline = name.outline.bare := by
  simp only [outline, Outline.bare_node, List.map_nil]
  rfl

@[simp]
theorem WrittenType.outline_bare (written : WrittenType) :
    written.bare.outline = written.outline.bare := by
  induction written with
  | named info name => simp [outline, relabel]
  | list info element ih => simp [outline, relabel, ih]

mutual

@[simp]
theorem Expr.outline_bare : (expr : Expr) → expr.bare.outline = expr.outline.bare
  | .name identifier => identifier.outline_bare
  | .integer .. | .boolean .. | .string .. | .none .. => by simp
  | .list info elements => by simp [Expr.outlines_bare elements]
  | .binary info left _ right => by simp [left.outline_bare, right.outline_bare]
  | .unary info _ operand => by simp [operand.outline_bare]
  | .conditional info condition thenExpr elseExpr => by
      simp [condition.outline_bare, thenExpr.outline_bare, elseExpr.outline_bare]
  | .member info object field => by simp [object.outline_bare]
  | .index info container position => by simp [container.outline_bare, position.outline_bare]
  | .call info function args => by simp [Expr.outlines_bare args]
  | .methodCall info access object method args => by
      simp [object.outline_bare, Expr.outlines_bare args]

theorem Expr.outlines_bare : (exprs : List Expr) →
    (exprs.map Expr.bare).map Expr.outline = (exprs.map Expr.outline).map Outline.bare
  | [] => rfl
  | expr :: rest => by
      simp only [List.map_cons, expr.outline_bare, Expr.outlines_bare rest]

end

mutual

@[simp]
theorem Stmt.outline_bare : (stmt : Stmt) → stmt.bare.outline = stmt.outline.bare
  | .expr info value => by simp
  | .assign info targets value => by simp
  | .ifElse info condition thenBody elseBody => by
      simp [Stmt.outlines_bare thenBody, Stmt.outlines_bare elseBody]
  | .whileLoop info condition body => by simp [Stmt.outlines_bare body]
  | .forLoop info element iterable body => by simp [Stmt.outlines_bare body]
  | .ret info value => by cases value <;> simp

theorem Stmt.outlines_bare : (stmts : List Stmt) →
    (stmts.map Stmt.bare).map Stmt.outline = (stmts.map Stmt.outline).map Outline.bare
  | [] => rfl
  | stmt :: rest => by
      simp only [List.map_cons, stmt.outline_bare, Stmt.outlines_bare rest]

end

@[simp]
theorem TypedVar.outline_bare (var : TypedVar) : var.bare.outline = var.outline.bare := by
  simp [outline, relabel]

theorem FunctionHeading.outlines_bare (heading : FunctionHeading) :
    heading.bare.outlines = heading.outlines.map Outline.bare := by
  simp [outlines, relabel]

mutual

@[simp]
theorem Decl.outline_bare : (decl : Decl) → decl.bare.outline = decl.outline.bare
  | .varDef info var value => by simp
  | .funcDef info heading declarations statements _ => by
      simp [heading.outlines_bare, Decl.outlines_bare declarations, Stmt.outlines_bare statements]
  | .classDef info name superclass declarations => by simp [Decl.outlines_bare declarations]
  | .globalDecl info name | .nonlocalDecl info name => by simp

theorem Decl.outlines_bare : (decls : List Decl) →
    (decls.map Decl.bare).map Decl.outline = (decls.map Decl.outline).map Outline.bare
  | [] => rfl
  | decl :: rest => by
      simp only [List.map_cons, decl.outline_bare, Decl.outlines_bare rest]

end

/-- The tree of a program without what is recorded in it, and without its errors. -/
def Program.bare (program : Program) : Program where
  info := Relabelling.bare.node program.info
  declarations := program.declarations.map Decl.bare
  statements := program.statements.map Stmt.bare
  errors := []

@[simp]
theorem Program.outline_bare (program : Program) : program.bare.outline = program.outline.bare := by
  simp [outline, bare, Function.comp_def]

end Outlines

/-! ## Fresh trees -/

theorem NodeInfo.ofSpan_span {info : NodeInfo} (clean : info.error = none) :
    ofSpan info.span = info := by
  cases info
  cases clean
  rfl

theorem ExprInfo.ofSpan_span {info : ExprInfo} (clean : info.error = none ∧ info.type = none) :
    ofSpan info.span = info := by
  obtain ⟨⟨span, error⟩, type⟩ := info
  obtain ⟨rfl, rfl⟩ := clean
  rfl

section Trees

attribute [local simp] WrittenType.outline Expr.outline Stmt.outline Decl.outline
  WrittenType.relabel Expr.relabel Stmt.relabel Decl.relabel

theorem WrittenType.bare_of_fresh (written : WrittenType) (fresh : written.outline.Fresh) :
    written.bare = written := by
  induction written with
  | named info name =>
      have clean := by simpa using fresh
      simp [NodeInfo.ofSpan_span clean]
  | list info element ih =>
      obtain ⟨clean, inner⟩ := by simpa using fresh
      simp [NodeInfo.ofSpan_span clean, ih inner]

theorem Identifier.bare_of_fresh {identifier : Identifier} (fresh : identifier.outline.Fresh) :
    identifier.bare = identifier := by
  simp [bare, relabel, ExprInfo.ofSpan_span (identifier.fresh_outline_iff.mp fresh)]

mutual

theorem Expr.bare_of_fresh : (expr : Expr) → expr.outline.Fresh → expr.bare = expr
  | .name identifier, fresh => by
      simpa using Identifier.bare_of_fresh fresh
  | .integer info _, fresh | .boolean info _, fresh | .string info _, fresh | .none info, fresh => by
      have clean := by simpa using fresh
      simp [ExprInfo.ofSpan_span clean]
  | .list info elements, fresh => by
      obtain ⟨clean, inner⟩ := by simpa using fresh
      simp [ExprInfo.ofSpan_span clean, Expr.map_bare_of_fresh elements inner]
  | .binary info left _ right, fresh => by
      obtain ⟨clean, first, second⟩ := by simpa using fresh
      simp [ExprInfo.ofSpan_span clean, left.bare_of_fresh first, right.bare_of_fresh second]
  | .unary info _ operand, fresh => by
      obtain ⟨clean, inner⟩ := by simpa using fresh
      simp [ExprInfo.ofSpan_span clean, operand.bare_of_fresh inner]
  | .conditional info condition thenExpr elseExpr, fresh => by
      obtain ⟨clean, first, second, third⟩ := by simpa using fresh
      simp [ExprInfo.ofSpan_span clean, condition.bare_of_fresh first,
        thenExpr.bare_of_fresh second, elseExpr.bare_of_fresh third]
  | .member info object field, fresh => by
      obtain ⟨clean, inner, name⟩ := by simpa using fresh
      simp [ExprInfo.ofSpan_span clean, object.bare_of_fresh inner, Identifier.bare_of_fresh name]
  | .index info container position, fresh => by
      obtain ⟨clean, first, second⟩ := by simpa using fresh
      simp [ExprInfo.ofSpan_span clean, container.bare_of_fresh first,
        position.bare_of_fresh second]
  | .call info function args, fresh => by
      obtain ⟨clean, name, inner⟩ := by simpa using fresh
      simp [ExprInfo.ofSpan_span clean, Identifier.bare_of_fresh name,
        Expr.map_bare_of_fresh args inner]
  | .methodCall info access object method args, fresh => by
      obtain ⟨clean, ⟨whole, receiver, name⟩, inner⟩ := by simpa using fresh
      simp [ExprInfo.ofSpan_span clean, ExprInfo.ofSpan_span whole, object.bare_of_fresh receiver,
        Identifier.bare_of_fresh name, Expr.map_bare_of_fresh args inner]

theorem Expr.map_bare_of_fresh : (exprs : List Expr) → (∀ expr ∈ exprs, expr.outline.Fresh) →
    exprs.map Expr.bare = exprs
  | [], _ => rfl
  | expr :: rest, fresh => by
      rw [List.forall_mem_cons] at fresh
      rw [List.map_cons, expr.bare_of_fresh fresh.1, Expr.map_bare_of_fresh rest fresh.2]

end

mutual

theorem Stmt.bare_of_fresh : (stmt : Stmt) → stmt.outline.Fresh → stmt.bare = stmt
  | .expr info value, fresh => by
      obtain ⟨clean, inner⟩ := by simpa using fresh
      simp [NodeInfo.ofSpan_span clean, value.bare_of_fresh inner]
  | .assign info targets value, fresh => by
      obtain ⟨clean, left, right⟩ := by simpa using fresh
      simp [NodeInfo.ofSpan_span clean, Expr.map_bare_of_fresh targets left,
        value.bare_of_fresh right]
  | .ifElse info condition thenBody elseBody, fresh => by
      obtain ⟨clean, choice, first, second⟩ := by simpa using fresh
      simp [NodeInfo.ofSpan_span clean, condition.bare_of_fresh choice,
        Stmt.map_bare_of_fresh thenBody first, Stmt.map_bare_of_fresh elseBody second]
  | .whileLoop info condition body, fresh => by
      obtain ⟨clean, choice, inner⟩ := by simpa using fresh
      simp [NodeInfo.ofSpan_span clean, condition.bare_of_fresh choice,
        Stmt.map_bare_of_fresh body inner]
  | .forLoop info element iterable body, fresh => by
      obtain ⟨clean, name, range, inner⟩ := by simpa using fresh
      simp [NodeInfo.ofSpan_span clean, Identifier.bare_of_fresh name,
        iterable.bare_of_fresh range, Stmt.map_bare_of_fresh body inner]
  | .ret info none, fresh => by
      have clean := by simpa using fresh
      simp [NodeInfo.ofSpan_span clean]
  | .ret info (some value), fresh => by
      obtain ⟨clean, inner⟩ := by simpa using fresh
      simp [NodeInfo.ofSpan_span clean, value.bare_of_fresh inner]

theorem Stmt.map_bare_of_fresh : (stmts : List Stmt) → (∀ stmt ∈ stmts, stmt.outline.Fresh) →
    stmts.map Stmt.bare = stmts
  | [], _ => rfl
  | stmt :: rest, fresh => by
      rw [List.forall_mem_cons] at fresh
      rw [List.map_cons, stmt.bare_of_fresh fresh.1, Stmt.map_bare_of_fresh rest fresh.2]

end

theorem TypedVar.bare_of_fresh {var : TypedVar} (fresh : var.outline.Fresh) : var.bare = var := by
  obtain ⟨clean, name, written⟩ := by simpa [TypedVar.outline] using fresh
  simp [TypedVar.relabel, NodeInfo.ofSpan_span clean, Identifier.bare_of_fresh name,
    var.written.bare_of_fresh written]

theorem FunctionHeading.bare_of_fresh {heading : FunctionHeading}
    (fresh : Outline.AllIn Label.Fresh heading.outlines) : heading.bare = heading := by
  have each := (Outline.allIn_iff _).mp fresh
  simp only [outlines, List.forall_mem_cons, List.forall_mem_append, List.forall_mem_map] at each
  obtain ⟨name, params, returns, -⟩ := each
  have same : heading.params.map TypedVar.bare = heading.params :=
    (List.map_congr_left fun var among => TypedVar.bare_of_fresh (params var among)).trans
      (List.map_id' _)
  simp [FunctionHeading.relabel, Identifier.bare_of_fresh name, same,
    heading.returns.bare_of_fresh returns]

mutual

theorem Decl.bare_of_fresh : (decl : Decl) → decl.outline.Fresh → decl.bare = decl
  | .varDef info var value, fresh => by
      obtain ⟨clean, name, inner⟩ := by simpa using fresh
      simp [NodeInfo.ofSpan_span clean, TypedVar.bare_of_fresh name, value.bare_of_fresh inner]
  | .funcDef info heading declarations statements _, fresh => by
      obtain ⟨clean, head, inner, body⟩ := by simpa using fresh
      simp [NodeInfo.ofSpan_span clean, FunctionHeading.bare_of_fresh head,
        Decl.map_bare_of_fresh declarations inner, Stmt.map_bare_of_fresh statements body]
  | .classDef info name superclass declarations, fresh => by
      obtain ⟨clean, first, second, inner⟩ := by simpa using fresh
      simp [NodeInfo.ofSpan_span clean, Identifier.bare_of_fresh first,
        Identifier.bare_of_fresh second, Decl.map_bare_of_fresh declarations inner]
  | .globalDecl info name, fresh | .nonlocalDecl info name, fresh => by
      obtain ⟨clean, inner⟩ := by simpa using fresh
      simp [NodeInfo.ofSpan_span clean, Identifier.bare_of_fresh inner]

theorem Decl.map_bare_of_fresh : (decls : List Decl) → (∀ decl ∈ decls, decl.outline.Fresh) →
    decls.map Decl.bare = decls
  | [], _ => rfl
  | decl :: rest, fresh => by
      rw [List.forall_mem_cons] at fresh
      rw [List.map_cons, decl.bare_of_fresh fresh.1, Decl.map_bare_of_fresh rest fresh.2]

end

/-- A program in which nothing is recorded is its own bare tree, apart from its errors. -/
theorem Program.bare_of_fresh {program : Program} (fresh : program.outline.Fresh) :
    program.bare = { program with errors := [] } := by
  obtain ⟨clean, declarations, statements⟩ := by simpa [outline] using fresh
  simp [bare, NodeInfo.ofSpan_span clean, Decl.map_bare_of_fresh _ declarations,
    Stmt.map_bare_of_fresh _ statements]

end Trees

end ChocoLang
