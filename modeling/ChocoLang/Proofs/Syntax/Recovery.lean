import ChocoLang.Proofs.Syntax.Decoding

/-!
# Trees are recovered from their records

Decoding the record of a tree gives back the tree without file names and marks of functions: the
parts of each node are recovered first, and with what is recorded at it they make up the node.
-/

namespace ChocoLang

open Decoding

/-- The record of a name tells the name. -/
theorem Identifier.decode_toJson {identifier : Identifier} (clear : identifier.outline.Clear) :
    decode identifier.toJson = some (.expr (.name identifier.portable)) := by
  have known := (identifier.clear_outline_iff).mp clear
  rw [toJson, decode_expr .identifier known rfl rfl]
  rfl

/-- The record of a written type tells the written type. -/
theorem WrittenType.decode_toJson (written : WrittenType) :
    decode written.toJson = some (.written written.portable) := by
  induction written with
  | named info name =>
      rw [toJson, decode_node .classType info rfl rfl]
      rfl
  | list info element ih =>
      have inner : decodeFields [("elementType", element.toJson)] =
          some [("elementType", .written element.portable)] := by simp [decodeFields, ih]
      rw [toJson, decode_node .listType info rfl inner]
      rfl

mutual

/-- The record of an expression tells the expression. -/
theorem Expr.decode_toJson : (expr : Expr) → expr.outline.Clear →
    decode expr.toJson = some (.expr expr.portable)
  | .name identifier, clear => by
      rw [toJson, identifier.decode_toJson clear]
      rfl
  | .integer info value, clear => by
      simp [outline] at clear
      rw [toJson, decode_expr .integerLiteral clear rfl rfl]
      rfl
  | .boolean info value, clear => by
      simp [outline] at clear
      rw [toJson, decode_expr .booleanLiteral clear rfl rfl]
      rfl
  | .string info value, clear => by
      simp [outline] at clear
      rw [toJson, decode_expr .stringLiteral clear rfl rfl]
      rfl
  | .none info, clear => by
      simp [outline] at clear
      rw [toJson, decode_expr .noneLiteral clear rfl rfl]
      rfl
  | .list info elements, clear => by
      simp [outline] at clear
      have inner := Expr.decodeAll_allToJson elements clear.2
      rw [toJson, decode_expr .listExpr clear.1 rfl
        (by simp only [decodeFields, decode, inner]; rfl)]
      simp [node?, expr?, portable, relabel, -List.map_map]
  | .binary info left operator right, clear => by
      simp [outline] at clear
      have first := left.decode_toJson clear.2.1
      have second := right.decode_toJson clear.2.2
      rw [toJson, decode_expr .binaryExpr clear.1 rfl
        (by simp only [decodeFields, decode, first, second]; rfl)]
      simp [node?, expr?, portable, relabel, BinaryOperator.ofSpelling?_spelling]
  | .unary info operator operand, clear => by
      simp [outline] at clear
      have first := operand.decode_toJson clear.2
      rw [toJson, decode_expr .unaryExpr clear.1 rfl
        (by simp only [decodeFields, decode, first]; rfl)]
      simp [node?, expr?, portable, relabel, UnaryOperator.ofSpelling?_spelling]
  | .conditional info condition thenExpr elseExpr, clear => by
      simp [outline] at clear
      have first := condition.decode_toJson clear.2.1
      have second := thenExpr.decode_toJson clear.2.2.1
      have third := elseExpr.decode_toJson clear.2.2.2
      rw [toJson, decode_expr .ifExpr clear.1 rfl
        (by simp only [decodeFields, first, second, third]; rfl)]
      simp [node?, expr?, portable, relabel]
  | .member info object field, clear => by
      simp [outline] at clear
      have first := object.decode_toJson clear.2.1
      have second := field.decode_toJson clear.2.2
      rw [toJson, decode_expr .memberExpr clear.1 rfl
        (by simp only [decodeFields, first, second]; rfl)]
      simp [node?, expr?, portable, relabel]
  | .index info container position, clear => by
      simp [outline] at clear
      have first := container.decode_toJson clear.2.1
      have second := position.decode_toJson clear.2.2
      rw [toJson, decode_expr .indexExpr clear.1 rfl
        (by simp only [decodeFields, first, second]; rfl)]
      simp [node?, expr?, portable, relabel]
  | .call info function args, clear => by
      simp [outline] at clear
      have first := function.decode_toJson clear.2.1
      have others := Expr.decodeAll_allToJson args clear.2.2
      rw [toJson, decode_expr .callExpr clear.1 rfl
        (by simp only [decodeFields, decode, first, others]; rfl)]
      simp [node?, expr?, portable, relabel, -List.map_map]
  | .methodCall info access object method args, clear => by
      simp [outline] at clear
      have first := object.decode_toJson clear.2.1.2.1
      have second := method.decode_toJson clear.2.1.2.2
      have others := Expr.decodeAll_allToJson args clear.2.2
      have callee : decode (Encoding.expr .memberExpr access
          [("object", object.toJson), ("member", method.toJson)]) = some (.expr
            (.member (Relabelling.portable.expr access) object.portable method.portable)) := by
        rw [decode_expr .memberExpr clear.2.1.1 rfl
          (by simp only [decodeFields, first, second]; rfl)]
        simp [node?, expr?]
      rw [toJson, decode_expr .methodCallExpr clear.1 rfl
        (by simp only [decodeFields, decode, callee, others]; rfl)]
      simp [node?, expr?, portable, relabel, -List.map_map]

/-- The records of expressions tell the expressions. -/
theorem Expr.decodeAll_allToJson : (exprs : List Expr) → (∀ expr ∈ exprs, expr.outline.Clear) →
    decodeAll (Expr.allToJson exprs) = some ((exprs.map Expr.portable).map .expr)
  | [], _ => rfl
  | expr :: rest, clear => by
      obtain ⟨first, others⟩ := List.forall_mem_cons.mp clear
      rw [allToJson, decodeAll, expr.decode_toJson first, Expr.decodeAll_allToJson rest others]
      rfl

end

mutual

/-- The record of a statement tells the statement. -/
theorem Stmt.decode_toJson : (stmt : Stmt) → stmt.outline.Clear →
    decode stmt.toJson = some (.stmt stmt.portable)
  | .expr info value, clear => by
      simp [outline] at clear
      have first := value.decode_toJson clear
      rw [toJson, decode_node .exprStmt info rfl
        (by simp only [decodeFields, first]; rfl)]
      simp [node?, stmt?, portable, relabel]
  | .assign info targets value, clear => by
      simp [outline] at clear
      have others := Expr.decodeAll_allToJson targets clear.1
      have last := value.decode_toJson clear.2
      rw [toJson, decode_node .assignStmt info rfl
        (by simp only [decodeFields, decode, others, last]; rfl)]
      simp [node?, stmt?, portable, relabel, -List.map_map]
  | .ifElse info condition thenBody elseBody, clear => by
      simp [outline] at clear
      have first := condition.decode_toJson clear.1
      have second := Stmt.decodeAll_allToJson thenBody clear.2.1
      have third := Stmt.decodeAll_allToJson elseBody clear.2.2
      rw [toJson, decode_node .ifStmt info rfl
        (by simp only [decodeFields, decode, first, second, third]; rfl)]
      simp [node?, stmt?, portable, relabel, -List.map_map]
  | .whileLoop info condition body, clear => by
      simp [outline] at clear
      have first := condition.decode_toJson clear.1
      have second := Stmt.decodeAll_allToJson body clear.2
      rw [toJson, decode_node .whileStmt info rfl
        (by simp only [decodeFields, decode, first, second]; rfl)]
      simp [node?, stmt?, portable, relabel, -List.map_map]
  | .forLoop info element iterable body, clear => by
      simp [outline] at clear
      have first := element.decode_toJson clear.1
      have second := iterable.decode_toJson clear.2.1
      have third := Stmt.decodeAll_allToJson body clear.2.2
      rw [toJson, decode_node .forStmt info rfl
        (by simp only [decodeFields, decode, first, second, third]; rfl)]
      simp [node?, stmt?, portable, relabel, -List.map_map]
  | .ret info none, clear => by
      rw [toJson, decode_node .returnStmt info rfl rfl]
      rfl
  | .ret info (some value), clear => by
      simp [outline] at clear
      have first := value.decode_toJson clear
      rw [toJson, decode_node .returnStmt info rfl
        (by simp only [decodeFields, Option.map_some, Option.getD_some, first]; rfl)]
      rfl

/-- The records of statements tell the statements. -/
theorem Stmt.decodeAll_allToJson : (stmts : List Stmt) → (∀ stmt ∈ stmts, stmt.outline.Clear) →
    decodeAll (Stmt.allToJson stmts) = some ((stmts.map Stmt.portable).map .stmt)
  | [], _ => rfl
  | stmt :: rest, clear => by
      obtain ⟨first, others⟩ := List.forall_mem_cons.mp clear
      rw [allToJson, decodeAll, stmt.decode_toJson first, Stmt.decodeAll_allToJson rest others]
      rfl

end

/-- The record of a name with its written type tells both. -/
theorem TypedVar.decode_toJson {var : TypedVar} (clear : var.outline.Clear) :
    decode var.toJson = some (.var var.portable) := by
  simp [outline] at clear
  have first := var.identifier.decode_toJson clear.1
  have second := var.written.decode_toJson
  rw [toJson, decode_node .typedVar var.info rfl
    (by simp only [decodeFields, first, second]; rfl)]
  simp [node?, portable, relabel]

mutual

/-- The record of a declaration tells the declaration but for the marks of functions. -/
theorem Decl.decode_toJson : (decl : Decl) → decl.outline.Clear →
    decode decl.toJson = some (.decl decl.portable)
  | .varDef info var value, clear => by
      simp [outline] at clear
      have first := var.decode_toJson clear.1
      have second := value.decode_toJson clear.2
      rw [toJson, decode_node .varDef info rfl
        (by simp only [decodeFields, first, second]; rfl)]
      simp [node?, decl?, portable, relabel]
  | .funcDef info heading declarations statements recovered, clear => by
      simp [outline, FunctionHeading.outlines, Outline.allIn_iff (List.map _ _)] at clear
      have name := heading.name.decode_toJson clear.1
      have params : decodeAll (heading.params.map TypedVar.toJson) =
          some ((heading.params.map TypedVar.portable).map .var) := by
        rw [List.map_map]
        exact decodeAll_map fun var among => var.decode_toJson (clear.2.1 var among)
      have returns := heading.returns.decode_toJson
      have inside := Decl.decodeAll_allToJson declarations clear.2.2.2.1
      have body := Stmt.decodeAll_allToJson statements clear.2.2.2.2
      rw [toJson, FunctionHeading.parts, decode_node .funcDef info rfl
        (by simp only [List.cons_append, List.nil_append, decodeFields, decode, name, params, returns,
          inside, body]; rfl)]
      simp [node?, decl?, portable, portableDecls_eq_map, FunctionHeading.relabel, -List.map_map]
  | .classDef info name superclass declarations, clear => by
      simp [outline] at clear
      have first := name.decode_toJson clear.1
      have second := superclass.decode_toJson clear.2.1
      have inside := Decl.decodeAll_allToJson declarations clear.2.2
      rw [toJson, decode_node .classDef info rfl
        (by simp only [decodeFields, decode, first, second, inside]; rfl)]
      simp [node?, decl?, portable, portableDecls_eq_map, -List.map_map]
  | .globalDecl info name, clear => by
      simp [outline] at clear
      have first := name.decode_toJson clear
      rw [toJson, decode_node .globalDecl info rfl (by simp only [decodeFields, first]; rfl)]
      simp [node?, decl?, portable, relabel]
  | .nonlocalDecl info name, clear => by
      simp [outline] at clear
      have first := name.decode_toJson clear
      rw [toJson, decode_node .nonlocalDecl info rfl (by simp only [decodeFields, first]; rfl)]
      simp [node?, decl?, portable, relabel]

/-- The records of declarations tell the declarations. -/
theorem Decl.decodeAll_allToJson : (decls : List Decl) → (∀ decl ∈ decls, decl.outline.Clear) →
    decodeAll (Decl.allToJson decls) = some ((decls.map Decl.portable).map .decl)
  | [], _ => rfl
  | decl :: rest, clear => by
      obtain ⟨first, others⟩ := List.forall_mem_cons.mp clear
      rw [allToJson, decodeAll, decl.decode_toJson first, Decl.decodeAll_allToJson rest others]
      rfl

end

/-- The record of a list of diagnostics with places tells the diagnostics but for their remarks. -/
theorem Diagnostic.decode_listToJson {diagnostics : List Diagnostic}
    (placed : ∀ diagnostic ∈ diagnostics, ∃ span, diagnostic.span = some span ∧
      span.coordinates ≠ [0, 0, 0, 0]) :
    decode (listToJson diagnostics) = some (.errors (diagnostics.map portable)) := by
  have each : decodeAll (diagnostics.map toJson) =
      some ((diagnostics.map portable).map .diagnostic) := by
    rw [List.map_map]
    refine decodeAll_map fun diagnostic among => ?_
    obtain ⟨span, place, told⟩ := placed diagnostic among
    exact decode_diagnostic place told
  have place : decode (location none) = some (.several [.number 0, .number 0, .number 0, .number 0]) :=
    rfl
  simp [listToJson, decode, decodeFields, place, each, assemble_other "Errors" rfl, other?,
    -List.map_map]

namespace Program

/-- The record of a program tells the program but for what is not written in it. -/
theorem decode_toJson {program : Program} (clear : program.outline.Clear)
    (placed : ∀ diagnostic ∈ program.errors, ∃ span, diagnostic.span = some span ∧
      span.coordinates ≠ [0, 0, 0, 0]) :
    decode program.toJson = some (.program program.portable) := by
  simp [outline] at clear
  have declarations := Decl.decodeAll_allToJson program.declarations clear.1
  have statements := Stmt.decodeAll_allToJson program.statements clear.2
  have errors := Diagnostic.decode_listToJson placed
  rw [toJson, decode_node .program program.info rfl
    (by simp only [decodeFields, decode, declarations, statements, errors]; rfl)]
  simp [node?, portable, portableDecls_eq_map, -List.map_map]

end Program
end ChocoLang
