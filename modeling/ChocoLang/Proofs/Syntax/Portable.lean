import ChocoLang.Proofs.Syntax.Labels
import ChocoLang.Proofs.Syntax.Relabelling
import ChocoLang.Syntax.Encoding

/-!
# Portable trees

The record of a program does not tell which file it was read from, which functions lost a part of
their body, and which remarks go with its diagnostics.  A portable program is a program without
these.  The record of a type tells an unknown type from a class by its name alone, so it tells the
type only if no class has the name that stands for the unknown type.
-/

namespace ChocoLang

/-! ## Without file names -/

/-- The span in a text that was not read from a named file. -/
def Span.portable (span : Span) : Span := { span with file := defaultFile }

/-- What is recorded at nodes, without file names. -/
def Relabelling.portable : Relabelling where
  node info := { info with span := info.span.portable }
  expr info := { info with span := info.span.portable }

/-- A written type without file names. -/
abbrev WrittenType.portable : WrittenType → WrittenType := relabel .portable

/-- A name without file names. -/
abbrev Identifier.portable : Identifier → Identifier := relabel .portable

/-- An expression without file names. -/
abbrev Expr.portable : Expr → Expr := relabel .portable

/-- A statement without file names. -/
abbrev Stmt.portable : Stmt → Stmt := relabel .portable

/-- A name with its written type, without file names. -/
abbrev TypedVar.portable : TypedVar → TypedVar := relabel .portable

/-- The heading of a function without file names. -/
abbrev FunctionHeading.portable : FunctionHeading → FunctionHeading := relabel .portable

mutual

/-- A declaration without file names, of which no function is marked. -/
def Decl.portable : Decl → Decl
  | .funcDef info heading declarations statements _ =>
    .funcDef (Relabelling.portable.node info) heading.portable (portableDecls declarations)
      (statements.map Stmt.portable) false
  | .classDef info name superclass declarations =>
    .classDef (Relabelling.portable.node info) name.portable superclass.portable
      (portableDecls declarations)
  | decl => decl.relabel .portable

/-- Declarations without file names, of which no function is marked. -/
def portableDecls : List Decl → List Decl
  | [] => []
  | decl :: rest => decl.portable :: portableDecls rest

end

/-- A diagnostic without its file name and its remarks. -/
def Diagnostic.portable (diagnostic : Diagnostic) : Diagnostic :=
  { diagnostic with span := diagnostic.span.map Span.portable, notes := [], helps := [] }

/-- A program without file names, marks of functions and remarks of diagnostics. -/
def Program.portable (program : Program) : Program where
  info := Relabelling.portable.node program.info
  declarations := portableDecls program.declarations
  statements := program.statements.map Stmt.portable
  errors := program.errors.map Diagnostic.portable

@[simp]
theorem portableDecls_eq_map (decls : List Decl) :
    portableDecls decls = decls.map Decl.portable := by
  induction decls with
  | nil => rfl
  | cons decl rest ih => rw [portableDecls, ih, List.map_cons]

/-! ## Records of portable trees -/

@[simp]
theorem Encoding.node_portable (kind : NodeKind) (info : NodeInfo) (parts : List (String × Json)) :
    node kind (Relabelling.portable.node info) parts = node kind info parts :=
  rfl

@[simp]
theorem Encoding.expr_portable (kind : NodeKind) (info : ExprInfo) (parts : List (String × Json)) :
    expr kind (Relabelling.portable.expr info) parts = expr kind info parts :=
  rfl

@[simp]
theorem Identifier.toJson_portable (identifier : Identifier) :
    identifier.portable.toJson = identifier.toJson :=
  rfl

@[simp]
theorem WrittenType.toJson_portable (written : WrittenType) :
    written.portable.toJson = written.toJson := by
  induction written with
  | named info name => rfl
  | list info element ih => simp [relabel, toJson, ih]

mutual

/-- The record of an expression has no file name. -/
theorem Expr.toJson_portable : (expr : Expr) → expr.portable.toJson = expr.toJson
  | .name identifier => by simp [relabel, toJson]
  | .integer info value | .boolean info value | .string info value => rfl
  | .none info => rfl
  | .list info elements => by simp [relabel, toJson, allToJson_portable elements]
  | .binary info left operator right => by
      simp [relabel, toJson, left.toJson_portable, right.toJson_portable]
  | .unary info operator operand => by simp [relabel, toJson, operand.toJson_portable]
  | .conditional info condition thenExpr elseExpr => by
      simp [relabel, toJson, condition.toJson_portable, thenExpr.toJson_portable,
        elseExpr.toJson_portable]
  | .member info object field => by simp [relabel, toJson, object.toJson_portable]
  | .index info container position => by
      simp [relabel, toJson, container.toJson_portable, position.toJson_portable]
  | .call info function args => by simp [relabel, toJson, allToJson_portable args]
  | .methodCall info access object method args => by
      simp [relabel, toJson, object.toJson_portable, allToJson_portable args]

theorem Expr.allToJson_portable : (exprs : List Expr) →
    Expr.allToJson (exprs.map Expr.portable) = Expr.allToJson exprs
  | [] => rfl
  | expr :: rest => by
      simp [allToJson, expr.toJson_portable, Expr.allToJson_portable rest]

end

mutual

/-- The record of a statement has no file name. -/
theorem Stmt.toJson_portable : (stmt : Stmt) → stmt.portable.toJson = stmt.toJson
  | .expr info value => by simp [relabel, toJson, value.toJson_portable]
  | .assign info targets value => by
      simp [relabel, toJson, value.toJson_portable, Expr.allToJson_portable targets]
  | .ifElse info condition thenBody elseBody => by
      simp [relabel, toJson, condition.toJson_portable, allToJson_portable thenBody,
        allToJson_portable elseBody]
  | .whileLoop info condition body => by
      simp [relabel, toJson, condition.toJson_portable, allToJson_portable body]
  | .forLoop info element iterable body => by
      simp [relabel, toJson, iterable.toJson_portable, allToJson_portable body]
  | .ret info none => rfl
  | .ret info (some value) => by simp [relabel, toJson, value.toJson_portable]

theorem Stmt.allToJson_portable : (stmts : List Stmt) →
    Stmt.allToJson (stmts.map Stmt.portable) = Stmt.allToJson stmts
  | [] => rfl
  | stmt :: rest => by
      simp [allToJson, stmt.toJson_portable, Stmt.allToJson_portable rest]

end

@[simp]
theorem TypedVar.toJson_portable (var : TypedVar) : var.portable.toJson = var.toJson := by
  simp [relabel, toJson]

@[simp]
theorem FunctionHeading.parts_portable (heading : FunctionHeading) :
    heading.portable.parts = heading.parts := by
  simp [relabel, parts]

mutual

/-- The record of a declaration has no file name and no marks. -/
theorem Decl.toJson_portable : (decl : Decl) → decl.portable.toJson = decl.toJson
  | .varDef info var value => by simp [portable, relabel, toJson, value.toJson_portable]
  | .funcDef info heading declarations statements recovered => by
      simp [portable, toJson, allToJson_portable declarations, Stmt.allToJson_portable statements]
  | .classDef info name superclass declarations => by
      simp [portable, toJson, allToJson_portable declarations]
  | .globalDecl info name | .nonlocalDecl info name => rfl

theorem Decl.allToJson_portable : (decls : List Decl) →
    Decl.allToJson (decls.map Decl.portable) = Decl.allToJson decls
  | [] => rfl
  | decl :: rest => by
      simp [allToJson, decl.toJson_portable, Decl.allToJson_portable rest]

end

theorem Diagnostic.toJson_portable (diagnostic : Diagnostic) :
    diagnostic.portable.toJson = diagnostic.toJson := by
  have place : location (diagnostic.span.map Span.portable) = location diagnostic.span := by
    cases diagnostic.span <;> rfl
  simp [portable, toJson, place, isSyntactic]

/-- The record of a program has no file name, no marks of functions and no remarks. -/
theorem Program.toJson_portable (program : Program) : program.portable.toJson = program.toJson := by
  have errors : Diagnostic.toJson ∘ Diagnostic.portable = Diagnostic.toJson :=
    funext Diagnostic.toJson_portable
  simp [portable, toJson, Decl.allToJson_portable, Stmt.allToJson_portable,
    Diagnostic.listToJson, errors]

/-! ## Types that their records tell -/

namespace ValueType

mutual

/-- No class in the type has the name that the unknown type is shown by. -/
def Clear : ValueType → Prop
  | classType name => name ≠ unknown.display
  | list element => element.Clear
  | function params result => AllClear params ∧ result.Clear
  | unknown => True

/-- No class in the types has the name that the unknown type is shown by. -/
def AllClear : List ValueType → Prop
  | [] => True
  | type :: rest => type.Clear ∧ AllClear rest

end

theorem allClear_iff (types : List ValueType) : AllClear types ↔ ∀ type ∈ types, type.Clear := by
  induction types with
  | nil => simp [AllClear]
  | cons type rest ih => simp [AllClear, ih]

@[simp]
theorem clear_function {params : List ValueType} {result : ValueType} :
    (function params result).Clear ↔ (∀ param ∈ params, param.Clear) ∧ result.Clear := by
  rw [Clear, allClear_iff]

end ValueType

/-- The type of the node, if it has one, is told by its record. -/
def Label.Clear (label : Label) : Prop := ∀ type ∈ label.type, type.Clear

/-- The types of all nodes of the outline are told by their records. -/
abbrev Outline.Clear (outline : Outline) : Prop := outline.All Label.Clear

@[simp]
theorem NodeInfo.clear_label (kind : NodeKind) (info : NodeInfo) : (info.label kind).Clear :=
  nofun

@[simp]
theorem ExprInfo.clear_label_iff (kind : NodeKind) (info : ExprInfo) :
    (info.label kind).Clear ↔ ∀ type ∈ info.type, type.Clear :=
  Iff.rfl

theorem Identifier.clear_outline_iff (identifier : Identifier) :
    identifier.outline.Clear ↔ ∀ type ∈ identifier.info.type, type.Clear := by
  simp [Identifier.outline, Label.Clear, ExprInfo.label]

/-- Nodes without types are told by their records. -/
theorem Outline.Fresh.clear {outline : Outline} (fresh : outline.Fresh) : outline.Clear := by
  refine (all_iff_preorder outline).mpr fun node among type typed => ?_
  have untyped := ((all_iff_preorder outline).mp fresh node among).2
  rw [untyped] at typed
  cases typed

end ChocoLang
