import ChocoLang.Checking.Expression
import ChocoLang.Checking.Statement
import Mathlib.Data.List.Forall2

/-!
# Types that are recorded

A type is known if no part of it is unknown.  The least type that holds the values of two known
types is known.
-/

namespace ChocoLang

namespace ValueType

mutual

/-- No part of the type is unknown. -/
def Known : ValueType → Prop
  | classType _ => True
  | list element => element.Known
  | function params result => AllKnown params ∧ result.Known
  | unknown => False

/-- No part of any of the types is unknown. -/
def AllKnown : List ValueType → Prop
  | [] => True
  | type :: rest => type.Known ∧ AllKnown rest

end

@[simp]
theorem known_classType (name : String) : (classType name).Known := by simp [Known]

@[simp]
theorem known_list (element : ValueType) : (list element).Known ↔ element.Known := by rw [Known]

@[simp]
theorem not_known_unknown : ¬ unknown.Known := by simp [Known]

theorem allKnown_iff (types : List ValueType) : AllKnown types ↔ ∀ type ∈ types, type.Known := by
  induction types with
  | nil => simp [AllKnown]
  | cons type rest ih => simp [AllKnown, ih]

@[simp]
theorem known_function (params : List ValueType) (result : ValueType) :
    (function params result).Known ↔ (∀ param ∈ params, param.Known) ∧ result.Known := by
  rw [Known, allKnown_iff]

@[simp]
theorem known_int : int.Known := known_classType _

@[simp]
theorem known_bool : bool.Known := known_classType _

@[simp]
theorem known_str : str.Known := known_classType _

@[simp]
theorem known_object : object.Known := known_classType _

@[simp]
theorem known_none : none.Known := known_classType _

@[simp]
theorem known_empty : empty.Known := known_classType _

theorem Known.isUnknown {type : ValueType} (known : type.Known) : type.isUnknown = false := by
  cases type with
  | unknown => exact absurd known not_known_unknown
  | _ => rfl

end ValueType

namespace ClassHierarchy

variable (hierarchy : ClassHierarchy)

theorem commonSuperclass_known (a b : String) : (hierarchy.commonSuperclass a b).Known := by
  unfold commonSuperclass
  dsimp only
  split
  · exact ValueType.known_classType _
  · exact ValueType.known_object

theorem join_known {a b : ValueType} (left : a.Known) (right : b.Known) :
    (hierarchy.join a b).Known := by
  unfold join
  rw [left.isUnknown, right.isUnknown]
  simp only [Bool.false_eq_true, if_false]
  split
  · exact right
  split
  · exact left
  split
  · exact hierarchy.commonSuperclass_known _ _
  · exact ValueType.known_object

theorem displayType_known {types : List ValueType} (known : ∀ type ∈ types, type.Known) :
    (hierarchy.displayType types).Known := by
  cases types with
  | nil => exact ValueType.known_empty
  | cons first rest =>
      obtain ⟨start, others⟩ := List.forall_mem_cons.mp known
      rw [displayType, ValueType.known_list]
      clear known
      induction rest generalizing first with
      | nil => exact start
      | cons next rest ih =>
          obtain ⟨second, others⟩ := List.forall_mem_cons.mp others
          exact ih (hierarchy.join first next) (hierarchy.join_known start second) others

end ClassHierarchy
end ChocoLang

/-!
## Typing rules

The rules by which the types recorded in a checked tree must fit together, given the classes of the
program.  A rule speaks of the types recorded at a node and at its parts; it does not say where the
types come from.
-/

namespace ChocoLang

/-! ## Expressions -/

/-- The operator takes operands of two types, and its result is of the third. -/
inductive BinaryOperator.Takes (hierarchy : ClassHierarchy) :
    BinaryOperator → ValueType → ValueType → ValueType → Prop where
  | arithmetic {operator : BinaryOperator}
      (arithmetic : operator ∈ [.add, .sub, .mul, .floorDiv, .mod]) :
      Takes hierarchy operator .int .int .int
  | concatenation : Takes hierarchy .add .str .str .str
  | lists (a b : ValueType) :
      Takes hierarchy .add (.list a) (.list b) (.list (hierarchy.join a b))
  | emptyBefore {type : ValueType} (lists : type.isList ∨ type = .empty) :
      Takes hierarchy .add .empty type type
  | emptyBehind {type : ValueType} (lists : type.isList) : Takes hierarchy .add type .empty type
  | ordering {operator : BinaryOperator} (ordering : operator ∈ [.lt, .gt, .le, .ge]) :
      Takes hierarchy operator .int .int .bool
  | equality {operator : BinaryOperator} {type : ValueType} (equality : operator ∈ [.eq, .ne])
      (special : type.isSpecial) : Takes hierarchy operator type type .bool
  | identity {left right : ValueType} (leftObject : ¬ left.isSpecial)
      (rightObject : ¬ right.isSpecial) : Takes hierarchy .is left right .bool
  | logical {operator : BinaryOperator} (logical : operator ∈ [.and, .or]) :
      Takes hierarchy operator .bool .bool .bool

/-- Positions in values of the first type hold values of the second. -/
inductive ValueType.Holds : ValueType → ValueType → Prop where
  | characters : Holds .str .str
  | elements (element : ValueType) : Holds (.list element) element

/--
The expression is of the type, which is recorded at it, and so are its parts; each node obeys the
rule of its form.
-/
inductive Expr.Typed (hierarchy : ClassHierarchy) : Expr → ValueType → Prop where
  | name {identifier : Identifier} {type : ValueType}
      (recorded : identifier.info.type = some type) : Typed hierarchy (.name identifier) type
  | integer {info : ExprInfo} {value : Int} (recorded : info.type = some .int) :
      Typed hierarchy (.integer info value) .int
  | boolean {info : ExprInfo} {value : Bool} (recorded : info.type = some .bool) :
      Typed hierarchy (.boolean info value) .bool
  | string {info : ExprInfo} {value : String} (recorded : info.type = some .str) :
      Typed hierarchy (.string info value) .str
  | none {info : ExprInfo} (recorded : info.type = some .none) :
      Typed hierarchy (.none info) .none
  | list {info : ExprInfo} {elements : List Expr} {types : List ValueType}
      (recorded : info.type = some (hierarchy.displayType types))
      (each : List.Forall₂ (Typed hierarchy) elements types) :
      Typed hierarchy (.list info elements) (hierarchy.displayType types)
  | binary {info : ExprInfo} {operator : BinaryOperator} {left right : Expr}
      {a b type : ValueType} (recorded : info.type = some type) (first : Typed hierarchy left a)
      (second : Typed hierarchy right b) (takes : operator.Takes hierarchy a b type) :
      Typed hierarchy (.binary info left operator right) type
  | unary {info : ExprInfo} {operator : UnaryOperator} {operand : Expr}
      (recorded : info.type = some operator.operandType)
      (inner : Typed hierarchy operand operator.operandType) :
      Typed hierarchy (.unary info operator operand) operator.operandType
  | conditional {info : ExprInfo} {condition thenExpr elseExpr : Expr} {a b : ValueType}
      (recorded : info.type = some (hierarchy.join a b)) (decides : Typed hierarchy condition .bool)
      (first : Typed hierarchy thenExpr a) (second : Typed hierarchy elseExpr b) :
      Typed hierarchy (.conditional info condition thenExpr elseExpr) (hierarchy.join a b)
  | member {info : ExprInfo} {object : Expr} {field : Identifier} {name : String}
      {owner : ClassInfo} {type : ValueType} (recorded : info.type = some type)
      (inner : Typed hierarchy object (.classType name)) (found : hierarchy.find? name = some owner)
      (listed : owner.attributes.find? field.name = some type) :
      Typed hierarchy (.member info object field) type
  | index {info : ExprInfo} {container position : Expr} {whole type : ValueType}
      (recorded : info.type = some type) (inner : Typed hierarchy container whole)
      (place : Typed hierarchy position .int) (holds : whole.Holds type) :
      Typed hierarchy (.index info container position) type
  | call {info : ExprInfo} {function : Identifier} {args : List Expr}
      {params types : List ValueType} {result : ValueType} (recorded : info.type = some result)
      (callee : function.info.type = some (.function params result))
      (each : List.Forall₂ (Typed hierarchy) args types)
      (fit : List.Forall₂ (fun source target => hierarchy.isAssignable source target)
        types params) :
      Typed hierarchy (.call info function args) result
  | methodCall {info access : ExprInfo} {object : Expr} {method : Identifier} {args : List Expr}
      {name : String} {owner : ClassInfo} {signature : Signature} {types : List ValueType}
      (recorded : info.type = some signature.result)
      (callee : access.type = some signature.type)
      (inner : Typed hierarchy object (.classType name)) (found : hierarchy.find? name = some owner)
      (listed : owner.methods.find? method.name = some signature)
      (each : List.Forall₂ (Typed hierarchy) args types)
      (fit : List.Forall₂ (fun source target => hierarchy.isAssignable source target) types
        signature.params.tail) :
      Typed hierarchy (.methodCall info access object method args) signature.result

/-- The type that an expression is of is recorded at it. -/
theorem Expr.Typed.recorded {hierarchy : ClassHierarchy} {expr : Expr} {type : ValueType}
    (typed : expr.Typed hierarchy type) : expr.info.type = some type := by
  cases typed <;> assumption

theorem Expr.Typed.type_eq {hierarchy : ClassHierarchy} {expr : Expr} {type : ValueType}
    (typed : expr.Typed hierarchy type) : expr.type = type := by
  simp [Expr.type, typed.recorded]

/-! ## Statements -/

/-- The target of an assignment takes values of the type; characters of strings are no targets. -/
inductive Expr.TakesType (hierarchy : ClassHierarchy) : Expr → ValueType → Prop where
  | name {identifier : Identifier} {type : ValueType}
      (recorded : identifier.info.type = some type) : TakesType hierarchy (.name identifier) type
  | member {info : ExprInfo} {object : Expr} {field : Identifier} {type : ValueType}
      (typed : (Expr.member info object field).Typed hierarchy type) :
      TakesType hierarchy (.member info object field) type
  | element {info : ExprInfo} {container position : Expr} {type : ValueType}
      (recorded : info.type = some type) (inner : container.Typed hierarchy (.list type))
      (place : position.Typed hierarchy .int) :
      TakesType hierarchy (.index info container position) type

/-- A variable of the second type can run through a value of the first. -/
inductive ClassHierarchy.RunsThrough (hierarchy : ClassHierarchy) :
    ValueType → ValueType → Prop where
  | characters {type : ValueType} (fits : hierarchy.isAssignable .str type) :
      RunsThrough hierarchy .str type
  | elements {element type : ValueType} (fits : hierarchy.isAssignable element type) :
      RunsThrough hierarchy (.list element) type
  | nothing {type : ValueType} : RunsThrough hierarchy .empty type

/-- The statement obeys its rule, and so does each part of it, in a function with the result. -/
inductive Stmt.WellTyped (hierarchy : ClassHierarchy) (result : Option ValueType) :
    Stmt → Prop where
  | expr {info : NodeInfo} {value : Expr} {type : ValueType} (typed : value.Typed hierarchy type) :
      WellTyped hierarchy result (.expr info value)
  | assign {info : NodeInfo} {targets : List Expr} {value : Expr} {type : ValueType}
      (typed : value.Typed hierarchy type)
      (several : targets.length > 1 → type ≠ .list .none)
      (each : ∀ target ∈ targets, ∃ wanted, target.TakesType hierarchy wanted ∧
        hierarchy.isAssignable type wanted) :
      WellTyped hierarchy result (.assign info targets value)
  | ifElse {info : NodeInfo} {condition : Expr} {thenBody elseBody : List Stmt}
      (decides : condition.Typed hierarchy .bool)
      (first : ∀ stmt ∈ thenBody, WellTyped hierarchy result stmt)
      (second : ∀ stmt ∈ elseBody, WellTyped hierarchy result stmt) :
      WellTyped hierarchy result (.ifElse info condition thenBody elseBody)
  | whileLoop {info : NodeInfo} {condition : Expr} {body : List Stmt}
      (decides : condition.Typed hierarchy .bool)
      (inner : ∀ stmt ∈ body, WellTyped hierarchy result stmt) :
      WellTyped hierarchy result (.whileLoop info condition body)
  | forLoop {info : NodeInfo} {element : Identifier} {iterable : Expr} {body : List Stmt}
      {source type : ValueType} (typed : iterable.Typed hierarchy source)
      (recorded : element.info.type = some type) (runs : hierarchy.RunsThrough source type)
      (inner : ∀ stmt ∈ body, WellTyped hierarchy result stmt) :
      WellTyped hierarchy result (.forLoop info element iterable body)
  | ret {info : NodeInfo} {wanted : ValueType} (inside : result = some wanted)
      (fits : hierarchy.isAssignable .none wanted) : WellTyped hierarchy result (.ret info none)
  | retValue {info : NodeInfo} {value : Expr} {type wanted : ValueType}
      (inside : result = some wanted) (typed : value.Typed hierarchy type)
      (fits : hierarchy.isAssignable type wanted) :
      WellTyped hierarchy result (.ret info (some value))

/-! ## Declarations -/

/-- The type that a written type stands for. -/
def WrittenType.denoted : WrittenType → ValueType
  | named _ name => .classType name
  | list _ element => .list element.denoted

/-- The declaration obeys its rule, and so does each part of it. -/
inductive Decl.WellTyped (hierarchy : ClassHierarchy) : Decl → Prop where
  | varDef {info : NodeInfo} {var : TypedVar} {value : Expr} {type : ValueType}
      (typed : value.Typed hierarchy type)
      (fits : hierarchy.isAssignable type var.written.denoted) :
      WellTyped hierarchy (.varDef info var value)
  | funcDef {info : NodeInfo} {heading : FunctionHeading} {declarations : List Decl}
      {statements : List Stmt} {recovered : Bool}
      (inner : ∀ decl ∈ declarations, WellTyped hierarchy decl)
      (body : ∀ stmt ∈ statements, stmt.WellTyped hierarchy (some heading.returns.denoted))
      (ends : hierarchy.isAssignable .none heading.returns.denoted ∨ anyReturns statements) :
      WellTyped hierarchy (.funcDef info heading declarations statements recovered)
  | classDef {info : NodeInfo} {name superclass : Identifier} {declarations : List Decl}
      (inner : ∀ decl ∈ declarations, WellTyped hierarchy decl) :
      WellTyped hierarchy (.classDef info name superclass declarations)
  | globalDecl {info : NodeInfo} {name : Identifier} :
      WellTyped hierarchy (.globalDecl info name)
  | nonlocalDecl {info : NodeInfo} {name : Identifier} :
      WellTyped hierarchy (.nonlocalDecl info name)

/-- All parts of the program obey their rules; its own statements stand in no function. -/
structure Program.WellTyped (hierarchy : ClassHierarchy) (program : Program) : Prop where
  /-- The declarations obey their rules. -/
  declarations : ∀ decl ∈ program.declarations, decl.WellTyped hierarchy
  /-- The statements obey their rules. -/
  statements : ∀ stmt ∈ program.statements, stmt.WellTyped hierarchy none

end ChocoLang
