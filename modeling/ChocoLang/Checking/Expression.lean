import ChocoLang.Checking.State

/-!
# Types of expressions

The rules come first, each a function from the types of the parts to a verdict on the whole; they
look at the scope and the classes and change nothing.  Checking an expression then checks its parts
in the order of the text, records their verdicts, and passes their types to the rule.
-/

namespace ChocoLang

/-! ## Rules -/

/-- The problem that a name is not bound, with the names that are like it. -/
def Scope.undefined (scope : Scope) (name : String) : CheckError :=
  .undefinedName name (Suggestion.suggest name scope.visibleNames)

/-- A name that is read must be bound to a variable. -/
def Scope.readVerdict (scope : Scope) (name : String) : Verdict :=
  match scope.lookup name with
  | none => .wrong (scope.undefined name)
  | some binding =>
    if binding.kind.isVariable then { type := binding.type } else .wrong (.notVariable name)

/-- The type of a list of elements of some types: the least type that holds them all. -/
def ClassHierarchy.displayType (hierarchy : ClassHierarchy) : List ValueType → ValueType
  | [] => .empty
  | first :: rest => .list (rest.foldl hierarchy.join first)

/-- The type of the operand that an operator takes, and of its result. -/
def UnaryOperator.operandType : UnaryOperator → ValueType
  | .neg => .int
  | .not => .bool

/-- An operator before an operand takes one type and returns the same. -/
def UnaryOperator.verdict (operator : UnaryOperator) (operand : ValueType) : Verdict :=
  let type := operator.operandType
  if operand.isUnknown || operand = type then { type }
  else { type, error := some (.unaryOperand operator.spelling operand) }

/-- The sum of integers, of strings or of lists. -/
def ClassHierarchy.sumType? (hierarchy : ClassHierarchy) (left right : ValueType) :
    Option ValueType :=
  if left = .int ∧ right = .int then some .int
  else if left = .str ∧ right = .str then some .str
  else if left = .empty ∧ (right.isList ∨ right = .empty) then some right
  else if right = .empty ∧ left.isList then some left
  else
    match left, right with
    | .list a, .list b => some (.list (hierarchy.join a b))
    | _, _ => none

/-- The type that an operator returns for operands of given types, if it takes them. -/
def ClassHierarchy.operationType? (hierarchy : ClassHierarchy) (operator : BinaryOperator)
    (left right : ValueType) : Option ValueType :=
  match operator with
  | .add => hierarchy.sumType? left right
  | .sub | .mul | .floorDiv | .mod => if left = .int ∧ right = .int then some .int else none
  | .eq | .ne => if left = right ∧ left.isSpecial then some .bool else none
  | .is =>
    if left.isSpecial ∨ right.isSpecial ∨ left.isUnknown ∨ right.isUnknown then none
    else some .bool
  | .lt | .gt | .le | .ge => if left = .int ∧ right = .int then some .bool else none
  | .and | .or => if left = .bool ∧ right = .bool then some .bool else none

/-- The type taken for an operation on operands that the operator does not take. -/
def BinaryOperator.fallback (operator : BinaryOperator) (left right : ValueType) : ValueType :=
  match operator with
  | .add =>
    if left = .int ∨ right = .int then .int
    else if left = .str ∨ right = .str then .str
    else .unknown
  | .sub | .mul | .floorDiv | .mod => .int
  | _ => .bool

/-- An operator must take its operands, unless one of them is in error itself. -/
def ClassHierarchy.operationVerdict (hierarchy : ClassHierarchy) (operator : BinaryOperator)
    (left right : ValueType) : Verdict :=
  match hierarchy.operationType? operator left right with
  | some type => { type }
  | none =>
    { type := operator.fallback left right
      error :=
        if left.isUnknown || right.isUnknown then none
        else some (.binaryOperands operator.spelling left right) }

/-- The class of the objects of a type. -/
def ClassHierarchy.classOf? (hierarchy : ClassHierarchy) : ValueType → Option ClassInfo
  | .classType name => hierarchy.find? name
  | _ => none

/-- An attribute that is read must be one of the class of the object. -/
def ClassHierarchy.attributeVerdict (hierarchy : ClassHierarchy) (object : ValueType)
    (name : String) : Verdict :=
  if object.isUnknown then { type := .unknown }
  else
    match hierarchy.classOf? object with
    | none => .wrong (.noMembers object)
    | some info =>
      match info.attributes.find? name with
      | some type => { type }
      | none => .wrong (.noAttribute info.name name)

/-- An element is taken from a list. -/
def elementVerdict (container : ValueType) : Verdict :=
  match container with
  | .list element => { type := element }
  | .unknown => { type := .unknown }
  | other => .wrong (.notIndexable other)

/-- An element is taken from a list, or a character from a string. -/
def indexVerdict (container : ValueType) : Verdict :=
  if container = .str then { type := .str } else elementVerdict container

/-- The first argument that does not fit its parameter, counted from `position` on. -/
def ClassHierarchy.argumentMismatch? (hierarchy : ClassHierarchy) (position : Nat) :
    (params args : List ValueType) → Option CheckError
  | param :: params, arg :: args =>
    if hierarchy.isAssignable arg param then
      hierarchy.argumentMismatch? (position + 1) params args
    else some (.argumentMismatch position arg param)
  | _, _ => none

/-- Arguments must be as many as the parameters, and each must fit its own. -/
def ClassHierarchy.argumentError? (hierarchy : ClassHierarchy) (params args : List ValueType) :
    Option CheckError :=
  if params.length = args.length then hierarchy.argumentMismatch? 1 params args
  else some (.argumentCount params.length args.length)

/-- The verdicts on a call: on the thing called, and on the call as a whole. -/
structure CallVerdict where
  /-- The verdict on the thing called. -/
  callee : Verdict
  /-- The verdict on the call. -/
  call : Verdict

/-- The call of something in error. -/
def CallVerdict.ofError (error : Option CheckError) : CallVerdict :=
  { callee := { type := .unknown, error }, call := { type := .unknown } }

/-- The call of something of a type, which takes arguments for the parameters. -/
def ClassHierarchy.callVerdict (hierarchy : ClassHierarchy) (type : ValueType)
    (params : List ValueType) (result : ValueType) (args : List ValueType) : CallVerdict :=
  { callee := { type }
    call := { type := result, error := hierarchy.argumentError? params args } }

/-- A class is called like its constructor, which takes the new object besides the arguments. -/
def ClassHierarchy.constructionVerdict (hierarchy : ClassHierarchy) (name : String)
    (args : List ValueType) : CallVerdict :=
  match hierarchy.find? name with
  | none => .ofError none
  | some info =>
    match info.methods.find? "__init__" with
    | none => .ofError none
    | some constructor =>
      let params := constructor.params.tail
      hierarchy.callVerdict (.function params info.type) params info.type args

/-- A name that is called must be bound to a function or a class. -/
def ClassHierarchy.nameCallVerdict (hierarchy : ClassHierarchy) (scope : Scope) (name : String)
    (args : List ValueType) : CallVerdict :=
  match scope.lookup name with
  | none => .ofError (some (scope.undefined name))
  | some binding =>
    match binding.kind, binding.type with
    | .classDef, _ => hierarchy.constructionVerdict name args
    | .function, .function params result =>
      hierarchy.callVerdict binding.type params result args
    | _, type => { callee := { type }, call := .wrong (.notCallable name) }

/-- A method that is called must be one of the class of the object. -/
def ClassHierarchy.methodCallVerdict (hierarchy : ClassHierarchy) (object : ValueType)
    (name : String) (args : List ValueType) : CallVerdict :=
  if object.isUnknown then .ofError none
  else
    match hierarchy.classOf? object with
    | none => .ofError (some (.noMembers object))
    | some info =>
      match info.methods.find? name with
      | none => .ofError (some (.noMethod info.name name))
      | some method =>
        hierarchy.callVerdict method.type method.params.tail method.result args

/-! ## Absent variables -/

/-- The expression compared with the absent value, if one side is that value. -/
def comparedWithNone? : Expr → Expr → Option Expr
  | left, .none _ => some left
  | .none _, right => some right
  | _, _ => none

/-- The name that a condition says to be absent. -/
def saidAbsent? : Expr → Option String
  | .binary _ left .is right =>
    match comparedWithNone? left right with
    | some (.name identifier) => some identifier.name
    | _ => none
  | _ => none

/-- The variable that is known to be absent when a condition holds. -/
def CheckState.absentVariable? (state : CheckState) (condition : Expr) : Option String := do
  let name ← saidAbsent? condition
  let binding ← state.scope.lookup name
  if binding.kind.isVariable && !binding.type.isUnknown
      && state.hierarchy.isAssignable .none binding.type then
    some name
  else none

namespace Check

/-- Checks what is done when a condition holds. -/
def assuming {α : Type} (condition : Expr) (inner : Check α) : Check α := do
  match (← get).absentVariable? condition with
  | none => inner
  | some name =>
    within .branch ("narrow " ++ name) do
      modifyScope (·.narrow name .none)
      inner

/-! ## Expressions -/

/-- Reports an expression whose type is known and is not the one wanted. -/
def demand (wanted : ValueType) (error : ValueType → CheckError) (expr : Expr) : Check Expr := do
  if expr.type.isUnknown || expr.type = wanted then return expr
  else return expr.withInfo (← reportExpr (error expr.type) expr.info)

/-- Reports a condition that is no truth value. -/
def demandCondition (expr : Expr) : Check Expr := demand .bool .conditionType expr

/-- Reports a position that is no integer. -/
def demandPosition (expr : Expr) : Check Expr := demand .int .positionType expr

mutual

/-- Checks an expression and records its type. -/
def infer : Expr → Check Expr
  | .name identifier => do
    let verdict ← view (·.scope.readVerdict identifier.name)
    settleExpr verdict (.name identifier)
  | .integer info value => settleExpr { type := .int } (.integer info value)
  | .boolean info value => settleExpr { type := .bool } (.boolean info value)
  | .string info value => settleExpr { type := .str } (.string info value)
  | .none info => settleExpr { type := .none } (.none info)
  | .list info elements => do
    let elements ← inferAll elements
    let type ← view (·.hierarchy.displayType (elements.map Expr.type))
    settleExpr { type } (.list info elements)
  | .binary info left operator right => do
    let left ← infer left
    let right ← infer right
    let verdict ← view (·.hierarchy.operationVerdict operator left.type right.type)
    settleExpr verdict (.binary info left operator right)
  | .unary info operator operand => do
    let operand ← infer operand
    settleExpr (operator.verdict operand.type) (.unary info operator operand)
  | .conditional info condition thenExpr elseExpr => do
    let condition ← infer condition
    let condition ← demandCondition condition
    let thenExpr ← assuming condition (infer thenExpr)
    let elseExpr ← infer elseExpr
    let type ← view (·.hierarchy.join thenExpr.type elseExpr.type)
    settleExpr { type } (.conditional info condition thenExpr elseExpr)
  | .member info object field => do
    let object ← infer object
    let verdict ← view (·.hierarchy.attributeVerdict object.type field.name)
    settleExpr verdict (.member info object field)
  | .index info container position => do
    let container ← infer container
    let position ← infer position
    let position ← demandPosition position
    settleExpr (indexVerdict container.type) (.index info container position)
  | .call info function args => do
    let args ← inferAll args
    let state ← get
    let verdict :=
      state.hierarchy.nameCallVerdict state.scope function.name (args.map Expr.type)
    let callee ← settle verdict.callee function.info
    settleExpr verdict.call (.call info { function with info := callee } args)
  | .methodCall info access object method args => do
    let object ← infer object
    let args ← inferAll args
    let verdict ←
      view (·.hierarchy.methodCallVerdict object.type method.name (args.map Expr.type))
    let access ← settle verdict.callee access
    settleExpr verdict.call (.methodCall info access object method args)

/-- Checks expressions one after the other. -/
def inferAll : List Expr → Check (List Expr)
  | [] => return []
  | expr :: rest => do
    let expr ← infer expr
    let rest ← inferAll rest
    return expr :: rest

end

/-- Checks a condition. -/
def inferCondition (condition : Expr) : Check Expr := do
  demandCondition (← infer condition)

end Check
end ChocoLang
