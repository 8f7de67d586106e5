import ChocoLang.Checking.Expression

/-!
# Checking statements

Statements are checked in the order of the text.  An assigned variable must be declared in the
function or program at hand; assigning it ends what is known about it in the branches around.
-/

namespace ChocoLang

mutual

/-- Every path through the statement ends in a return. -/
def Stmt.alwaysReturns : Stmt → Bool
  | .ret _ _ => true
  | .ifElse _ _ thenBody elseBody => anyReturns thenBody && anyReturns elseBody
  | _ => false

/-- Every path through the statements ends in a return: one of them always does. -/
def anyReturns : List Stmt → Bool
  | [] => false
  | stmt :: rest => stmt.alwaysReturns || anyReturns rest

end

/-- The type of the values that a loop runs through: none if it is not known. -/
inductive Iteration where
  /-- The loop runs through values of a type. -/
  | values (type : ValueType)
  /-- The type of the values is not known. -/
  | unknown
  /-- There is nothing to run through. -/
  | impossible
deriving DecidableEq, Repr

namespace Iteration

/-- What a loop over something of a type runs through. -/
def ofType (type : ValueType) : Iteration :=
  if type = .str then values .str
  else if type = .empty then unknown
  else
    match type with
    | .list element => values element
    | .unknown => unknown
    | _ => impossible

/-- The type of the values a loop runs through, if it is known. -/
def type? : Iteration → Option ValueType
  | values type => some type
  | _ => none

end Iteration

namespace Check

/-- A value of the first type fits a place of the second. -/
def fits (source target : ValueType) : Check Bool := view (·.hierarchy.isAssignable source target)

/-- Reports a node at which a value does not fit its place. -/
def demandFit (expected actual : ValueType) (info : NodeInfo) : Check NodeInfo := do
  if ← fits actual expected then return info else report (.mismatch expected actual) info

/-! ## Targets -/

/-- Checks a name that is assigned; the type it takes is none if it cannot be assigned. -/
def assignName (name : Identifier) : Check (Identifier × Option ValueType) := do
  match (← view (·.scope.lookupLocal name.name)).filter (·.kind.isAssignable) with
  | none =>
    let info ← settle (.wrong (.notAssignable name.name)) name.info
    return ({ name with info }, none)
  | some binding =>
    modifyScope (·.forget name.name)
    let info ← settle { type := binding.type } name.info
    return ({ name with info }, some binding.type)

/-- The verdict on an element that is assigned: a character of a string cannot be. -/
def assignedElementVerdict (container : ValueType) : Verdict :=
  if container = .str then { type := .str, error := some .characterAssigned }
  else elementVerdict container

/-- Checks an element that is assigned; the type it takes is none if it is in error. -/
def assignElement (info : ExprInfo) (container position : Expr) :
    Check (Expr × Option ValueType) := do
  let container ← infer container
  let position ← demandPosition (← infer position)
  let info ← settle (assignedElementVerdict container.type) info
  let target := Expr.index info container position
  if container.type = .str || info.error.isSome || target.type.isUnknown then return (target, none)
  else return (target, some target.type)

/-- Checks something that is assigned; the type it takes is none if it is in error. -/
def assignTarget (target : Expr) : Check (Expr × Option ValueType) := do
  match target with
  | .name name =>
    let (name, type) ← assignName name
    return (.name name, type)
  | .index info container position => assignElement info container position
  | target =>
    let target ← infer target
    return (target, if target.info.error.isSome then none else some target.type)

/-- Checks the targets of an assignment of a value; misfits are reported at the assignment. -/
def assignAll (value : ValueType) (info : NodeInfo) : List Expr → Check (List Expr × NodeInfo)
  | [] => return ([], info)
  | target :: rest => do
    let (target, type) ← assignTarget target
    let info ←
      match type with
      | none => pure info
      | some type => demandFit type value info
    let (rest, info) ← assignAll value info rest
    return (target :: rest, info)

/-- Checks an assignment. -/
def checkAssignment (info : NodeInfo) (targets : List Expr) (value : Expr) : Check Stmt := do
  let value ← infer value
  let info ←
    if targets.length > 1 && value.type = .list .none then report .listOfNoneToMany info
    else pure info
  let (targets, info) ← assignAll value.type info targets
  return .assign info targets value

/-! ## Loops and returns -/

/-- Checks what a loop runs through, and the variable that takes the values. -/
def checkLoopHead (element : Identifier) (iterable : Expr) : Check (Identifier × Expr) := do
  let iterable ← infer iterable
  let iteration := Iteration.ofType iterable.type
  let iterable ←
    if iteration = .impossible then do
      pure (iterable.withInfo (← reportExpr (.notIterable iterable.type) iterable.info))
    else pure iterable
  let (element, type) ← assignName element
  match type, iteration.type? with
  | some expected, some actual =>
    let info ← demandFit expected actual element.info.toNodeInfo
    return ({ element with info := { element.info with toNodeInfo := info } }, iterable)
  | _, _ => return (element, iterable)

/-- Checks an expression that may be left out. -/
def inferOptional (value : Option Expr) : Check (Option Expr) := do
  match value with
  | none => return none
  | some value => return some (← infer value)

/-- Checks the end of a function with a result of the wanted type. -/
def checkResult (expected : ValueType) (info : NodeInfo) (value : Option Expr) : Check Stmt := do
  match ← inferOptional value with
  | none =>
    let info ←
      if ← fits .none expected then pure info else report (.missingResult expected) info
    return .ret info none
  | some value => return .ret (← demandFit expected value.type info) (some value)

/-- Checks the end of a function, which must stand in one. -/
def checkReturn (info : NodeInfo) (value : Option Expr) : Check Stmt := do
  match (← get).results with
  | [] =>
    let value ← inferOptional value
    return .ret (← report .returnAtTopLevel info) value
  | expected :: _ => checkResult expected info value

/-! ## Statements -/

mutual

/-- Checks a statement. -/
def checkStmt : Stmt → Check Stmt
  | .expr info value => do
    let value ← infer value
    return .expr info value
  | .assign info targets value => checkAssignment info targets value
  | .ifElse info condition thenBody elseBody => do
    let condition ← inferCondition condition
    let thenBody ← assuming condition (checkStmts thenBody)
    let elseBody ← checkStmts elseBody
    return .ifElse info condition thenBody elseBody
  | .whileLoop info condition body => do
    let condition ← inferCondition condition
    let body ← checkStmts body
    return .whileLoop info condition body
  | .forLoop info element iterable body => do
    let (element, iterable) ← checkLoopHead element iterable
    let body ← checkStmts body
    return .forLoop info element iterable body
  | .ret info value => checkReturn info value

/-- Checks statements one after the other. -/
def checkStmts : List Stmt → Check (List Stmt)
  | [] => return []
  | stmt :: rest => do
    let stmt ← checkStmt stmt
    let rest ← checkStmts rest
    return stmt :: rest

end

end Check
end ChocoLang
