import ChocoLang.Checking.Error
import ChocoLang.Diagnostic.Suggestion
import ChocoLang.Syntax
import ChocoLang.Typing.Hierarchy
import ChocoLang.Typing.Scope

/-!
# The state of checking

Checking goes through a tree and returns it with types and errors recorded at its nodes.  On the
way it keeps the scope, the class hierarchy, the names that classes have, and the problems found.
A problem is recorded at the node it is found at; a node keeps the first one, and a further one at
the same node is not recorded at all.
-/

namespace ChocoLang

/-- What is known at a point of checking. -/
structure CheckState where
  /-- The frames around the point. -/
  scope : Scope := {}
  /-- The classes declared so far. -/
  hierarchy : ClassHierarchy := .initial
  /-- The names of classes, also of those declared later in the program. -/
  classNames : List String := "object" :: ValueType.specialClasses
  /-- The names that a written type may consist of. -/
  typeNames : List String := []
  /-- The results of the functions around the point, innermost first. -/
  results : List ValueType := []
  /-- The problems found so far, oldest first. -/
  problems : List (Located CheckError) := []

/-- A step of checking. -/
abbrev Check (α : Type) := StateM CheckState α

/-- A type, and what is wrong with the phrase that has it. -/
structure Verdict where
  /-- The type of the phrase. -/
  type : ValueType
  /-- What is wrong with the phrase. -/
  error : Option CheckError := none
deriving DecidableEq, Repr

/-- The verdict on a phrase in error whose type cannot be told. -/
def Verdict.wrong (error : CheckError) : Verdict := { type := .unknown, error := some error }

/-- The type recorded at an expression, unknown if there is none. -/
def Expr.type (expr : Expr) : ValueType := expr.info.type.getD .unknown

namespace Check

/-- Looks at the state. -/
def view {α : Type} (look : CheckState → α) : Check α := do
  return look (← get)

/-- Changes the scope. -/
def modifyScope (change : Scope → Scope) : Check Unit :=
  modify fun state => { state with scope := change state.scope }

/-- Records a problem at a node, unless the node has one already. -/
def report (error : CheckError) (info : NodeInfo) : Check NodeInfo := do
  if info.error.isSome then return info
  else
    modify fun state => { state with problems := state.problems ++ [⟨error, info.span⟩] }
    return { info with error := some error.message }

/-- Records a problem at an expression, unless it has one already. -/
def reportExpr (error : CheckError) (info : ExprInfo) : Check ExprInfo := do
  return { info with toNodeInfo := ← report error info.toNodeInfo }

/-- Records a problem at a name, unless it has one already. -/
def reportName (error : CheckError) (name : Identifier) : Check Identifier := do
  return { name with info := ← reportExpr error name.info }

/-- Records a verdict at an expression: its type, and its error if there is one. -/
def settle (verdict : Verdict) (info : ExprInfo) : Check ExprInfo := do
  let info ←
    match verdict.error with
    | some error => reportExpr error info
    | none => pure info
  return { info with type := some verdict.type }

/-- Records a verdict at an expression. -/
def settleExpr (verdict : Verdict) (expr : Expr) : Check Expr := do
  return expr.withInfo (← settle verdict expr.info)

/-- Checks something in a frame of its own, which is left afterwards. -/
def within {α : Type} (kind : FrameKind) (name : String) (inner : Check α) : Check α := do
  modifyScope (·.enter kind name)
  let value ← inner
  modifyScope Scope.leave
  return value

end Check
end ChocoLang
