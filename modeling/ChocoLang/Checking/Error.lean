import ChocoLang.Diagnostic
import ChocoLang.Typing.ValueType

/-!
# Name and type errors

What can be wrong with the names and types of a program.
-/

namespace ChocoLang

/-- A problem found while checking a program. -/
inductive CheckError where
  /-- A name is not bound; similar names are. -/
  | undefinedName (name : String) (similar : List String)
  /-- A name is bound to something that is no variable. -/
  | notVariable (name : String)
  /-- A name is declared twice in a frame. -/
  | duplicate (name : String)
  /-- A name is that of a class. -/
  | shadowsClass (name : String)
  /-- There is no variable of the program with the name. -/
  | notGlobal (name : String)
  /-- There is no variable of an enclosing function with the name. -/
  | notNonlocal (name : String)
  /-- A name is assigned where it is not declared. -/
  | notAssignable (name : String)
  /-- A written type names no class. -/
  | unknownClass (name : String)
  /-- A superclass does not exist. -/
  | undefinedSuperclass (name : String)
  /-- A superclass is no class. -/
  | superclassNotClass (name : String)
  /-- A superclass cannot be extended. -/
  | specialSuperclass (name : String)
  /-- A member has the name of an inherited attribute, or an attribute that of a member. -/
  | redefinedAttribute (name : String)
  /-- A method does not take an object of its class first. -/
  | invalidReceiver (method className : String)
  /-- A value does not fit its place. -/
  | mismatch (expected actual : ValueType)
  /-- A function that must have a result returns none. -/
  | missingResult (expected : ValueType)
  /-- An argument does not fit its parameter; arguments are counted from one. -/
  | argumentMismatch (position : Nat) (actual expected : ValueType)
  /-- An operator is applied to an operand of the wrong type. -/
  | unaryOperand (operator : String) (operand : ValueType)
  /-- An operator is applied to operands of the wrong types. -/
  | binaryOperands (operator : String) (left right : ValueType)
  /-- A call has too many or too few arguments. -/
  | argumentCount (expected actual : Nat)
  /-- A name that is called is neither a function nor a class. -/
  | notCallable (name : String)
  /-- A type has no members. -/
  | noMembers (type : ValueType)
  /-- A class has no such attribute. -/
  | noAttribute (className name : String)
  /-- A class has no such method. -/
  | noMethod (className name : String)
  /-- A type has no elements. -/
  | notIndexable (type : ValueType)
  /-- A position is not an integer. -/
  | positionType (type : ValueType)
  /-- A type cannot be looped over. -/
  | notIterable (type : ValueType)
  /-- A condition is no truth value. -/
  | conditionType (type : ValueType)
  /-- A method does not fit the one it overrides. -/
  | incompatibleOverride (name : String)
  /-- A result is returned outside every function. -/
  | returnAtTopLevel
  /-- A function can end without its result. -/
  | missingReturn (name : String)
  /-- A list of absent values is assigned to several targets. -/
  | listOfNoneToMany
  /-- A character of a string is assigned. -/
  | characterAssigned
deriving DecidableEq, Repr

namespace CheckError

/-- The code of a name or type error. -/
def code : CheckError → ErrorCode
  | undefinedName _ _ | notVariable _ => .undefinedName
  | duplicate _ => .duplicateDeclaration
  | shadowsClass _ => .shadowedClass
  | notGlobal _ => .notGlobalVariable
  | notNonlocal _ => .notNonlocalVariable
  | notAssignable _ => .undeclaredAssignment
  | unknownClass _ => .unknownClass
  | undefinedSuperclass _ => .undefinedSuperclass
  | superclassNotClass _ => .superclassNotClass
  | specialSuperclass _ => .specialSuperclass
  | redefinedAttribute _ => .redefinedAttribute
  | invalidReceiver _ _ => .invalidReceiver
  | mismatch _ _ | missingResult _ | argumentMismatch _ _ _ => .typeMismatch
  | unaryOperand _ _ | binaryOperands _ _ _ => .incompatibleOperands
  | argumentCount _ _ => .wrongArgumentCount
  | notCallable _ => .notCallable
  | noMembers _ | noAttribute _ _ | noMethod _ _ => .memberNotFound
  | notIndexable _ => .notIndexable
  | positionType _ => .nonIntegerIndex
  | notIterable _ => .notIterable
  | conditionType _ => .invalidCondition
  | incompatibleOverride _ => .incompatibleOverride
  | returnAtTopLevel => .returnOutsideFunction
  | missingReturn _ => .missingReturn
  | listOfNoneToMany => .invalidMultipleAssignment
  | characterAssigned => .immutableString

/-- A text between the marks that set off program text in reports. -/
def quoteCode (text : String) : String := "`" ++ text ++ "`"

/-- A type between the marks that set off program text in reports. -/
def typeCode (type : ValueType) : String := quoteCode type.display

/-- The report of a name or type error. -/
def message : CheckError → String
  | undefinedName name _ => quoteCode name ++ " is not defined"
  | notVariable name => quoteCode name ++ " is not a variable in this scope"
  | duplicate name => "Duplicate declaration of " ++ quoteCode name ++ " in the same scope"
  | shadowsClass name => "Cannot shadow class name " ++ quoteCode name
  | notGlobal name => quoteCode name ++ " is not a global variable"
  | notNonlocal name => quoteCode name ++ " is not a nonlocal variable"
  | notAssignable name =>
    "Cannot assign to " ++ quoteCode name
      ++ " because it is not explicitly declared in this scope"
  | unknownClass name => "Invalid type annotation: there is no class named " ++ quoteCode name
  | undefinedSuperclass name => "Super-class " ++ quoteCode name ++ " is not defined"
  | superclassNotClass name => "Super-class " ++ quoteCode name ++ " is not a class"
  | specialSuperclass name => "Cannot extend special class " ++ quoteCode name
  | redefinedAttribute name => "Cannot redefine attribute " ++ quoteCode name
  | invalidReceiver method className =>
    "First parameter of method " ++ quoteCode method ++ " must be of the enclosing class "
      ++ quoteCode className
  | mismatch expected actual =>
    "Type mismatch: expected " ++ typeCode expected ++ " but got " ++ typeCode actual
  | missingResult expected =>
    "Expected return type " ++ typeCode expected ++ " but the function returns " ++ quoteCode "None"
  | argumentMismatch position actual expected =>
    "Argument " ++ toString position ++ " has type " ++ typeCode actual
      ++ " but the parameter expects " ++ typeCode expected
  | unaryOperand operator operand =>
    "Cannot apply " ++ quoteCode operator ++ " to type " ++ typeCode operand
  | binaryOperands operator left right =>
    "Cannot use " ++ quoteCode operator ++ " with " ++ typeCode left ++ " and " ++ typeCode right
  | argumentCount expected actual =>
    "Wrong number of arguments: expected " ++ toString expected ++ " but got " ++ toString actual
  | notCallable name => quoteCode name ++ " is not a function or class"
  | noMembers type => "Cannot access a member of type " ++ typeCode type
  | noAttribute className name =>
    "Class " ++ quoteCode className ++ " has no attribute named " ++ quoteCode name
  | noMethod className name =>
    "Class " ++ quoteCode className ++ " has no method named " ++ quoteCode name
  | notIndexable type => "Cannot index into type " ++ typeCode type
  | positionType type => "Index must be `int`, but this expression is " ++ typeCode type
  | notIterable type => "Cannot iterate over type " ++ typeCode type
  | conditionType type => "Condition must be `bool`, but this expression is " ++ typeCode type
  | incompatibleOverride name =>
    "Method " ++ quoteCode name ++ " is overridden with an incompatible type signature"
  | returnAtTopLevel => "Return statement cannot appear at the top level"
  | missingReturn name => "Not all paths in " ++ quoteCode name ++ " have a return statement"
  | listOfNoneToMany => "Right-hand side of a multiple assignment may not be `[<None>]`"
  | characterAssigned => "Cannot assign to an index of `str`: strings are immutable"

/-- The remedies suggested: the names that are like an unknown one. -/
def helps : CheckError → List String
  | undefinedName _ similar => similar.map fun name => "did you mean " ++ quoteCode name ++ "?"
  | _ => []

instance : Problem CheckError where
  code := code
  message := message
  helps := helps

end CheckError
end ChocoLang
