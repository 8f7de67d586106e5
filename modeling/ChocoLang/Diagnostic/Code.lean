/-!
# Error codes

Every problem that can be reported has a code.  The two digits after the initial letter say which
stage finds it: the scanner, the parser, name resolution or type checking.
-/

namespace ChocoLang

/-- The problems a program can have, one constructor a code. -/
inductive ErrorCode where
  | invalidCharacter
  | unterminatedString
  | invalidStringContent
  | invalidInteger
  | integerOutOfRange
  | inconsistentDedent
  | unexpectedToken
  | missingToken
  | invalidExpression
  | invalidTarget
  | misplacedDeclaration
  | emptyBody
  | unexpectedIndent
  | invalidInitializer
  | nestingTooDeep
  | undefinedName
  | duplicateDeclaration
  | shadowedClass
  | notGlobalVariable
  | notNonlocalVariable
  | undeclaredAssignment
  | unknownClass
  | undefinedSuperclass
  | superclassNotClass
  | specialSuperclass
  | redefinedAttribute
  | invalidReceiver
  | typeMismatch
  | incompatibleOperands
  | wrongArgumentCount
  | notCallable
  | memberNotFound
  | notIndexable
  | nonIntegerIndex
  | notIterable
  | invalidCondition
  | incompatibleOverride
  | returnOutsideFunction
  | missingReturn
  | invalidMultipleAssignment
  | immutableString
deriving DecidableEq, Repr

namespace ErrorCode

/-- All codes, in the order of their identifiers. -/
def all : List ErrorCode :=
  [invalidCharacter, unterminatedString, invalidStringContent, invalidInteger, integerOutOfRange,
    inconsistentDedent, unexpectedToken, missingToken, invalidExpression, invalidTarget,
    misplacedDeclaration, emptyBody, unexpectedIndent, invalidInitializer, nestingTooDeep,
    undefinedName, duplicateDeclaration, shadowedClass, notGlobalVariable, notNonlocalVariable,
    undeclaredAssignment, unknownClass, undefinedSuperclass, superclassNotClass,
    specialSuperclass, redefinedAttribute, invalidReceiver, typeMismatch, incompatibleOperands,
    wrongArgumentCount, notCallable, memberNotFound, notIndexable, nonIntegerIndex, notIterable,
    invalidCondition, incompatibleOverride, returnOutsideFunction, missingReturn,
    invalidMultipleAssignment, immutableString]

/-- The identifier a code is printed with. -/
def id : ErrorCode → String
  | invalidCharacter => "E0101"
  | unterminatedString => "E0102"
  | invalidStringContent => "E0103"
  | invalidInteger => "E0104"
  | integerOutOfRange => "E0105"
  | inconsistentDedent => "E0106"
  | unexpectedToken => "E0201"
  | missingToken => "E0202"
  | invalidExpression => "E0203"
  | invalidTarget => "E0204"
  | misplacedDeclaration => "E0205"
  | emptyBody => "E0206"
  | unexpectedIndent => "E0207"
  | invalidInitializer => "E0208"
  | nestingTooDeep => "E0209"
  | undefinedName => "E0301"
  | duplicateDeclaration => "E0302"
  | shadowedClass => "E0303"
  | notGlobalVariable => "E0304"
  | notNonlocalVariable => "E0305"
  | undeclaredAssignment => "E0306"
  | unknownClass => "E0307"
  | undefinedSuperclass => "E0308"
  | superclassNotClass => "E0309"
  | specialSuperclass => "E0310"
  | redefinedAttribute => "E0311"
  | invalidReceiver => "E0312"
  | typeMismatch => "E0401"
  | incompatibleOperands => "E0402"
  | wrongArgumentCount => "E0403"
  | notCallable => "E0404"
  | memberNotFound => "E0405"
  | notIndexable => "E0406"
  | nonIntegerIndex => "E0407"
  | notIterable => "E0408"
  | invalidCondition => "E0409"
  | incompatibleOverride => "E0410"
  | returnOutsideFunction => "E0411"
  | missingReturn => "E0412"
  | invalidMultipleAssignment => "E0413"
  | immutableString => "E0414"

/-- What the code stands for, in a few words. -/
def description : ErrorCode → String
  | invalidCharacter => "invalid character"
  | unterminatedString => "unterminated string"
  | invalidStringContent => "invalid string character or escape"
  | invalidInteger => "invalid integer literal"
  | integerOutOfRange => "integer literal out of range"
  | inconsistentDedent => "inconsistent dedent"
  | unexpectedToken => "unexpected token"
  | missingToken => "missing token"
  | invalidExpression => "invalid expression"
  | invalidTarget => "invalid assignment target"
  | misplacedDeclaration => "misplaced declaration"
  | emptyBody => "empty body"
  | unexpectedIndent => "unexpected indent"
  | invalidInitializer => "invalid literal in declaration"
  | nestingTooDeep => "nesting too deep"
  | undefinedName => "undefined name"
  | duplicateDeclaration => "duplicate declaration"
  | shadowedClass => "shadowed class name"
  | notGlobalVariable => "not a global variable"
  | notNonlocalVariable => "not a nonlocal variable"
  | undeclaredAssignment => "assignment to undeclared variable"
  | unknownClass => "unknown class in annotation"
  | undefinedSuperclass => "undefined super-class"
  | superclassNotClass => "super-class is not a class"
  | specialSuperclass => "cannot extend special class"
  | redefinedAttribute => "attribute redefined"
  | invalidReceiver => "invalid method receiver"
  | typeMismatch => "type mismatch"
  | incompatibleOperands => "incompatible operand types"
  | wrongArgumentCount => "wrong number of arguments"
  | notCallable => "not callable"
  | memberNotFound => "member not found"
  | notIndexable => "not indexable"
  | nonIntegerIndex => "non-integer index"
  | notIterable => "not iterable"
  | invalidCondition => "invalid condition"
  | incompatibleOverride => "incompatible override"
  | returnOutsideFunction => "return outside function"
  | missingReturn => "missing return"
  | invalidMultipleAssignment => "invalid multiple assignment"
  | immutableString => "immutable string"

/-- The code with a given identifier. -/
def ofId? (id : String) : Option ErrorCode := all.find? fun code => code.id == id

theorem mem_all (code : ErrorCode) : code ∈ all := by
  cases code <;> decide

end ErrorCode
end ChocoLang
