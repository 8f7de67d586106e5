import ChocoLang.Diagnostic
import ChocoLang.Token

/-!
# Syntax errors

What can be wrong with the tokens of a program.
-/

namespace ChocoLang

/-- What the grammar asks for at a place where only one kind of token fits. -/
inductive Expectation where
  | identifier
  | colonAfterVariable
  | closeListType
  | assignInDefinition
  | functionName
  | openParameters
  | closeParameters
  | colonAfterSignature
  | newlineAfterColon
  | functionBody
  | className
  | openSuperclass
  | superclassName
  | closeSuperclass
  | colonAfterClass
  | classBody
  | block
  | colonAfterCondition
  | colonAfterElse
  | loopVariable
  | inAfterVariable
  | colonAfterFor
  | elseInConditional
  | attributeName
  | closeIndex
  | closeArguments
  | closeParenthesized
  | closeList
deriving DecidableEq, Repr

/-- The words for what is asked for. -/
def Expectation.words : Expectation → String
  | identifier => "an identifier"
  | colonAfterVariable => "`:` after variable name"
  | closeListType => "`]` to close list type"
  | assignInDefinition => "`=` in variable definition"
  | functionName => "a function name"
  | openParameters => "`(` after function name"
  | closeParameters => "`)` after parameters"
  | colonAfterSignature => "`:` after function signature"
  | newlineAfterColon => "newline after `:`"
  | functionBody => "an indented function body"
  | className => "a class name"
  | openSuperclass => "`(` after class name"
  | superclassName => "a super-class name"
  | closeSuperclass => "`)` after super-class"
  | colonAfterClass => "`:` after class header"
  | classBody => "an indented class body"
  | block => "an indented block"
  | colonAfterCondition => "`:` after condition"
  | colonAfterElse => "`:` after `else`"
  | loopVariable => "a loop variable"
  | inAfterVariable => "`in` after loop variable"
  | colonAfterFor => "`:` after for clause"
  | elseInConditional => "`else` in conditional expression"
  | attributeName => "an attribute name after `.`"
  | closeIndex => "`]` after index"
  | closeArguments => "`)` after arguments"
  | closeParenthesized => "`)` to close parenthesized expression"
  | closeList => "`]` to close list"

/-- How many levels deep a program may be nested. -/
def nestingLimit : Nat := 100

/-- A problem found while reading tokens as a program. -/
inductive SyntaxError where
  /-- Another token stands where one of a certain kind is needed. -/
  | missing (wanted : Expectation) (found : Token)
  /-- No type begins with the token. -/
  | noType (found : Token)
  /-- A variable is defined with something other than a literal. -/
  | noLiteral (found : Token)
  /-- A statement goes on where its line should end. -/
  | noLineEnd (found : Token)
  /-- A reserved word stands where an expression begins. -/
  | keywordAsExpression (found : Token)
  /-- No expression begins with the token. -/
  | noExpression (found : Token)
  /-- A comparison is compared again. -/
  | chainedComparison
  /-- A negation is an operand of a tighter operator. -/
  | bareNot
  /-- Something other than a name is called. -/
  | callOfExpression
  /-- Something that cannot be assigned stands to the left of an assignment. -/
  | invalidTarget
  /-- A declaration follows a statement. -/
  | lateDeclaration
  /-- A class is defined inside a function or class. -/
  | nestedClass
  /-- Something other than a definition stands in the body of a class. -/
  | strayInClass
  /-- A declaration stands among the statements of a block. -/
  | strayDeclaration
  /-- The body of a function has no statement. -/
  | emptyFunction (name : String)
  /-- A line is indented without need. -/
  | unexpectedIndent
  /-- The program is nested more deeply than the limit. -/
  | nestedTooDeeply
deriving DecidableEq, Repr

/-- A token as syntax errors name it: layout in words, other tokens as they are written. -/
def Token.described (token : Token) : String :=
  if token.kind.isLayout then token.lexeme else "`" ++ token.lexeme ++ "`"

namespace SyntaxError

/-- The code of a syntax error. -/
def code : SyntaxError → ErrorCode
  | missing _ _ => .missingToken
  | noType _ | noLineEnd _ => .unexpectedToken
  | noLiteral _ => .invalidInitializer
  | keywordAsExpression _ | noExpression _ | chainedComparison | bareNot | callOfExpression =>
    .invalidExpression
  | invalidTarget => .invalidTarget
  | lateDeclaration | nestedClass | strayInClass | strayDeclaration => .misplacedDeclaration
  | emptyFunction _ => .emptyBody
  | unexpectedIndent => .unexpectedIndent
  | nestedTooDeeply => .nestingTooDeep

/-- The report of a syntax error. -/
def message : SyntaxError → String
  | missing wanted found => "Expected " ++ wanted.words ++ ", found " ++ found.described
  | noType found => "Expected a type annotation, found " ++ found.described
  | noLiteral found => "Expected a literal value, found " ++ found.described
  | noLineEnd found => "Expected end of line, found " ++ found.described
  | keywordAsExpression found => "Unexpected keyword `" ++ found.value.display ++ "`"
  | noExpression found => "Expected an expression, found " ++ found.described
  | chainedComparison => "Comparison operators cannot be chained"
  | bareNot => "`not` must be parenthesized here"
  | callOfExpression => "Only functions, classes and methods can be called"
  | invalidTarget =>
    "Invalid assignment target: only names, attributes and list elements can be assigned"
  | lateDeclaration => "Declarations must come before statements"
  | nestedClass => "Classes can only be defined at the top level"
  | strayInClass => "Only attribute and method definitions are allowed in a class body"
  | strayDeclaration => "Declarations are not allowed here"
  | emptyFunction name => "Function `" ++ name ++ "` must contain at least one statement"
  | unexpectedIndent => "Unexpected indent"
  | nestedTooDeeply =>
    "Code is nested too deeply (the limit is " ++ toString nestingLimit ++ " levels)"

instance : Problem SyntaxError where
  code := code
  message := message
  helps _ := []

end SyntaxError
end ChocoLang
