import ChocoLang.Parsing.Statement

/-!
# Reading declarations

Variables, functions and classes are declared at the top level, in function bodies and, but for
classes, in class bodies.  The declarations of a body come before its statements; a later one is
reported and left out.  A class below the top level is read for its problems, reported, and left
out.
-/

namespace ChocoLang
namespace Parse

/-- Reads the literal that a variable is defined with. -/
def initializer : Parse Expr := do
  let token ← look Cursor.current
  match if token.kind.isLiteral then atom? token else none with
  | some value =>
    modify Cursor.advance
    return value
  | none => fail (.noLiteral token)

/-- Reads the definition of a variable. -/
def variableDefinition (room : Nat) : Parse Decl := do
  let start ← look (·.current.span)
  let var ← typedVar room
  expectSymbol .assign .assignInDefinition
  let value ← initializer
  let span ← look (Cursor.spanFrom start)
  lineEnd
  return .varDef (.ofSpan span) var value

/-- Reads the declaration that a function assigns a variable from outside. -/
def outerVariable : Parse Decl := do
  let start ← advance
  let name ← identifier .identifier
  let info := NodeInfo.ofSpan (← look (Cursor.spanFrom start.span))
  lineEnd
  if start.kind == .keyword .kwGlobal then return .globalDecl info name
  else return .nonlocalDecl info name

/-! ## Classes -/

/-- Reads a class up to its body: its first word, its name and its superclass. -/
def classHeader : Parse (Span × Identifier × Identifier) := do
  let start ← advance
  let name ← identifier .className
  expectSymbol .leftParen .openSuperclass
  let superclass ← identifier .superclassName
  expectSymbol .rightParen .closeSuperclass
  expectSymbol .colon .colonAfterClass
  openBody .classBody
  return (start.span, name, superclass)

/-- Reads a member of a class; the empty line yields none. -/
def classMember (declaration : Parse (Option Decl)) : Parse (Option Decl) := do
  if ← accept (.keyword .kwPass) then
    lineEnd
    return none
  else if ← look Cursor.atDeclaration then declaration
  else fail .strayInClass

/-- Reads one member of a class and puts it behind the others; one in error is left out. -/
def classStep (declaration : Parse (Option Decl)) (members : List Decl) :
    Recovering (List Decl) :=
  recovering members do
    let read ← classMember declaration
    return members ++ read.toList

/-- Reports a class below the top level. -/
def rejectNested (decl : Decl) : Parse (Option Decl) := do
  record .nestedClass decl.info.span
  return none

/--
Reads a class, whose members are variables, the functions that `function` reads, and classes,
which are left out; at most `bound` classes lie one within the other.
-/
def classDefinition (room : Nat) (function : Parse Decl) : (bound : Nat) → Parse Decl
  | 0 => fail .strayInClass
  | bound + 1 => do
    let (start, name, superclass) ← classHeader
    let declaration : Parse (Option Decl) := do
      match ← look Cursor.kind with
      | .keyword .kwDef => return some (← function)
      | .keyword .kwClass => rejectNested (← classDefinition room function bound)
      | _ => return some (← variableDefinition room)
    let members ← ofRecovering (body (classStep declaration) [])
    let _ ← accept .dedent
    return .classDef (.ofSpan (← look (Cursor.spanFrom start))) name superclass members

/-- Reads a class; the tokens ahead bound how many lie one within the other. -/
def classDeclaration (room : Nat) (function : Parse Decl) : Parse Decl := do
  classDefinition room function (← look (·.ahead.length + 1))

/-- Reads a declaration below the top level; a class is reported and yields none. -/
def innerDeclaration (room : Nat) (function : Parse Decl) : Parse (Option Decl) := do
  match ← look Cursor.kind with
  | .keyword .kwDef => return some (← function)
  | .keyword .kwClass => rejectNested (← classDeclaration room function)
  | _ => return some (← variableDefinition room)

/-! ## Functions -/

/-- The name by which the absence of a result is annotated. -/
def noResult : String := "<None>"

/-- Reads the type of the result, which stands behind an arrow or is left out. -/
def resultType (room : Nat) (paren : Span) : Parse WrittenType := do
  if ← accept (.symbol .arrow) then writtenType room
  else return .named (.ofSpan paren) noResult

/-- Reads a function from its name up to its body. -/
def functionHeading (room : Nat) : Parse FunctionHeading := do
  let name ← identifier .functionName
  expectSymbol .leftParen .openParameters
  let params ← commaList .rightParen (typedVar room)
  let paren ← expect (.symbol .rightParen) .closeParameters
  let returns ← resultType room paren.span
  expectSymbol .colon .colonAfterSignature
  openBody .functionBody
  return { name, params, returns }

/-- What has been read of the body of a function. -/
structure FunctionBody where
  /-- The declarations. -/
  declarations : List Decl := []
  /-- The statements. -/
  statements : List Stmt := []
  /-- A statement was begun. -/
  hasStatement : Bool := false

/-- Puts a declaration into a body, unless a statement was begun before it. -/
def FunctionBody.declare (body : FunctionBody) (decl : Decl) : Parse FunctionBody := do
  if body.hasStatement then
    record .lateDeclaration decl.info.span
    return body
  else return { body with declarations := body.declarations ++ [decl] }

/-- A declaration of a function body begins at the cursor. -/
def atFunctionDeclaration (cursor : Cursor) : Bool :=
  cursor.kind == .keyword .kwGlobal || cursor.kind == .keyword .kwNonlocal || cursor.atDeclaration

/-- Reads a declaration of a function body; a class is reported and yields none. -/
def functionDeclaration (inner : Parse (Option Decl)) : Parse (Option Decl) := do
  match ← look Cursor.kind with
  | .keyword .kwGlobal | .keyword .kwNonlocal => return some (← outerVariable)
  | _ => inner

/-- Reads one declaration or statement of a function body; one in error is left out. -/
def functionStep (inner : Parse (Option Decl)) (reader : Parse (Option Stmt))
    (body : FunctionBody) : Recovering FunctionBody := do
  if atFunctionDeclaration (← get) then
    recovering body do
      match ← functionDeclaration inner with
      | some decl => body.declare decl
      | none => return body
  else
    let body := { body with hasStatement := true }
    recovering body do
      let read ← reader
      return { body with statements := body.statements ++ read.toList }

/-- Reads a function, with room for so many levels of nesting. -/
def functionDefinition : (room : Nat) → Parse Decl
  | 0 => fail .nestedTooDeeply
  | room + 1 => do
    let start ← advance
    let heading ← functionHeading room
    let before ← look (·.problems.length)
    let inner := innerDeclaration room (functionDefinition room)
    let reader := statement (expression room) (block room)
    let read ← ofRecovering (body (functionStep inner reader) {})
    let _ ← accept .dedent
    let recovered ← look fun cursor => decide (before < cursor.problems.length)
    unless read.hasStatement || recovered do
      record (.emptyFunction heading.name.name) heading.name.info.span
    let span ← look (Cursor.spanFrom start.span)
    return .funcDef (.ofSpan span) heading read.declarations read.statements recovered

end Parse
end ChocoLang
