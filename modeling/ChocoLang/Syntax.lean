import ChocoLang.Diagnostic
import ChocoLang.Typing.ValueType

/-!
# Syntax trees

The tree of a program.  Every node carries the span it was read from and, once the program has
been checked, the message of the first error found at it; an expression also carries its type.
-/

namespace ChocoLang

/-- What is recorded at a node. -/
structure NodeInfo where
  /-- The text the node was read from. -/
  span : Span
  /-- The message of the error found at the node. -/
  error : Option String := none
deriving DecidableEq, Repr

/-- What is recorded at an expression. -/
structure ExprInfo extends NodeInfo where
  /-- The type of the expression, once it has been checked. -/
  type : Option ValueType := none
deriving DecidableEq, Repr

/-- What is recorded at a node that has only been read. -/
def NodeInfo.ofSpan (span : Span) : NodeInfo := { span }

/-- What is recorded at an expression that has only been read. -/
def ExprInfo.ofSpan (span : Span) : ExprInfo := { span }

/-- The sorts of nodes. -/
inductive NodeKind where
  | program
  | classType
  | listType
  | typedVar
  | varDef
  | funcDef
  | classDef
  | globalDecl
  | nonlocalDecl
  | exprStmt
  | assignStmt
  | ifStmt
  | whileStmt
  | forStmt
  | returnStmt
  | identifier
  | integerLiteral
  | booleanLiteral
  | stringLiteral
  | noneLiteral
  | listExpr
  | binaryExpr
  | unaryExpr
  | ifExpr
  | memberExpr
  | indexExpr
  | callExpr
  | methodCallExpr
deriving DecidableEq, Repr

namespace NodeKind

/-- The tag of a node in records. -/
def tag : NodeKind → String
  | program => "Program"
  | classType => "ClassType"
  | listType => "ListType"
  | typedVar => "TypedVar"
  | varDef => "VarDef"
  | funcDef => "FuncDef"
  | classDef => "ClassDef"
  | globalDecl => "GlobalDecl"
  | nonlocalDecl => "NonLocalDecl"
  | exprStmt => "ExprStmt"
  | assignStmt => "AssignStmt"
  | ifStmt => "IfStmt"
  | whileStmt => "WhileStmt"
  | forStmt => "ForStmt"
  | returnStmt => "ReturnStmt"
  | identifier => "Identifier"
  | integerLiteral => "IntegerLiteral"
  | booleanLiteral => "BooleanLiteral"
  | stringLiteral => "StringLiteral"
  | noneLiteral => "NoneLiteral"
  | listExpr => "ListExpr"
  | binaryExpr => "BinaryExpr"
  | unaryExpr => "UnaryExpr"
  | ifExpr => "IfExpr"
  | memberExpr => "MemberExpr"
  | indexExpr => "IndexExpr"
  | callExpr => "CallExpr"
  | methodCallExpr => "MethodCallExpr"

/-- The node is an expression. -/
def isExpression : NodeKind → Bool
  | identifier | integerLiteral | booleanLiteral | stringLiteral | noneLiteral | listExpr
  | binaryExpr | unaryExpr | ifExpr | memberExpr | indexExpr | callExpr | methodCallExpr => true
  | _ => false

end NodeKind

/-! ## Operators -/

/-- The operators with two operands. -/
inductive BinaryOperator where
  | add
  | sub
  | mul
  | floorDiv
  | mod
  | eq
  | ne
  | lt
  | gt
  | le
  | ge
  | is
  | and
  | or
deriving DecidableEq, Repr

namespace BinaryOperator

/-- All operators: arithmetic, comparisons, logic. -/
def all : List BinaryOperator :=
  [.add, .sub, .mul, .floorDiv, .mod, .eq, .ne, .lt, .gt, .le, .ge, .is, .and, .or]

/-- The operator as it stands in a program. -/
def spelling : BinaryOperator → String
  | .add => "+"
  | .sub => "-"
  | .mul => "*"
  | .floorDiv => "//"
  | .mod => "%"
  | .eq => "=="
  | .ne => "!="
  | .lt => "<"
  | .gt => ">"
  | .le => "<="
  | .ge => ">="
  | .is => "is"
  | .and => "and"
  | .or => "or"

/-- The operator of a spelling. -/
def ofSpelling? (text : String) : Option BinaryOperator :=
  all.find? fun operator => operator.spelling == text

/-- The operator computes a value of arithmetic. -/
def isArithmetic : BinaryOperator → Bool
  | .add | .sub | .mul | .floorDiv | .mod => true
  | _ => false

/-- The operator compares its operands. -/
def isComparison : BinaryOperator → Bool
  | .eq | .ne | .lt | .gt | .le | .ge | .is => true
  | _ => false

end BinaryOperator

/-- The operators with one operand. -/
inductive UnaryOperator where
  | neg
  | not
deriving DecidableEq, Repr

/-- The operator as it stands in a program. -/
def UnaryOperator.spelling : UnaryOperator → String
  | .neg => "-"
  | .not => "not"

/-! ## Written types, expressions, statements, declarations -/

/-- A written type. -/
inductive WrittenType where
  /-- The name of a class. -/
  | named (info : NodeInfo) (name : String)
  /-- The lists of elements of a type. -/
  | list (info : NodeInfo) (element : WrittenType)
deriving Repr

/-- A name in a program. -/
structure Identifier where
  /-- What is recorded at the name. -/
  info : ExprInfo
  /-- The name itself. -/
  name : String
deriving DecidableEq, Repr

/-- An expression. -/
inductive Expr where
  /-- A variable. -/
  | name (identifier : Identifier)
  /-- An integer. -/
  | integer (info : ExprInfo) (value : Int)
  /-- A truth value. -/
  | boolean (info : ExprInfo) (value : Bool)
  /-- A string. -/
  | string (info : ExprInfo) (value : String)
  /-- The absent value. -/
  | none (info : ExprInfo)
  /-- A list of the values of some expressions. -/
  | list (info : ExprInfo) (elements : List Expr)
  /-- An operator between two operands. -/
  | binary (info : ExprInfo) (left : Expr) (operator : BinaryOperator) (right : Expr)
  /-- An operator before its operand. -/
  | unary (info : ExprInfo) (operator : UnaryOperator) (operand : Expr)
  /-- A choice between two expressions. -/
  | conditional (info : ExprInfo) (condition thenExpr elseExpr : Expr)
  /-- An attribute of an object. -/
  | member (info : ExprInfo) (object : Expr) (field : Identifier)
  /-- An element of a list or a character of a string. -/
  | index (info : ExprInfo) (container position : Expr)
  /-- A call of a function or of a class. -/
  | call (info : ExprInfo) (function : Identifier) (args : List Expr)
  /-- A call of a method; `access` is recorded at the method as a member of the object. -/
  | methodCall (info : ExprInfo) (access : ExprInfo) (object : Expr) (method : Identifier)
    (args : List Expr)
deriving Repr

namespace Expr

/-- What is recorded at an expression. -/
def info : Expr → ExprInfo
  | name identifier => identifier.info
  | integer info _ | boolean info _ | string info _ | none info | list info _
  | binary info _ _ _ | unary info _ _ | conditional info _ _ _ | member info _ _
  | index info _ _ | call info _ _ | methodCall info _ _ _ _ => info

/-- The expression with something else recorded at it. -/
def withInfo (info : ExprInfo) : Expr → Expr
  | name identifier => name { identifier with info }
  | integer _ value => integer info value
  | boolean _ value => boolean info value
  | string _ value => string info value
  | none _ => none info
  | list _ elements => list info elements
  | binary _ left operator right => binary info left operator right
  | unary _ operator operand => unary info operator operand
  | conditional _ condition thenExpr elseExpr => conditional info condition thenExpr elseExpr
  | member _ object field => member info object field
  | index _ container position => index info container position
  | call _ function args => call info function args
  | methodCall _ access object method args => methodCall info access object method args

/-- The text an expression was read from. -/
def span (expr : Expr) : Span := expr.info.span

/-- The sort of node an expression is. -/
def kind : Expr → NodeKind
  | name _ => .identifier
  | integer _ _ => .integerLiteral
  | boolean _ _ => .booleanLiteral
  | string _ _ => .stringLiteral
  | none _ => .noneLiteral
  | list _ _ => .listExpr
  | binary _ _ _ _ => .binaryExpr
  | unary _ _ _ => .unaryExpr
  | conditional _ _ _ _ => .ifExpr
  | member _ _ _ => .memberExpr
  | index _ _ _ => .indexExpr
  | call _ _ _ => .callExpr
  | methodCall _ _ _ _ _ => .methodCallExpr

/-- The expression can stand to the left of an assignment. -/
def isTarget : Expr → Bool
  | name _ | member _ _ _ | index _ _ _ => true
  | _ => false

/-- The expression is a value written out. -/
def isLiteral : Expr → Bool
  | integer _ _ | boolean _ _ | string _ _ | none _ => true
  | _ => false

@[simp]
theorem info_withInfo (recorded : ExprInfo) (expr : Expr) :
    (expr.withInfo recorded).info = recorded := by
  cases expr <;> rfl

@[simp]
theorem kind_withInfo (recorded : ExprInfo) (expr : Expr) :
    (expr.withInfo recorded).kind = expr.kind := by
  cases expr <;> rfl

@[simp]
theorem withInfo_info (expr : Expr) : expr.withInfo expr.info = expr := by
  cases expr <;> rfl

end Expr

/-- A statement. -/
inductive Stmt where
  /-- An expression for its effect. -/
  | expr (info : NodeInfo) (value : Expr)
  /-- An assignment of one value to several targets. -/
  | assign (info : NodeInfo) (targets : List Expr) (value : Expr)
  /-- A choice; a chain of choices is a single choice in the second branch. -/
  | ifElse (info : NodeInfo) (condition : Expr) (thenBody elseBody : List Stmt)
  /-- A loop under a condition. -/
  | whileLoop (info : NodeInfo) (condition : Expr) (body : List Stmt)
  /-- A loop over the elements of a list or the characters of a string. -/
  | forLoop (info : NodeInfo) (element : Identifier) (iterable : Expr) (body : List Stmt)
  /-- The end of a function, with its result. -/
  | ret (info : NodeInfo) (value : Option Expr)
deriving Repr

/-- A name with its written type. -/
structure TypedVar where
  /-- What is recorded at the pair. -/
  info : NodeInfo
  /-- The name. -/
  identifier : Identifier
  /-- The written type. -/
  written : WrittenType
deriving Repr

/-- The part of a function that others see: its name, its parameters and its result. -/
structure FunctionHeading where
  /-- The name. -/
  name : Identifier
  /-- The parameters. -/
  params : List TypedVar
  /-- The written type of the result. -/
  returns : WrittenType
deriving Repr

/-- A declaration. -/
inductive Decl where
  /-- A variable with its first value. -/
  | varDef (info : NodeInfo) (var : TypedVar) (value : Expr)
  /-- A function or method; `recovered` tells that an error cost it a part of its body. -/
  | funcDef (info : NodeInfo) (heading : FunctionHeading) (declarations : List Decl)
    (statements : List Stmt) (recovered : Bool)
  /-- A class with its superclass and members. -/
  | classDef (info : NodeInfo) (name superclass : Identifier) (declarations : List Decl)
  /-- A variable of the program that the function assigns. -/
  | globalDecl (info : NodeInfo) (name : Identifier)
  /-- A variable of an enclosing function that the function assigns. -/
  | nonlocalDecl (info : NodeInfo) (name : Identifier)
deriving Repr

/-- What is recorded at a statement. -/
def Stmt.info : Stmt → NodeInfo
  | expr info _ | assign info _ _ | ifElse info _ _ _ | whileLoop info _ _ | forLoop info _ _ _
  | ret info _ => info

/-- What is recorded at a declaration. -/
def Decl.info : Decl → NodeInfo
  | varDef info _ _ | funcDef info _ _ _ _ | classDef info _ _ _ | globalDecl info _
  | nonlocalDecl info _ => info

/-- A program. -/
structure Program where
  /-- What is recorded at the program. -/
  info : NodeInfo
  /-- The declarations of the program. -/
  declarations : List Decl
  /-- The statements of the program. -/
  statements : List Stmt
  /-- What is wrong with the program, as far as it is known. -/
  errors : List Diagnostic
deriving Repr

mutual

/-- The functions in a declaration, outer before inner, with their names and recovery marks. -/
def Decl.functions : Decl → List (String × Bool)
  | .funcDef _ heading declarations _ recovered =>
    (heading.name.name, recovered) :: functionsIn declarations
  | .classDef _ _ _ declarations => functionsIn declarations
  | _ => []

/-- The functions in successive declarations. -/
def functionsIn : List Decl → List (String × Bool)
  | [] => []
  | decl :: rest => decl.functions ++ functionsIn rest

end

/-!
## Induction

A list of trees stands inside a tree, so what is proved of all trees by induction is proved together
with something about lists of them.  Each shape that a tree can have is a case with its name; the
two shapes of a list follow.
-/

/-- Induction over expressions and lists of them. -/
theorem Expr.mutual_induction {one : Expr → Prop} {all : List Expr → Prop}
    (name : ∀ identifier, one (.name identifier))
    (integer : ∀ info value, one (.integer info value))
    (boolean : ∀ info value, one (.boolean info value))
    (string : ∀ info value, one (.string info value))
    (none : ∀ info, one (.none info))
    (list : ∀ info elements, all elements → one (.list info elements))
    (binary : ∀ info left operator right, one left → one right →
      one (.binary info left operator right))
    (unary : ∀ info operator operand, one operand → one (.unary info operator operand))
    (conditional : ∀ info condition thenExpr elseExpr, one condition → one thenExpr →
      one elseExpr → one (.conditional info condition thenExpr elseExpr))
    (member : ∀ info object field, one object → one (.member info object field))
    (index : ∀ info container position, one container → one position →
      one (.index info container position))
    (call : ∀ info function args, all args → one (.call info function args))
    (methodCall : ∀ info access object method args, one object → all args →
      one (.methodCall info access object method args))
    (nil : all [])
    (cons : ∀ expr rest, one expr → all rest → all (expr :: rest)) :
    (∀ expr, one expr) ∧ ∀ exprs, all exprs :=
  ⟨@Expr.rec one all name integer boolean string none list binary unary conditional member index
      call methodCall nil cons,
    @Expr.rec_1 one all name integer boolean string none list binary unary conditional member index
      call methodCall nil cons⟩

/-- Induction over statements and lists of them. -/
theorem Stmt.mutual_induction {one : Stmt → Prop} {all : List Stmt → Prop}
    (expr : ∀ info value, one (.expr info value))
    (assign : ∀ info targets value, one (.assign info targets value))
    (ifElse : ∀ info condition thenBody elseBody, all thenBody → all elseBody →
      one (.ifElse info condition thenBody elseBody))
    (whileLoop : ∀ info condition body, all body → one (.whileLoop info condition body))
    (forLoop : ∀ info element iterable body, all body → one (.forLoop info element iterable body))
    (ret : ∀ info value, one (.ret info value))
    (nil : all [])
    (cons : ∀ stmt rest, one stmt → all rest → all (stmt :: rest)) :
    (∀ stmt, one stmt) ∧ ∀ stmts, all stmts :=
  ⟨@Stmt.rec one all expr assign ifElse whileLoop forLoop ret nil cons,
    @Stmt.rec_1 one all expr assign ifElse whileLoop forLoop ret nil cons⟩

/-- Induction over declarations and lists of them. -/
theorem Decl.mutual_induction {one : Decl → Prop} {all : List Decl → Prop}
    (varDef : ∀ info var value, one (.varDef info var value))
    (funcDef : ∀ info heading declarations statements recovered, all declarations →
      one (.funcDef info heading declarations statements recovered))
    (classDef : ∀ info name superclass declarations, all declarations →
      one (.classDef info name superclass declarations))
    (globalDecl : ∀ info name, one (.globalDecl info name))
    (nonlocalDecl : ∀ info name, one (.nonlocalDecl info name))
    (nil : all [])
    (cons : ∀ decl rest, one decl → all rest → all (decl :: rest)) :
    (∀ decl, one decl) ∧ ∀ decls, all decls :=
  ⟨@Decl.rec one all varDef funcDef classDef globalDecl nonlocalDecl nil cons,
    @Decl.rec_1 one all varDef funcDef classDef globalDecl nonlocalDecl nil cons⟩

end ChocoLang
