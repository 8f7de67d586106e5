import ChocoLang.Syntax

/-!
# Records of trees and types

A tree is written out as nested JSON objects.  Each node has its tag and location, then the parts
it is made of, and at the end its type and error message if it has them.  The location is the line
and column of its start and of its stop.
-/

namespace ChocoLang

mutual

/-- The record of a type; the unknown type is written like a class. -/
def ValueType.toJson : ValueType → Json
  | .classType name =>
    .object [("kind", .string "ClassValueType"), ("className", .string name)]
  | .list element =>
    .object [("kind", .string "ListValueType"), ("elementType", element.toJson)]
  | .function params result =>
    .object
      [("kind", .string "FuncType"), ("parameters", .array (ValueType.allToJson params)),
        ("returnType", result.toJson)]
  | .unknown =>
    .object
      [("kind", .string "ClassValueType"), ("className", .string ValueType.unknown.display)]

/-- The records of several types. -/
def ValueType.allToJson : List ValueType → List Json
  | [] => []
  | type :: rest => type.toJson :: ValueType.allToJson rest

end

namespace Encoding

/-- The record of a node: tag, location, parts, and what was found out about it. -/
def record (kind : NodeKind) (info : NodeInfo) (type : Option ValueType)
    (parts : List (String × Json)) : Json :=
  .object
    (("kind", .string kind.tag) :: ("location", Diagnostic.location (some info.span))
      :: (parts ++ (type.map fun type => ("inferredType", type.toJson)).toList
        ++ (info.error.map fun message => ("errorMsg", .string message)).toList))

/-- The record of a node that is no expression. -/
def node (kind : NodeKind) (info : NodeInfo) (parts : List (String × Json)) : Json :=
  record kind info none parts

/-- The record of an expression. -/
def expr (kind : NodeKind) (info : ExprInfo) (parts : List (String × Json)) : Json :=
  record kind info.toNodeInfo info.type parts

end Encoding

/-- The record of a name. -/
def Identifier.toJson (identifier : Identifier) : Json :=
  Encoding.expr .identifier identifier.info [("name", .string identifier.name)]

/-- The record of a written type. -/
def WrittenType.toJson : WrittenType → Json
  | .named info name => Encoding.node .classType info [("className", .string name)]
  | .list info element => Encoding.node .listType info [("elementType", element.toJson)]

mutual

/-- The record of an expression. -/
def Expr.toJson : Expr → Json
  | .name identifier => identifier.toJson
  | .integer info value => Encoding.expr .integerLiteral info [("value", .integer value)]
  | .boolean info value => Encoding.expr .booleanLiteral info [("value", .bool value)]
  | .string info value => Encoding.expr .stringLiteral info [("value", .string value)]
  | .none info => Encoding.expr .noneLiteral info []
  | .list info elements =>
    Encoding.expr .listExpr info [("elements", .array (Expr.allToJson elements))]
  | .binary info left operator right =>
    Encoding.expr .binaryExpr info
      [("left", left.toJson), ("operator", .string operator.spelling), ("right", right.toJson)]
  | .unary info operator operand =>
    Encoding.expr .unaryExpr info
      [("operator", .string operator.spelling), ("operand", operand.toJson)]
  | .conditional info condition thenExpr elseExpr =>
    Encoding.expr .ifExpr info
      [("condition", condition.toJson), ("thenExpr", thenExpr.toJson),
        ("elseExpr", elseExpr.toJson)]
  | .member info object field =>
    Encoding.expr .memberExpr info [("object", object.toJson), ("member", field.toJson)]
  | .index info container position =>
    Encoding.expr .indexExpr info [("list", container.toJson), ("index", position.toJson)]
  | .call info function args =>
    Encoding.expr .callExpr info
      [("function", function.toJson), ("args", .array (Expr.allToJson args))]
  | .methodCall info access object method args =>
    Encoding.expr .methodCallExpr info
      [("method", Encoding.expr .memberExpr access
          [("object", object.toJson), ("member", method.toJson)]),
        ("args", .array (Expr.allToJson args))]

/-- The records of several expressions. -/
def Expr.allToJson : List Expr → List Json
  | [] => []
  | expr :: rest => expr.toJson :: Expr.allToJson rest

end

mutual

/-- The record of a statement. -/
def Stmt.toJson : Stmt → Json
  | .expr info value => Encoding.node .exprStmt info [("expr", value.toJson)]
  | .assign info targets value =>
    Encoding.node .assignStmt info
      [("targets", .array (Expr.allToJson targets)), ("value", value.toJson)]
  | .ifElse info condition thenBody elseBody =>
    Encoding.node .ifStmt info
      [("condition", condition.toJson), ("thenBody", .array (Stmt.allToJson thenBody)),
        ("elseBody", .array (Stmt.allToJson elseBody))]
  | .whileLoop info condition body =>
    Encoding.node .whileStmt info
      [("condition", condition.toJson), ("body", .array (Stmt.allToJson body))]
  | .forLoop info element iterable body =>
    Encoding.node .forStmt info
      [("identifier", element.toJson), ("iterable", iterable.toJson),
        ("body", .array (Stmt.allToJson body))]
  | .ret info value =>
    Encoding.node .returnStmt info [("value", (value.map Expr.toJson).getD .null)]

/-- The records of several statements. -/
def Stmt.allToJson : List Stmt → List Json
  | [] => []
  | stmt :: rest => stmt.toJson :: Stmt.allToJson rest

end

/-- The record of a name with its written type. -/
def TypedVar.toJson (var : TypedVar) : Json :=
  Encoding.node .typedVar var.info
    [("identifier", var.identifier.toJson), ("type", var.written.toJson)]

/-- The parts of the record of a function that others see. -/
def FunctionHeading.parts (heading : FunctionHeading) : List (String × Json) :=
  [("name", heading.name.toJson), ("params", .array (heading.params.map TypedVar.toJson)),
    ("returnType", heading.returns.toJson)]

mutual

/-- The record of a declaration. -/
def Decl.toJson : Decl → Json
  | .varDef info var value =>
    Encoding.node .varDef info [("var", var.toJson), ("value", value.toJson)]
  | .funcDef info heading declarations statements _ =>
    Encoding.node .funcDef info
      (heading.parts ++
        [("declarations", .array (Decl.allToJson declarations)),
          ("statements", .array (Stmt.allToJson statements))])
  | .classDef info name superclass declarations =>
    Encoding.node .classDef info
      [("name", name.toJson), ("superClass", superclass.toJson),
        ("declarations", .array (Decl.allToJson declarations))]
  | .globalDecl info name => Encoding.node .globalDecl info [("variable", name.toJson)]
  | .nonlocalDecl info name => Encoding.node .nonlocalDecl info [("variable", name.toJson)]

/-- The records of several declarations. -/
def Decl.allToJson : List Decl → List Json
  | [] => []
  | decl :: rest => decl.toJson :: Decl.allToJson rest

end

/-- The record of a program with its errors. -/
def Program.toJson (program : Program) : Json :=
  Encoding.node .program program.info
    [("declarations", .array (Decl.allToJson program.declarations)),
      ("statements", .array (Stmt.allToJson program.statements)),
      ("errors", Diagnostic.listToJson program.errors)]

end ChocoLang
