import ChocoLang.Proofs.Syntax.WellFormed
import ChocoLang.Token.Segment

/-!
# Spelling trees

Every well-formed tree is spelled as a sequence of tokens by the grammar.  An operand whose
operator binds less tightly than its position requires stands in parentheses, and no other one
does; an empty body is spelled `pass`; a choice alone in a second branch is spelled `elif`.
-/

namespace ChocoLang

/-- What a token says, wherever it stands. -/
structure TokenContent where
  /-- What sort of token it is. -/
  kind : TokenKind
  /-- What it stands for. -/
  value : TokenValue
deriving DecidableEq, Repr

/-- What a token says. -/
def Token.content (token : Token) : TokenContent := ⟨token.kind, token.value⟩

@[simp]
theorem Token.kind_content (token : Token) : token.content.kind = token.kind := rfl

@[simp]
theorem Token.value_content (token : Token) : token.content.value = token.value := rfl

namespace TokenContent

/-- A keyword. -/
def word (keyword : Keyword) : TokenContent := ⟨.keyword keyword, .text keyword.spelling⟩

/-- A symbol. -/
def sign (symbol : Symbol) : TokenContent := ⟨.symbol symbol, .text symbol.spelling⟩

/-- A name. -/
def name (text : String) : TokenContent := ⟨.identifier, .text text⟩

/-- An integer literal. -/
def integer (value : Int) : TokenContent := ⟨.integer, .integer value⟩

/-- A string literal; one whose text is a name is of a kind of its own. -/
def string (text : String) : TokenContent :=
  ⟨if isName text.toList then .nameString else .string, .text text⟩

/-- The end of a line. -/
def newline : TokenContent := ⟨.newline, .text "\n"⟩

/-- The beginning of a block. -/
def indent : TokenContent := ⟨.indent, .absent⟩

/-- The end of a block. -/
def dedent : TokenContent := ⟨.dedent, .absent⟩

@[simp]
theorem kind_word (keyword : Keyword) : (word keyword).kind = .keyword keyword := rfl

@[simp]
theorem kind_sign (symbol : Symbol) : (sign symbol).kind = .symbol symbol := rfl

@[simp]
theorem kind_name (text : String) : (name text).kind = .identifier := rfl

@[simp]
theorem kind_newline : newline.kind = .newline := rfl

@[simp]
theorem kind_indent : indent.kind = .indent := rfl

@[simp]
theorem kind_dedent : dedent.kind = .dedent := rfl

end TokenContent

/-! ## Precedence -/

namespace Precedence

/-- The sign before a number. -/
def sign : Precedence := 8

end Precedence

namespace BinaryOperator

/-- The token that an operator is spelled as. -/
def content : BinaryOperator → TokenContent
  | .add => .sign .plus
  | .sub => .sign .minus
  | .mul => .sign .star
  | .floorDiv => .sign .doubleSlash
  | .mod => .sign .percent
  | .eq => .sign .equal
  | .ne => .sign .notEqual
  | .lt => .sign .less
  | .gt => .sign .greater
  | .le => .sign .lessEqual
  | .ge => .sign .greaterEqual
  | .is => .word .kwIs
  | .and => .word .kwAnd
  | .or => .word .kwOr

/-- How tightly a left operand must bind: comparisons are not compared again. -/
def leftLevel (operator : BinaryOperator) : Precedence :=
  if operator.isComparison then operator.precedence + 1 else operator.precedence

/-- How tightly a right operand must bind: operators of one level group to the left. -/
def rightLevel (operator : BinaryOperator) : Precedence := operator.precedence + 1

end BinaryOperator

/-- How tightly the outermost operator of an expression binds. -/
def Expr.level : Expr → Precedence
  | conditional _ _ _ _ => .conditional
  | binary _ _ operator _ => operator.precedence
  | unary _ .not _ => .negation
  | unary _ .neg _ => .sign
  | _ => .access

/-- The tokens of an operand, in parentheses if it binds less tightly than required. -/
def enclosed (required level : Precedence) (tokens : List TokenContent) : List TokenContent :=
  if level < required then .sign .leftParen :: tokens ++ [.sign .rightParen] else tokens

/-! ## Types and expressions -/

/-- The tokens of a written type. -/
def WrittenType.spelling : WrittenType → List TokenContent
  | named _ text => [.name text]
  | list _ element => .sign .leftBracket :: element.spelling ++ [.sign .rightBracket]

/-- The tokens of a name with its written type. -/
def TypedVar.spelling (var : TypedVar) : List TokenContent :=
  .name var.identifier.name :: .sign .colon :: var.written.spelling

/-- The tokens of items, each after the token that separates it from the one before. -/
def furtherSpelling {α : Type} (separator : TokenContent) (spelling : α → List TokenContent) :
    List α → List TokenContent
  | [] => []
  | item :: rest => separator :: spelling item ++ furtherSpelling separator spelling rest

/-- The tokens of items, with a separator between two. -/
def separatedSpelling {α : Type} (separator : TokenContent) (spelling : α → List TokenContent) :
    List α → List TokenContent
  | [] => []
  | item :: rest => spelling item ++ furtherSpelling separator spelling rest

mutual

/-- The tokens of an expression. -/
def Expr.spelling : Expr → List TokenContent
  | .name identifier => [.name identifier.name]
  | .integer _ value => [.integer value]
  | .boolean _ value => [.word (if value then .kwTrue else .kwFalse)]
  | .string _ text => [.string text]
  | .none _ => [.word .kwNone]
  | .list _ elements => .sign .leftBracket :: Expr.listSpelling elements ++ [.sign .rightBracket]
  | .binary _ left operator right =>
    enclosed operator.leftLevel left.level left.spelling ++ operator.content ::
      enclosed operator.rightLevel right.level right.spelling
  | .unary _ .neg operand =>
    .sign .minus :: enclosed .sign operand.level operand.spelling
  | .unary _ .not operand =>
    .word .kwNot :: enclosed .comparison operand.level operand.spelling
  | .conditional _ condition thenExpr elseExpr =>
    enclosed .disjunction thenExpr.level thenExpr.spelling ++ .word .kwIf ::
      (enclosed .disjunction condition.level condition.spelling ++ .word .kwElse ::
        enclosed .conditional elseExpr.level elseExpr.spelling)
  | .member _ object field =>
    enclosed .access object.level object.spelling ++ [.sign .dot, .name field.name]
  | .index _ container position =>
    enclosed .access container.level container.spelling ++
      (.sign .leftBracket :: position.spelling ++ [.sign .rightBracket])
  | .call _ function args =>
    .name function.name :: .sign .leftParen :: Expr.listSpelling args ++ [.sign .rightParen]
  | .methodCall _ _ object method args =>
    enclosed .access object.level object.spelling ++
      (.sign .dot :: .name method.name :: .sign .leftParen ::
        Expr.listSpelling args ++ [.sign .rightParen])

/-- The tokens of expressions with commas between them. -/
def Expr.listSpelling : List Expr → List TokenContent
  | [] => []
  | expr :: rest => expr.spelling ++ Expr.tailSpelling rest

/-- The tokens of expressions with a comma before each. -/
def Expr.tailSpelling : List Expr → List TokenContent
  | [] => []
  | expr :: rest => .sign .comma :: expr.spelling ++ Expr.tailSpelling rest

end

/-! ## Statements -/

/-- The tokens of members of a body, or of the empty statement if there are none. -/
def filled (members : List TokenContent) : List TokenContent :=
  if members.isEmpty then [.word .kwPass, .newline] else members

/-- The tokens of an indented body with the tokens of its members. -/
def bodySpelling (members : List TokenContent) : List TokenContent :=
  .newline :: .indent :: members ++ [.dedent]

/-- The tokens of a condition behind a word, with the body it guards. -/
def armSpelling (lead : Keyword) (condition : Expr) (members : List TokenContent) :
    List TokenContent :=
  .word lead :: condition.spelling ++ .sign .colon :: bodySpelling (filled members)

mutual

/-- The tokens of a statement. -/
def Stmt.spelling : Stmt → List TokenContent
  | .expr _ value => value.spelling ++ [.newline]
  | .assign _ targets value =>
    separatedSpelling (.sign .assign) Expr.spelling (targets ++ [value]) ++ [.newline]
  | .ifElse _ condition thenBody elseBody =>
    armSpelling .kwIf condition (spellingOfStmts thenBody) ++ spellingOfElse elseBody
  | .whileLoop _ condition body => armSpelling .kwWhile condition (spellingOfStmts body)
  | .forLoop _ element iterable body =>
    .word .kwFor :: .name element.name :: .word .kwIn :: iterable.spelling ++
      .sign .colon :: bodySpelling (filled (spellingOfStmts body))
  | .ret _ value => .word .kwReturn :: (value.map Expr.spelling).getD [] ++ [.newline]

/-- The tokens of successive statements. -/
def spellingOfStmts : List Stmt → List TokenContent
  | [] => []
  | stmt :: rest => stmt.spelling ++ spellingOfStmts rest

/-- The tokens of a second branch: none for an empty one, `elif` for a single choice. -/
def spellingOfElse : List Stmt → List TokenContent
  | [] => []
  | [.ifElse _ condition thenBody elseBody] =>
    armSpelling .kwElif condition (spellingOfStmts thenBody) ++ spellingOfElse elseBody
  | stmt :: rest =>
    .word .kwElse :: .sign .colon ::
      bodySpelling (filled (stmt.spelling ++ spellingOfStmts rest))

end

/-- Induction over statements, second branches and successive statements, as they are spelled. -/
theorem Stmt.spelling_induction {one : Stmt → Prop} {branch all : List Stmt → Prop}
    (expr : ∀ info value, one (.expr info value))
    (assign : ∀ info targets value, one (.assign info targets value))
    (ifElse : ∀ info condition thenBody elseBody, all thenBody → branch elseBody →
      one (.ifElse info condition thenBody elseBody))
    (whileLoop : ∀ info condition body, all body → one (.whileLoop info condition body))
    (forLoop : ∀ info element iterable body, all body → one (.forLoop info element iterable body))
    (ret : ∀ info value, one (.ret info value))
    (noElse : branch [])
    (elif : ∀ info condition thenBody elseBody, all thenBody → branch elseBody →
      branch [.ifElse info condition thenBody elseBody])
    (elseBlock : ∀ stmt rest, spellingOfElse (stmt :: rest) =
      .word .kwElse :: .sign .colon :: bodySpelling (filled (spellingOfStmts (stmt :: rest))) →
        one stmt → all rest → branch (stmt :: rest))
    (nil : all [])
    (cons : ∀ stmt rest, one stmt → all rest → all (stmt :: rest)) :
    (∀ stmt, one stmt) ∧ (∀ stmts, branch stmts) ∧ ∀ stmts, all stmts := by
  refine Stmt.spelling.mutual_induct one branch all expr assign ifElse whileLoop forLoop ret
    noElse elif ?_ nil cons
  intro stmt rest other
  refine elseBlock stmt rest ?_
  rw [spellingOfElse, spellingOfStmts]
  exact other

/-! ## Declarations -/

/-- The tokens of the result of a function: none if it is left out. -/
def resultSpelling (written : WrittenType) : List TokenContent :=
  match written with
  | .named _ text => if text = Parse.noResult then [] else .sign .arrow :: written.spelling
  | .list _ _ => .sign .arrow :: written.spelling

/-- The tokens of a function up to its body. -/
def FunctionHeading.spelling (heading : FunctionHeading) : List TokenContent :=
  .word .kwDef :: .name heading.name.name :: .sign .leftParen ::
    separatedSpelling (.sign .comma) TypedVar.spelling heading.params ++
      .sign .rightParen :: resultSpelling heading.returns ++ [.sign .colon]

mutual

/-- The tokens of a declaration. -/
def Decl.spelling : Decl → List TokenContent
  | .varDef _ var value => var.spelling ++ .sign .assign :: value.spelling ++ [.newline]
  | .funcDef _ heading declarations statements _ =>
    heading.spelling ++
      bodySpelling (spellingOfDecls declarations ++ filled (spellingOfStmts statements))
  | .classDef _ name superclass declarations =>
    .word .kwClass :: .name name.name :: .sign .leftParen :: .name superclass.name ::
      .sign .rightParen :: .sign .colon :: bodySpelling (filled (spellingOfDecls declarations))
  | .globalDecl _ name => [.word .kwGlobal, .name name.name, .newline]
  | .nonlocalDecl _ name => [.word .kwNonlocal, .name name.name, .newline]

/-- The tokens of successive declarations. -/
def spellingOfDecls : List Decl → List TokenContent
  | [] => []
  | decl :: rest => decl.spelling ++ spellingOfDecls rest

end

/-- The tokens of a program, the end of the file left out. -/
def Program.spelling (program : Program) : List TokenContent :=
  spellingOfDecls program.declarations ++ spellingOfStmts program.statements

end ChocoLang
