import ChocoLang.Proofs.Parsing.Spelling
import ChocoLang.Proofs.Token.Nesting

/-!
# Ways of writing trees

The grammar leaves the author of a program some choices.  Redundant parentheses may stand around
any expression; lines that hold only `pass` may stand between the members of a body, also of a
second branch that does nothing; a single choice in a second branch may be an `elif` or stand in the
body of an `else`; and the name of a class in an annotation may stand in quotation marks.  The
relations below hold between a tree and the tokens of every way of writing it, and leave nothing
else open.
-/

namespace ChocoLang

/-! ## Lists -/

section Lists

variable {α : Type}

/-- The tokens write the items, each behind the separator. -/
inductive FurtherAs (separator : TokenContent) (writes : α → List TokenContent → Prop) :
    List α → List TokenContent → Prop where
  | nil : FurtherAs separator writes [] []
  | cons {item : α} {rest : List α} {first later : List TokenContent} (head : writes item first)
    (tail : FurtherAs separator writes rest later) :
    FurtherAs separator writes (item :: rest) (separator :: first ++ later)

/-- The tokens write the items, with the separator between two. -/
inductive SeparatedAs (separator : TokenContent) (writes : α → List TokenContent → Prop) :
    List α → List TokenContent → Prop where
  | nil : SeparatedAs separator writes [] []
  | cons {item : α} {rest : List α} {first later : List TokenContent} (head : writes item first)
    (tail : FurtherAs separator writes rest later) :
    SeparatedAs separator writes (item :: rest) (first ++ later)

/-- The tokens write the members one after the other. -/
inductive JoinedAs (writes : α → List TokenContent → Prop) : List α → List TokenContent → Prop where
  | nil : JoinedAs writes [] []
  | cons {member : α} {rest : List α} {first later : List TokenContent}
    (head : writes member first) (tail : JoinedAs writes rest later) :
    JoinedAs writes (member :: rest) (first ++ later)

/-- The tokens write the members one after the other, with any number of empty lines anywhere. -/
inductive PaddedAs (writes : α → List TokenContent → Prop) : List α → List TokenContent → Prop where
  | nil : PaddedAs writes [] []
  | pass {members : List α} {later : List TokenContent} (tail : PaddedAs writes members later) :
    PaddedAs writes members (.word .kwPass :: .newline :: later)
  | cons {member : α} {rest : List α} {first later : List TokenContent}
    (head : writes member first) (tail : PaddedAs writes rest later) :
    PaddedAs writes (member :: rest) (first ++ later)

end Lists

/-! ## Types -/

/-- The tokens write the type. -/
inductive WrittenType.WrittenAs : WrittenType → List TokenContent → Prop where
  | named (info : NodeInfo) {text : String} (name : isName text.toList) :
    WrittenAs (.named info text) [.name text]
  | quoted (info : NodeInfo) {text : String} (name : isName text.toList) :
    WrittenAs (.named info text) [.string text]
  | list (info : NodeInfo) {element : WrittenType} {tokens : List TokenContent}
    (inner : element.WrittenAs tokens) :
    WrittenAs (.list info element) (.sign .leftBracket :: tokens ++ [.sign .rightBracket])

/-- The tokens write the name with its type. -/
inductive TypedVar.WrittenAs (var : TypedVar) : List TokenContent → Prop where
  | annotated {tokens : List TokenContent} (written : var.written.WrittenAs tokens) :
    var.WrittenAs (.name var.identifier.name :: .sign .colon :: tokens)

/-! ## Expressions -/

mutual

/-- The tokens write the expression without parentheses around it. -/
inductive Expr.BareAs : Expr → List TokenContent → Prop where
  | name (identifier : Identifier) : Expr.BareAs (.name identifier) [.name identifier.name]
  | integer (info : ExprInfo) (value : Int) : Expr.BareAs (.integer info value) [.integer value]
  | boolean (info : ExprInfo) (value : Bool) :
    Expr.BareAs (.boolean info value) [.word (if value then .kwTrue else .kwFalse)]
  | string (info : ExprInfo) (text : String) : Expr.BareAs (.string info text) [.string text]
  | none (info : ExprInfo) : Expr.BareAs (.none info) [.word .kwNone]
  | list (info : ExprInfo) {elements : List Expr} {tokens : List TokenContent}
    (inner : SeparatedAs (.sign .comma) (Expr.WrittenAs .lowest) elements tokens) :
    Expr.BareAs (.list info elements) (.sign .leftBracket :: tokens ++ [.sign .rightBracket])
  | binary (info : ExprInfo) (operator : BinaryOperator) {left right : Expr}
    {before behind : List TokenContent} (first : left.WrittenAs operator.leftLevel before)
    (second : right.WrittenAs operator.rightLevel behind) :
    Expr.BareAs (.binary info left operator right) (before ++ operator.content :: behind)
  | neg (info : ExprInfo) {operand : Expr} {tokens : List TokenContent}
    (inner : operand.WrittenAs .sign tokens) :
    Expr.BareAs (.unary info .neg operand) (.sign .minus :: tokens)
  | not (info : ExprInfo) {operand : Expr} {tokens : List TokenContent}
    (inner : operand.WrittenAs .comparison tokens) :
    Expr.BareAs (.unary info .not operand) (.word .kwNot :: tokens)
  | conditional (info : ExprInfo) {condition thenExpr elseExpr : Expr}
    {chosen asked otherwise : List TokenContent} (first : thenExpr.WrittenAs .disjunction chosen)
    (middle : condition.WrittenAs .disjunction asked)
    (last : elseExpr.WrittenAs .conditional otherwise) :
    Expr.BareAs (.conditional info condition thenExpr elseExpr)
      (chosen ++ .word .kwIf :: (asked ++ .word .kwElse :: otherwise))
  | member (info : ExprInfo) (field : Identifier) {object : Expr} {tokens : List TokenContent}
    (inner : object.WrittenAs .access tokens) :
    Expr.BareAs (.member info object field) (tokens ++ [.sign .dot, .name field.name])
  | index (info : ExprInfo) {container position : Expr} {before inside : List TokenContent}
    (first : container.WrittenAs .access before) (second : position.WrittenAs .lowest inside) :
    Expr.BareAs (.index info container position)
      (before ++ (.sign .leftBracket :: inside ++ [.sign .rightBracket]))
  | call (info : ExprInfo) {function : Identifier} {args : List Expr}
    {before inside : List TokenContent} (first : (Expr.name function).WrittenAs .access before)
    (second : SeparatedAs (.sign .comma) (Expr.WrittenAs .lowest) args inside) :
    Expr.BareAs (.call info function args)
      (before ++ (.sign .leftParen :: inside ++ [.sign .rightParen]))
  | methodCall (info access : ExprInfo) (method : Identifier) {object : Expr} {args : List Expr}
    {before inside : List TokenContent} (first : object.WrittenAs .access before)
    (second : SeparatedAs (.sign .comma) (Expr.WrittenAs .lowest) args inside) :
    Expr.BareAs (.methodCall info access object method args)
      (before ++ (.sign .dot :: .name method.name :: .sign .leftParen :: inside ++
        [.sign .rightParen]))

/--
The tokens write the expression where an operand must bind as tightly as required: without
parentheses if it does, and in parentheses in any case.
-/
inductive Expr.WrittenAs : Precedence → Expr → List TokenContent → Prop where
  | bare {required : Precedence} {expr : Expr} {tokens : List TokenContent}
    (tight : required ≤ expr.level) (inner : expr.BareAs tokens) :
    Expr.WrittenAs required expr tokens
  | parenthesized {required : Precedence} {expr : Expr} {tokens : List TokenContent}
    (inner : expr.WrittenAs .lowest tokens) :
    Expr.WrittenAs required expr (.sign .leftParen :: tokens ++ [.sign .rightParen])

end

/-- What binds tightly enough for one place binds tightly enough for a looser one. -/
theorem Expr.WrittenAs.mono {low high : Precedence} {expr : Expr} {tokens : List TokenContent}
    (writes : expr.WrittenAs high tokens) (looser : low ≤ high) : expr.WrittenAs low tokens := by
  cases writes with
  | bare tight inner => exact .bare (Nat.le_trans looser tight) inner
  | parenthesized inner => exact .parenthesized inner

/-! ## Statements -/

/-- The tokens of a condition behind a word, with the body it guards. -/
def armTokens (lead : Keyword) (condition body : List TokenContent) : List TokenContent :=
  .word lead :: condition ++ .sign .colon :: body

mutual

/-- The tokens write the statement. -/
inductive Stmt.WrittenAs : Stmt → List TokenContent → Prop where
  | expr (info : NodeInfo) {value : Expr} {tokens : List TokenContent}
    (inner : value.WrittenAs .lowest tokens) :
    Stmt.WrittenAs (.expr info value) (tokens ++ [.newline])
  | assign (info : NodeInfo) {targets : List Expr} {value : Expr} {tokens : List TokenContent}
    (nonempty : targets ≠ [])
    (inner : SeparatedAs (.sign .assign) (Expr.WrittenAs .lowest) (targets ++ [value]) tokens) :
    Stmt.WrittenAs (.assign info targets value) (tokens ++ [.newline])
  | ifElse (info : NodeInfo) {condition : Expr} {thenBody elseBody : List Stmt}
    {asked body otherwise : List TokenContent} (first : condition.WrittenAs .lowest asked)
    (second : Stmt.BodyAs thenBody body) (last : Stmt.BranchAs elseBody otherwise) :
    Stmt.WrittenAs (.ifElse info condition thenBody elseBody)
      (armTokens .kwIf asked body ++ otherwise)
  | whileLoop (info : NodeInfo) {condition : Expr} {stmts : List Stmt}
    {asked body : List TokenContent} (first : condition.WrittenAs .lowest asked)
    (second : Stmt.BodyAs stmts body) :
    Stmt.WrittenAs (.whileLoop info condition stmts) (armTokens .kwWhile asked body)
  | forLoop (info : NodeInfo) (element : Identifier) {iterable : Expr} {stmts : List Stmt}
    {iterated body : List TokenContent} (first : iterable.WrittenAs .lowest iterated)
    (second : Stmt.BodyAs stmts body) :
    Stmt.WrittenAs (.forLoop info element iterable stmts)
      (.word .kwFor :: .name element.name :: .word .kwIn :: iterated ++ .sign .colon :: body)
  | bareReturn (info : NodeInfo) :
    Stmt.WrittenAs (.ret info none) [.word .kwReturn, .newline]
  | returnValue (info : NodeInfo) {value : Expr} {tokens : List TokenContent}
    (inner : value.WrittenAs .lowest tokens) :
    Stmt.WrittenAs (.ret info (some value)) (.word .kwReturn :: tokens ++ [.newline])

/-- The tokens write the statements as an indented body, in which there is a line at least. -/
inductive Stmt.BodyAs : List Stmt → List TokenContent → Prop where
  | lines {stmts : List Stmt} {inner : List TokenContent} (nonempty : inner ≠ [])
    (members : PaddedAs Stmt.WrittenAs stmts inner) : Stmt.BodyAs stmts (bodySpelling inner)

/-- The tokens write the statements as the second branch of a choice. -/
inductive Stmt.BranchAs : List Stmt → List TokenContent → Prop where
  | absent : Stmt.BranchAs [] []
  | chained (info : NodeInfo) {condition : Expr} {thenBody elseBody : List Stmt}
    {asked body otherwise : List TokenContent} (first : condition.WrittenAs .lowest asked)
    (second : Stmt.BodyAs thenBody body) (last : Stmt.BranchAs elseBody otherwise) :
    Stmt.BranchAs [.ifElse info condition thenBody elseBody]
      (armTokens .kwElif asked body ++ otherwise)
  | separate {stmts : List Stmt} {body : List TokenContent} (inner : Stmt.BodyAs stmts body) :
    Stmt.BranchAs stmts (.word .kwElse :: .sign .colon :: body)

end

/-! ## Declarations -/

/-- The tokens write the result of a function; a result left out is no type that can be written. -/
inductive ResultAs : WrittenType → List TokenContent → Prop where
  | omitted (info : NodeInfo) : ResultAs (.named info Parse.noResult) []
  | annotated {written : WrittenType} {tokens : List TokenContent}
    (inner : written.WrittenAs tokens) : ResultAs written (.sign .arrow :: tokens)

/-- The tokens write the function up to its body. -/
inductive FunctionHeading.WrittenAs (heading : FunctionHeading) : List TokenContent → Prop where
  | signature {inside result : List TokenContent}
    (params : SeparatedAs (.sign .comma) TypedVar.WrittenAs heading.params inside)
    (returns : ResultAs heading.returns result) :
    heading.WrittenAs (.word .kwDef :: .name heading.name.name :: .sign .leftParen ::
      (inside ++ .sign .rightParen :: (result ++ [.sign .colon])))

/-- The tokens write the declaration; nothing of it was lost. -/
inductive Decl.WrittenAs : Decl → List TokenContent → Prop where
  | varDef (info : NodeInfo) {var : TypedVar} {value : Expr} {before literal : List TokenContent}
    (first : var.WrittenAs before) (isLiteral : value.isLiteral) (second : value.BareAs literal) :
    Decl.WrittenAs (.varDef info var value)
      (before ++ .sign .assign :: (literal ++ [.newline]))
  | funcDef (info : NodeInfo) {heading : FunctionHeading} {declarations : List Decl}
    {statements : List Stmt} {signature before behind : List TokenContent}
    (first : heading.WrittenAs signature) (second : JoinedAs Decl.WrittenAs declarations before)
    (nonempty : behind ≠ []) (last : PaddedAs Stmt.WrittenAs statements behind) :
    Decl.WrittenAs (.funcDef info heading declarations statements false)
      (signature ++ bodySpelling (before ++ behind))
  | classDef (info : NodeInfo) (name superclass : Identifier) {members : List Decl}
    {inner : List TokenContent} (nonempty : inner ≠ [])
    (inside : PaddedAs Decl.WrittenAs members inner) :
    Decl.WrittenAs (.classDef info name superclass members)
      (.word .kwClass :: .name name.name :: .sign .leftParen :: .name superclass.name ::
        .sign .rightParen :: .sign .colon :: bodySpelling inner)
  | globalDecl (info : NodeInfo) (name : Identifier) :
    Decl.WrittenAs (.globalDecl info name) [.word .kwGlobal, .name name.name, .newline]
  | nonlocalDecl (info : NodeInfo) (name : Identifier) :
    Decl.WrittenAs (.nonlocalDecl info name) [.word .kwNonlocal, .name name.name, .newline]

/-- The tokens write the program, the end of the file left out. -/
inductive Program.WrittenAs (program : Program) : List TokenContent → Prop where
  | lines {before behind : List TokenContent}
    (declarations : PaddedAs Decl.WrittenAs program.declarations before)
    (statements : PaddedAs Stmt.WrittenAs program.statements behind) :
    program.WrittenAs (before ++ behind)

theorem FunctionHeading.WrittenAs.ne_nil {heading : FunctionHeading} {tokens : List TokenContent}
    (writes : heading.WrittenAs tokens) : tokens ≠ [] := by
  cases writes
  simp

theorem Decl.WrittenAs.ne_nil {decl : Decl} {tokens : List TokenContent}
    (writes : decl.WrittenAs tokens) : tokens ≠ [] := by
  cases writes with
  | funcDef info first => simp [first.ne_nil]
  | _ => simp

/-! ## Layout of what is written -/

/-- No token is layout. -/
def Inline (tokens : List TokenContent) : Prop :=
  ∀ content ∈ tokens, content.kind.isLayout = false

@[simp]
theorem inline_nil : Inline [] := by
  simp [Inline]

@[simp]
theorem inline_cons {content : TokenContent} {tokens : List TokenContent} :
    Inline (content :: tokens) ↔ content.kind.isLayout = false ∧ Inline tokens :=
  List.forall_mem_cons

@[simp]
theorem inline_append {front back : List TokenContent} :
    Inline (front ++ back) ↔ Inline front ∧ Inline back :=
  List.forall_mem_append

/-- Every block that begins among the tokens ends among them, and no other one ends there. -/
def BlocksClosed (tokens : List TokenContent) : Prop :=
  Balanced (tokens.map TokenContent.kind)

theorem blocksClosed_nil : BlocksClosed [] := rfl

theorem BlocksClosed.append {front back : List TokenContent} (first : BlocksClosed front)
    (second : BlocksClosed back) : BlocksClosed (front ++ back) := by
  rw [BlocksClosed, List.map_append]
  exact Balanced.append first second

theorem BlocksClosed.cons {content : TokenContent} {tokens : List TokenContent}
    (level : content.kind.isLevel = true) (closed : BlocksClosed tokens) :
    BlocksClosed (content :: tokens) :=
  Balanced.cons level closed

theorem Inline.blocksClosed {tokens : List TokenContent} (inside : Inline tokens) :
    BlocksClosed tokens :=
  balanced_of_isLayout (by simpa [Inline] using inside)

/-- A line of text is closed by the end of the line. -/
theorem Inline.line {tokens : List TokenContent} (inside : Inline tokens) :
    BlocksClosed (tokens ++ [.newline]) :=
  inside.blocksClosed.append (.cons rfl blocksClosed_nil)

theorem BlocksClosed.body {inner : List TokenContent} (closed : BlocksClosed inner) :
    BlocksClosed (bodySpelling inner) := by
  have block : Balanced (.newline :: (.indent :: inner.map TokenContent.kind ++ [.dedent])) :=
    .cons rfl (Balanced.block closed)
  simpa [BlocksClosed, bodySpelling] using block

section Lists

variable {α : Type} {writes : α → List TokenContent → Prop} {separator : TokenContent}
  {items : List α} {tokens : List TokenContent}

theorem JoinedAs.append {others : List α} {later : List TokenContent}
    (first : JoinedAs writes items tokens) (second : JoinedAs writes others later) :
    JoinedAs writes (items ++ others) (tokens ++ later) := by
  induction first with
  | nil => exact second
  | cons head tail ih =>
      rw [List.cons_append, List.append_assoc]
      exact .cons head ih

theorem JoinedAs.single {member : α} (head : writes member tokens) :
    JoinedAs writes [member] tokens := by
  simpa using JoinedAs.cons head .nil

theorem PaddedAs.append {others : List α} {later : List TokenContent}
    (first : PaddedAs writes items tokens) (second : PaddedAs writes others later) :
    PaddedAs writes (items ++ others) (tokens ++ later) := by
  induction first with
  | nil => exact second
  | pass tail ih => exact .pass ih
  | cons head tail ih =>
      rw [List.cons_append, List.append_assoc]
      exact .cons head ih

/-- A single member may be written as it is. -/
theorem PaddedAs.single {member : α} (head : writes member tokens) :
    PaddedAs writes [member] tokens := by
  simpa using PaddedAs.cons head .nil

theorem FurtherAs.inline (further : FurtherAs separator writes items tokens)
    (apart : separator.kind.isLayout = false)
    (each : ∀ item tokens, writes item tokens → Inline tokens) : Inline tokens := by
  induction further with
  | nil => exact inline_nil
  | cons head tail ih =>
      exact inline_append.mpr ⟨inline_cons.mpr ⟨apart, each _ _ head⟩, ih⟩

theorem SeparatedAs.inline (separated : SeparatedAs separator writes items tokens)
    (apart : separator.kind.isLayout = false)
    (each : ∀ item tokens, writes item tokens → Inline tokens) : Inline tokens := by
  cases separated with
  | nil => exact inline_nil
  | cons head tail => exact inline_append.mpr ⟨each _ _ head, tail.inline apart each⟩

end Lists

theorem WrittenType.WrittenAs.inline {written : WrittenType} {tokens : List TokenContent}
    (writes : written.WrittenAs tokens) : Inline tokens := by
  induction writes with
  | named info name => simp [TokenKind.isLayout]
  | quoted info name => simp [TokenContent.string, name, TokenKind.isLayout]
  | list info inner ih => simp [ih, TokenKind.isLayout]

theorem TypedVar.WrittenAs.inline {var : TypedVar} {tokens : List TokenContent}
    (writes : var.WrittenAs tokens) : Inline tokens := by
  cases writes with
  | annotated written => simp [written.inline, TokenKind.isLayout]

theorem BinaryOperator.isLayout_content (operator : BinaryOperator) :
    operator.content.kind.isLayout = false := by
  cases operator <;> rfl

mutual

theorem Expr.BareAs.inline : ∀ {expr : Expr} {tokens : List TokenContent},
    expr.BareAs tokens → Inline tokens
  | _, _, .name identifier => by simp [TokenKind.isLayout]
  | _, _, .integer info value => by simp [TokenContent.integer, TokenKind.isLayout]
  | _, _, .boolean info value => by simp [TokenKind.isLayout]
  | _, _, .string info text => by
      simp only [TokenContent.string, inline_cons, inline_nil, and_true]
      split <;> rfl
  | _, _, .none info => by simp [TokenKind.isLayout]
  | _, _, .list info inner => by simp [Expr.inline_of_separated inner, TokenKind.isLayout]
  | _, _, .binary info operator first second => by
      simp [first.inline, second.inline, operator.isLayout_content]
  | _, _, .neg info inner => by simp [inner.inline, TokenKind.isLayout]
  | _, _, .not info inner => by simp [inner.inline, TokenKind.isLayout]
  | _, _, .conditional info first middle last => by
      simp [first.inline, middle.inline, last.inline, TokenKind.isLayout]
  | _, _, .member info field inner => by simp [inner.inline, TokenKind.isLayout]
  | _, _, .index info first second => by simp [first.inline, second.inline, TokenKind.isLayout]
  | _, _, .call info first second => by
      simp [first.inline, Expr.inline_of_separated second, TokenKind.isLayout]
  | _, _, .methodCall info access method first second => by
      simp [first.inline, Expr.inline_of_separated second, TokenKind.isLayout]

/-- An expression is written within a line. -/
theorem Expr.WrittenAs.inline : ∀ {required : Precedence} {expr : Expr}
    {tokens : List TokenContent}, expr.WrittenAs required tokens → Inline tokens
  | _, _, _, .bare _ inner => inner.inline
  | _, _, _, .parenthesized inner => by simp [inner.inline, TokenKind.isLayout]

theorem Expr.inline_of_separated : ∀ {exprs : List Expr} {tokens : List TokenContent},
    SeparatedAs (.sign .comma) (Expr.WrittenAs .lowest) exprs tokens → Inline tokens
  | _, _, .nil => inline_nil
  | _, _, .cons head tail => inline_append.mpr ⟨head.inline, Expr.inline_of_further tail⟩

theorem Expr.inline_of_further : ∀ {exprs : List Expr} {tokens : List TokenContent},
    FurtherAs (.sign .comma) (Expr.WrittenAs .lowest) exprs tokens → Inline tokens
  | _, _, .nil => inline_nil
  | _, _, .cons head tail =>
      inline_append.mpr ⟨inline_cons.mpr ⟨rfl, head.inline⟩, Expr.inline_of_further tail⟩

end

theorem Expr.BareAs.ne_nil {expr : Expr} {tokens : List TokenContent}
    (writes : expr.BareAs tokens) : tokens ≠ [] := by
  cases writes <;> simp

theorem Expr.WrittenAs.ne_nil {required : Precedence} {expr : Expr} {tokens : List TokenContent}
    (writes : expr.WrittenAs required tokens) : tokens ≠ [] := by
  cases writes with
  | bare tight inner => exact inner.ne_nil
  | parenthesized inner => simp

theorem Stmt.WrittenAs.ne_nil {stmt : Stmt} {tokens : List TokenContent}
    (writes : stmt.WrittenAs tokens) : tokens ≠ [] := by
  cases writes <;> simp [armTokens]

theorem armTokens_blocksClosed {lead : Keyword} {condition body : List TokenContent}
    (asked : Inline condition) (closed : BlocksClosed body) :
    BlocksClosed (armTokens lead condition body) :=
  .append (Inline.blocksClosed (inline_cons.mpr ⟨rfl, asked⟩)) (.cons rfl closed)

mutual

/-- A statement is written in full lines and blocks. -/
theorem Stmt.WrittenAs.blocksClosed : ∀ {stmt : Stmt} {tokens : List TokenContent},
    stmt.WrittenAs tokens → BlocksClosed tokens
  | _, _, .expr info inner => inner.inline.line
  | _, _, .assign info nonempty inner =>
      (inner.inline rfl fun _ _ writes => writes.inline).line
  | _, _, .ifElse info first second last =>
      (armTokens_blocksClosed first.inline second.blocksClosed).append last.blocksClosed
  | _, _, .whileLoop info first second =>
      armTokens_blocksClosed first.inline second.blocksClosed
  | _, _, .forLoop info element first second =>
      .append (Inline.blocksClosed (by simp [first.inline, TokenKind.isLayout]))
        (.cons rfl second.blocksClosed)
  | _, _, .bareReturn info => rfl
  | _, _, .returnValue info inner => Inline.line (inline_cons.mpr ⟨rfl, inner.inline⟩)

theorem Stmt.BodyAs.blocksClosed : ∀ {stmts : List Stmt} {tokens : List TokenContent},
    Stmt.BodyAs stmts tokens → BlocksClosed tokens
  | _, _, .lines _ members => (Stmt.blocksClosed_of_padded members).body

theorem Stmt.BranchAs.blocksClosed : ∀ {stmts : List Stmt} {tokens : List TokenContent},
    Stmt.BranchAs stmts tokens → BlocksClosed tokens
  | _, _, .absent => blocksClosed_nil
  | _, _, .chained info first second last =>
      (armTokens_blocksClosed first.inline second.blocksClosed).append last.blocksClosed
  | _, _, .separate inner => .cons rfl (.cons rfl inner.blocksClosed)

theorem Stmt.blocksClosed_of_padded : ∀ {stmts : List Stmt} {tokens : List TokenContent},
    PaddedAs Stmt.WrittenAs stmts tokens → BlocksClosed tokens
  | _, _, .nil => blocksClosed_nil
  | _, _, .pass tail => .cons rfl (.cons rfl (Stmt.blocksClosed_of_padded tail))
  | _, _, .cons head tail => head.blocksClosed.append (Stmt.blocksClosed_of_padded tail)

end

theorem ResultAs.inline {written : WrittenType} {tokens : List TokenContent}
    (writes : ResultAs written tokens) : Inline tokens := by
  cases writes with
  | omitted info => exact inline_nil
  | annotated inner => simp [inner.inline, TokenKind.isLayout]

theorem FunctionHeading.WrittenAs.inline {heading : FunctionHeading} {tokens : List TokenContent}
    (writes : heading.WrittenAs tokens) : Inline tokens := by
  cases writes with
  | signature params returns =>
      have inside := params.inline rfl fun _ _ writes => writes.inline
      simp [inside, returns.inline, TokenKind.isLayout]

mutual

/-- A declaration is written in full lines and blocks. -/
theorem Decl.WrittenAs.blocksClosed : ∀ {decl : Decl} {tokens : List TokenContent},
    decl.WrittenAs tokens → BlocksClosed tokens
  | _, _, .varDef info first _ second =>
      first.inline.blocksClosed.append (.cons rfl second.inline.line)
  | _, _, .funcDef info first second _ last =>
      first.inline.blocksClosed.append
        ((Decl.blocksClosed_of_joined second).append (Stmt.blocksClosed_of_padded last)).body
  | _, _, .classDef info name superclass _ inside => by
      have header : BlocksClosed [.word .kwClass, .name name.name, .sign .leftParen,
        .name superclass.name, .sign .rightParen, .sign .colon] := rfl
      exact header.append (Decl.blocksClosed_of_padded inside).body
  | _, _, .globalDecl info name => rfl
  | _, _, .nonlocalDecl info name => rfl

theorem Decl.blocksClosed_of_joined : ∀ {decls : List Decl} {tokens : List TokenContent},
    JoinedAs Decl.WrittenAs decls tokens → BlocksClosed tokens
  | _, _, .nil => blocksClosed_nil
  | _, _, .cons head tail => head.blocksClosed.append (Decl.blocksClosed_of_joined tail)

theorem Decl.blocksClosed_of_padded : ∀ {decls : List Decl} {tokens : List TokenContent},
    PaddedAs Decl.WrittenAs decls tokens → BlocksClosed tokens
  | _, _, .nil => blocksClosed_nil
  | _, _, .pass tail => .cons rfl (.cons rfl (Decl.blocksClosed_of_padded tail))
  | _, _, .cons head tail => head.blocksClosed.append (Decl.blocksClosed_of_padded tail)

end

end ChocoLang
