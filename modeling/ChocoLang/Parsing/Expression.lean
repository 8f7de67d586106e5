import ChocoLang.Parsing.Cursor

/-!
# Reading types and expressions

Expressions are read by precedence: after a first operand, every operator that binds tighter than
the place allows takes what has been read so far as its left operand.  Each type, each
expression and each operator applied takes one level of the room for nesting; when no room is left
the reader fails, so the readers recur on the room.
-/

namespace ChocoLang

/-- How tightly an operator binds; greater binds tighter. -/
abbrev Precedence := Nat

namespace Precedence

/-- The place of a whole expression, where every operator may follow. -/
def lowest : Precedence := 0

/-- A choice between two expressions. -/
def conditional : Precedence := 1

/-- Disjunction. -/
def disjunction : Precedence := 2

/-- Conjunction. -/
def conjunction : Precedence := 3

/-- Negation of a truth value. -/
def negation : Precedence := 4

/-- Comparisons. -/
def comparison : Precedence := 5

/-- Sum and difference. -/
def additive : Precedence := 6

/-- Product, quotient and remainder. -/
def multiplicative : Precedence := 7

/-- Calls, elements and attributes. -/
def access : Precedence := 9

end Precedence

/-- The precedence of an operator between two operands. -/
def BinaryOperator.precedence : BinaryOperator → Precedence
  | .add | .sub => .additive
  | .mul | .floorDiv | .mod => .multiplicative
  | .eq | .ne | .lt | .gt | .le | .ge | .is => .comparison
  | .and => .conjunction
  | .or => .disjunction

/-- The operator that a token stands for between two operands. -/
def TokenKind.operator? : TokenKind → Option BinaryOperator
  | .symbol .plus => some .add
  | .symbol .minus => some .sub
  | .symbol .star => some .mul
  | .symbol .doubleSlash => some .floorDiv
  | .symbol .percent => some .mod
  | .symbol .equal => some .eq
  | .symbol .notEqual => some .ne
  | .symbol .less => some .lt
  | .symbol .greater => some .gt
  | .symbol .lessEqual => some .le
  | .symbol .greaterEqual => some .ge
  | .keyword .kwIs => some .is
  | .keyword .kwAnd => some .and
  | .keyword .kwOr => some .or
  | _ => none

/-- What can follow an operand. -/
inductive Continuation where
  /-- An operator and its right operand. -/
  | operator (operator : BinaryOperator)
  /-- The condition of a choice, and the expression for when it fails. -/
  | conditional
  /-- An attribute or a method. -/
  | field
  /-- An element. -/
  | element
  /-- The arguments of a call. -/
  | call
deriving DecidableEq, Repr

namespace Continuation

/-- How tightly a continuation binds to the operand before it. -/
def precedence : Continuation → Precedence
  | operator sign => sign.precedence
  | conditional => .conditional
  | field | element | call => .access

/-- The continuation that a token begins. -/
def ofKind? (kind : TokenKind) : Option Continuation :=
  match kind with
  | .keyword .kwIf => some conditional
  | .symbol .dot => some field
  | .symbol .leftBracket => some element
  | .symbol .leftParen => some call
  | kind => kind.operator?.map operator

end Continuation

namespace Parse

/-! ## Types -/

/-- Reads a written type, with room for so many levels of nesting. -/
def writtenType : (room : Nat) → Parse WrittenType
  | 0 => fail .nestedTooDeeply
  | room + 1 => do
    let token ← look Cursor.current
    match token.kind with
    | .identifier | .nameString =>
      modify Cursor.advance
      return .named (.ofSpan token.span) token.value.display
    | .symbol .leftBracket =>
      modify Cursor.advance
      let element ← writtenType room
      expectSymbol .rightBracket .closeListType
      return .list (.ofSpan (← look (Cursor.spanFrom token.span))) element
    | _ => fail (.noType token)

/-- Reads a name, a colon and a type. -/
def typedVar (room : Nat) : Parse TypedVar := do
  let name ← identifier .identifier
  expectSymbol .colon .colonAfterVariable
  let written ← writtenType room
  let span ← look (Cursor.spanFrom name.info.span)
  return { info := .ofSpan span, identifier := name, written }

/-! ## Operands -/

/-- The literal or name that a token is by itself. -/
def atom? (token : Token) : Option Expr :=
  let info := ExprInfo.ofSpan token.span
  match token.kind with
  | .identifier => some (.name { info, name := token.value.display })
  | .integer => some (.integer info (token.value.number?.getD 0))
  | .string | .nameString => some (.string info token.value.display)
  | .keyword .kwTrue => some (.boolean info true)
  | .keyword .kwFalse => some (.boolean info false)
  | .keyword .kwNone => some (.none info)
  | _ => none

/-- Reads an operand that is no operator: a literal, a name, or something in brackets. -/
def primary (expression : Parse Expr) : Parse Expr := do
  let token ← look Cursor.current
  match atom? token with
  | some atom =>
    modify Cursor.advance
    return atom
  | none =>
    match token.kind with
    | .symbol .leftParen =>
      modify Cursor.advance
      let inner ← expression
      expectSymbol .rightParen .closeParenthesized
      return inner
    | .symbol .leftBracket =>
      modify Cursor.advance
      let elements ← commaList .rightBracket expression
      expectSymbol .rightBracket .closeList
      return .list (.ofSpan (← look (Cursor.spanFrom token.span))) elements
    | .keyword _ => fail (.keywordAsExpression token)
    | _ => fail (.noExpression token)

/--
Reads an operand with the operators before it.  A negation may stand only where an operator no
tighter than it may follow.
-/
def operand (expression : Precedence → Parse Expr) (floor : Precedence) : Parse Expr := do
  let token ← look Cursor.current
  match token.kind with
  | .symbol .minus =>
    modify Cursor.advance
    let inner ← expression .multiplicative
    return .unary (.ofSpan (← look (Cursor.spanFrom token.span))) .neg inner
  | .keyword .kwNot =>
    if Precedence.negation ≤ floor then fail .bareNot
    else
      modify Cursor.advance
      let inner ← expression .negation
      return .unary (.ofSpan (← look (Cursor.spanFrom token.span))) .not inner
  | _ => primary (expression .lowest)

/-! ## Continuations -/

/-- Reads the arguments of a call and the parenthesis behind them. -/
def arguments (expression : Parse Expr) : Parse (List Expr) := do
  let args ← commaList .rightParen expression
  expectSymbol .rightParen .closeArguments
  return args

/-- Reads the name behind a dot and, if there are any, the arguments of the method. -/
def fieldOf (expression : Parse Expr) (start : Span) (object : Expr) : Parse Expr := do
  let name ← identifier .attributeName
  let access := ExprInfo.ofSpan (← look (Cursor.spanFrom start))
  if ← accept (.symbol .leftParen) then
    let args ← arguments expression
    return .methodCall (.ofSpan (← look (Cursor.spanFrom start))) access object name args
  else return .member access object name

/-- Reads the position behind an opening bracket. -/
def elementOf (expression : Parse Expr) (start : Span) (container : Expr) : Parse Expr := do
  let position ← expression
  expectSymbol .rightBracket .closeIndex
  return .index (.ofSpan (← look (Cursor.spanFrom start))) container position

/-- Reads the arguments behind the opening parenthesis; only a name can be called. -/
def callOf (expression : Parse Expr) (start paren : Span) (callee : Expr) : Parse Expr := do
  match callee with
  | .name function =>
    let args ← arguments expression
    return .call (.ofSpan (← look (Cursor.spanFrom start))) function args
  | _ => throw ⟨.callOfExpression, paren⟩

/-- Reads the condition and the alternative behind the first expression of a choice. -/
def choiceOf (expression : Precedence → Parse Expr) (start : Span) (chosen : Expr) :
    Parse Expr := do
  let condition ← expression .conditional
  let _ ← expect (.keyword .kwElse) .elseInConditional
  let alternative ← expression .lowest
  return .conditional (.ofSpan (← look (Cursor.spanFrom start))) condition chosen alternative

/-- A comparison begins at the cursor. -/
def atComparison (cursor : Cursor) : Bool :=
  (Continuation.ofKind? cursor.kind).any fun next => next.precedence == .comparison

/-- Reads the right operand of an operator; a comparison may not be compared again. -/
def operationOf (expression : Precedence → Parse Expr) (start : Span)
    (operator : BinaryOperator) (left : Expr) : Parse Expr := do
  let right ← expression operator.precedence
  let info := ExprInfo.ofSpan (← look (Cursor.spanFrom start))
  if operator.precedence == .comparison then
    if ← look atComparison then fail .chainedComparison
  return .binary info left operator right

/-- Reads a continuation of what began at `start`, from the token that begins it on. -/
def continuation (expression : Precedence → Parse Expr) (start : Span) (left : Expr)
    (next : Continuation) : Parse Expr := do
  let token ← advance
  match next with
  | .operator operator => operationOf expression start operator left
  | .conditional => choiceOf expression start left
  | .field => fieldOf (expression .lowest) start left
  | .element => elementOf (expression .lowest) start left
  | .call => callOf (expression .lowest) start token.span left

/-- The continuation at the cursor, if it binds tighter than the place allows. -/
def continuationAbove? (floor : Precedence) (cursor : Cursor) : Option Continuation :=
  (Continuation.ofKind? cursor.kind).filter fun next => floor < next.precedence

/-! ## Expressions -/

mutual

/--
Reads an expression made by operators that bind tighter than `floor`, with room for so many levels
of nesting.
-/
def expressionAbove : (room : Nat) → (floor : Precedence) → Parse Expr
  | 0, _ => fail .nestedTooDeeply
  | room + 1, floor => do
    let start ← look (·.current.span)
    let left ← operand (expressionAbove room) floor
    continued room floor start left

/-- Reads the continuations of what began at `start`, each of which takes one level of room. -/
def continued : (room : Nat) → (floor : Precedence) → (start : Span) → Expr → Parse Expr
  | 0, floor, _, left => do
    match ← look (continuationAbove? floor) with
    | none => return left
    | some _ => fail .nestedTooDeeply
  | room + 1, floor, start, left => do
    match ← look (continuationAbove? floor) with
    | none => return left
    | some next =>
      let left ← continuation (expressionAbove room) start left next
      continued room floor start left

end

/-- Reads a whole expression. -/
def expression (room : Nat) : Parse Expr := expressionAbove room .lowest

end Parse
end ChocoLang
