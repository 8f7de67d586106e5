import ChocoLang.Parsing.Expression

/-!
# Reading statements

A statement takes a line, or is a header with the indented block behind it.  A block takes one
level of the room for nesting.  A statement in error costs only itself: the problem is recorded
and the block goes on with the next statement.
-/

namespace ChocoLang

/-- One condition of a chain of choices with its block. -/
structure Arm where
  /-- The span of the word that begins it. -/
  start : Span
  /-- The condition. -/
  condition : Expr
  /-- What is done if the condition holds and none before it does. -/
  body : List Stmt

/--
The statement that a chain of choices amounts to: each further condition is a statement of its own
in the second branch of the one before.  All of them stop where the chain stops.
-/
def Arm.chain (spanFrom : Span → Span) (otherwise : List Stmt) : List Arm → List Stmt
  | [] => otherwise
  | arm :: rest =>
    [.ifElse (.ofSpan (spanFrom arm.start)) arm.condition arm.body
      (Arm.chain spanFrom otherwise rest)]

namespace Parse

/-! ## Simple statements -/

/-- Reads the end of a function, with its result if there is one. -/
def returnStatement (expression : Parse Expr) : Parse Stmt := do
  let start ← advance
  if ← look fun cursor => cursor.kind == .newline || cursor.atEnd then
    return .ret (.ofSpan (← look (Cursor.spanFrom start.span))) none
  else
    let value ← expression
    return .ret (.ofSpan (← look (Cursor.spanFrom start.span))) (some value)

/-- Fails at the first of the targets that cannot be assigned. -/
def checkTargets (targets : List Expr) : Parse Unit :=
  match targets.find? (!·.isTarget) with
  | some target => throw ⟨.invalidTarget, target.span⟩
  | none => return

/-- Reads an expression, or an assignment of the last of several expressions to the others. -/
def expressionStatement (expression : Parse Expr) : Parse Stmt := do
  let start ← look (·.current.span)
  let first ← expression
  let rest ← itemsAfter (.symbol .assign) expression
  match rest.getLast? with
  | none => return .expr (.ofSpan (← look (Cursor.spanFrom start))) first
  | some value =>
    let targets := first :: rest.dropLast
    checkTargets targets
    return .assign (.ofSpan (← look (Cursor.spanFrom start))) targets value

/-- Reads a statement of one line; the empty statement yields none. -/
def simpleStatement (expression : Parse Expr) : Parse (Option Stmt) := do
  match ← look Cursor.kind with
  | .keyword .kwPass =>
    modify Cursor.advance
    return none
  | .keyword .kwReturn => return some (← returnStatement expression)
  | _ => return some (← expressionStatement expression)

/-! ## Compound statements -/

/-- Reads one condition and its block, from the word that begins it on. -/
def arm (expression : Parse Expr) (block : Parse (List Stmt)) : Parse Arm := do
  let start ← advance
  let condition ← expression
  expectSymbol .colon .colonAfterCondition
  let body ← block
  return { start := start.span, condition, body }

/-- Reads the block for when no condition holds, if there is one. -/
def alternative (block : Parse (List Stmt)) : Parse (List Stmt) := do
  if ← accept (.keyword .kwElse) then
    expectSymbol .colon .colonAfterElse
    block
  else return []

/-- Reads the further conditions of a chain, at most `bound` of them, and the last block. -/
def furtherArms (expression : Parse Expr) (block : Parse (List Stmt)) :
    (bound : Nat) → Parse (List Arm × List Stmt)
  | 0 => return ([], [])
  | bound + 1 => do
    if ← check (.keyword .kwElif) then
      let first ← arm expression block
      let (rest, otherwise) ← furtherArms expression block bound
      return (first :: rest, otherwise)
    else return ([], ← alternative block)

/-- Reads a choice, with the conditions chained to it. -/
def ifStatement (expression : Parse Expr) (block : Parse (List Stmt)) : Parse Stmt := do
  let first ← arm expression block
  let (rest, otherwise) ← furtherArms expression block (← look (·.ahead.length + 1))
  let cursor ← get
  let spanFrom := fun start => cursor.spanFrom start
  return .ifElse (.ofSpan (spanFrom first.start)) first.condition first.body
    (Arm.chain spanFrom otherwise rest)

/-- Reads a loop under a condition. -/
def whileStatement (expression : Parse Expr) (block : Parse (List Stmt)) : Parse Stmt := do
  let loop ← arm expression block
  return .whileLoop (.ofSpan (← look (Cursor.spanFrom loop.start))) loop.condition loop.body

/-- Reads a loop over the elements of a list or the characters of a string. -/
def forStatement (expression : Parse Expr) (block : Parse (List Stmt)) : Parse Stmt := do
  let start ← advance
  let element ← identifier .loopVariable
  let _ ← expect (.keyword .kwIn) .inAfterVariable
  let iterable ← expression
  expectSymbol .colon .colonAfterFor
  let body ← block
  return .forLoop (.ofSpan (← look (Cursor.spanFrom start.span))) element iterable body

/-- Reads a statement; the empty statement yields none. -/
def statement (expression : Parse Expr) (block : Parse (List Stmt)) : Parse (Option Stmt) := do
  match ← look Cursor.kind with
  | .indent => fail .unexpectedIndent
  | .keyword .kwIf => return some (← ifStatement expression block)
  | .keyword .kwWhile => return some (← whileStatement expression block)
  | .keyword .kwFor => return some (← forStatement expression block)
  | _ =>
    if ← look Cursor.atDeclaration then fail .strayDeclaration
    else
      let read ← simpleStatement expression
      lineEnd
      return read

/-- Reads one statement of a block and puts it behind the others; one in error is left out. -/
def blockStep (reader : Parse (Option Stmt)) (statements : List Stmt) :
    Recovering (List Stmt) :=
  recovering statements do
    let read ← reader
    return statements ++ read.toList

/-- Reads the end of a line and the beginning of an indented body. -/
def openBody (wanted : Expectation) : Parse Unit := do
  let _ ← expect .newline .newlineAfterColon
  let _ ← expect .indent wanted

/-- Reads an indented block, with room for so many levels of nesting. -/
def block : (room : Nat) → Parse (List Stmt)
  | 0 => fail .nestedTooDeeply
  | room + 1 => do
    openBody .block
    let statements ← ofRecovering (body (blockStep (statement (expression room) (block room))) [])
    let _ ← accept .dedent
    return statements

end Parse
end ChocoLang
