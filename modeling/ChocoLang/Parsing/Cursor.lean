import ChocoLang.Parsing.Error
import ChocoLang.Syntax

/-!
# Reading tokens

A cursor stands in a sequence of tokens.  It knows the tokens ahead of it, remembers the last token
behind it that carries text, and keeps the problems found on the way.  A reader of some phrase
moves the cursor forward and either returns what it read or fails with a problem; when it fails,
the cursor stays where the problem was found.
-/

namespace ChocoLang

/-- A place in a sequence of tokens. -/
structure Cursor where
  /-- The tokens ahead, up to the end of the file. -/
  ahead : List Token
  /-- The token that marks the end of the file. -/
  ending : Token
  /-- The span of the last token behind that is no layout, or at first of the first token. -/
  last : Span
  /-- How many tokens are behind. -/
  position : Nat
  /-- The problems recorded so far, oldest first. -/
  problems : List (Located SyntaxError)
deriving Repr

namespace Cursor

/-- The cursor before the first of some tokens, of which the first end of file ends the program. -/
def ofTokens (tokens : List Token) (nonempty : tokens ≠ []) : Cursor :=
  { ahead := tokens.takeWhile (·.kind != .endOfFile)
    ending := (tokens.find? (·.kind == .endOfFile)).getD (tokens.getLast nonempty)
    last := (tokens.head nonempty).span
    position := 0
    problems := [] }

/-- The token at the cursor. -/
def current (cursor : Cursor) : Token := cursor.ahead.headD cursor.ending

/-- The kind of the token at the cursor; the end of the file once all tokens are behind. -/
def kind (cursor : Cursor) : TokenKind :=
  match cursor.ahead with
  | [] => .endOfFile
  | token :: _ => token.kind

/-- No token is ahead. -/
def atEnd (cursor : Cursor) : Bool := cursor.ahead.isEmpty

/-- Moves past one token; at the end of the file the cursor stays. -/
def advance (cursor : Cursor) : Cursor :=
  match cursor.ahead with
  | [] => cursor
  | token :: rest =>
    { cursor with
      ahead := rest
      last := if token.kind.isLayout then cursor.last else token.span
      position := cursor.position + 1 }

/-- Moves past several tokens. -/
def advanceBy : Nat → Cursor → Cursor
  | 0, cursor => cursor
  | count + 1, cursor => advanceBy count cursor.advance

/-- Records a problem after all others. -/
def record (problem : Located SyntaxError) (cursor : Cursor) : Cursor :=
  { cursor with problems := cursor.problems ++ [problem] }

/-- The span from the start of one to the last text behind the cursor, if that is not before. -/
def spanFrom (start : Span) (cursor : Cursor) : Span :=
  if cursor.last.stop < start.start then start else start.through cursor.last

/-- A body of declarations or statements ends at the cursor. -/
def atBodyEnd (cursor : Cursor) : Bool := cursor.kind == .dedent || cursor.atEnd

/-- A declaration begins at the cursor: a definition, or a name with a colon behind it. -/
def atDeclaration (cursor : Cursor) : Bool :=
  match cursor.kind, cursor.ahead.tail.head?.map Token.kind with
  | .keyword .kwDef, _ | .keyword .kwClass, _ => true
  | .identifier, some (.symbol .colon) => true
  | _, _ => false

/-! ## Recovery -/

/--
How many tokens to skip to get past a statement in error: those up to the end of its line, with an
indented block that follows the line, but not the end of the block around it.  `depth` counts the
blocks opened on the way.
-/
def skipLength : (depth : Nat) → List Token → Nat
  | _, [] => 0
  | depth, token :: rest =>
    match token.kind, depth with
    | .indent, depth => 1 + skipLength (depth + 1) rest
    | .dedent, 0 => 0
    | .dedent, 1 => 1
    | .dedent, depth + 2 => 1 + skipLength (depth + 1) rest
    | .newline, 0 =>
      if (rest.head?.map Token.kind) == some .indent then 1 + skipLength 0 rest else 1
    | _, depth => 1 + skipLength depth rest

/--
Records a problem and moves to the next statement, in any case past the token at which the
statement in error began, `start` tokens from the beginning.
-/
def recover (start : Nat) (problem : Located SyntaxError) (cursor : Cursor) : Cursor :=
  let cursor := (cursor.record problem).advanceBy (skipLength 0 cursor.ahead)
  if cursor.position == start && !cursor.atBodyEnd then cursor.advance else cursor

end Cursor

/-! ## Readers -/

/-- A reader of a phrase, which can fail. -/
abbrev Parse (α : Type) := EStateM (Located SyntaxError) Cursor α

/-- A reader that deals with its failures itself. -/
abbrev Recovering (α : Type) := StateM Cursor α

namespace Parse

/-- Looks at the cursor. -/
def look {α : Type} (view : Cursor → α) : Parse α := do
  return view (← get)

/-- Fails with a problem at the token at the cursor. -/
def fail {α : Type} (error : SyntaxError) : Parse α := do
  throw ⟨error, (← look Cursor.current).span⟩

/-- Records a problem and goes on. -/
def record (error : SyntaxError) (span : Span) : Parse Unit :=
  modify (Cursor.record ⟨error, span⟩)

/-- Reads the token at the cursor, whatever it is. -/
def advance : Parse Token := do
  let token ← look Cursor.current
  modify Cursor.advance
  return token

/-- The token at the cursor is of a kind. -/
def check (kind : TokenKind) : Parse Bool := look fun cursor => cursor.kind == kind

/-- Reads the token at the cursor if it is of a kind, and tells whether it was. -/
def accept (kind : TokenKind) : Parse Bool := do
  if ← check kind then
    modify Cursor.advance
    return true
  else return false

/-- Reads a token of a kind, or fails. -/
def expect (kind : TokenKind) (wanted : Expectation) : Parse Token := do
  if ← check kind then advance else fail (.missing wanted (← look Cursor.current))

/-- Reads a symbol, or fails. -/
def expectSymbol (symbol : Symbol) (wanted : Expectation) : Parse Unit := do
  let _ ← expect (.symbol symbol) wanted

/-- Reads a name, or fails. -/
def identifier (wanted : Expectation) : Parse Identifier := do
  let token ← expect .identifier wanted
  return { info := .ofSpan token.span, name := token.value.display }

/-- Reads the end of a line, which the end of the file can stand for. -/
def lineEnd : Parse Unit := do
  unless ← accept .newline do
    unless ← look Cursor.atEnd do
      fail (.noLineEnd (← look Cursor.current))

/-- Reads further items as long as the separator stands before them, at most `bound` of them. -/
def furtherItems {α : Type} (separator : TokenKind) (item : Parse α) :
    (bound : Nat) → Parse (List α)
  | 0 => return []
  | bound + 1 => do
    if ← accept separator then
      let first ← item
      let rest ← furtherItems separator item bound
      return first :: rest
    else return []

/-- Reads the items that follow a first one, each after a separator. -/
def itemsAfter {α : Type} (separator : TokenKind) (item : Parse α) : Parse (List α) := do
  if ← check separator then furtherItems separator item (← look (·.ahead.length))
  else return []

/-- Reads items between commas, none if the closing symbol stands at the cursor. -/
def commaList {α : Type} (close : Symbol) (item : Parse α) : Parse (List α) := do
  if ← check (.symbol close) then return []
  else
    let first ← item
    let rest ← itemsAfter (.symbol .comma) item
    return first :: rest

/-- Lets a reader that deals with its failures be used as any reader. -/
def ofRecovering {α : Type} (reader : Recovering α) : Parse α := fun cursor =>
  let (value, cursor) := reader.run cursor
  .ok value cursor

/-- Reads something; on failure the problem is recorded and the rest of the statement skipped. -/
def recovering {α : Type} (fallback : α) (reader : Parse α) : Recovering α := fun cursor =>
  match reader.run cursor with
  | .ok value after => (value, after)
  | .error problem after => (fallback, after.recover cursor.position problem)

/-- Repeats a step until the cursor stops it, at most `bound` times. -/
def repeatUntil {σ : Type} (stop : Cursor → Bool) (step : σ → Recovering σ) :
    (bound : Nat) → σ → Recovering σ
  | 0, state => return state
  | bound + 1, state => do
    if stop (← get) then return state
    else
      let state ← step state
      repeatUntil stop step bound state

/-- Repeats a step to the end of the body, of which each step reads at least one token. -/
def body {σ : Type} (step : σ → Recovering σ) (state : σ) : Recovering σ := do
  repeatUntil Cursor.atBodyEnd step (← get).ahead.length state

end Parse
end ChocoLang
