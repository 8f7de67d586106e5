import ChocoLang.Parsing.Program

/-!
# Readers move on

Whatever a reader of tokens returns or fails with, it only leaves tokens behind and records
problems.  So the cursor afterwards stands further on in the same tokens, with all problems recorded
before still in front of the new ones.  A reader of what stands in one line does not even record
anything: what holds along a way on which tokens are left behind holds after it.  The instances
below say so for every reader, so that the fact is found wherever it is needed.
-/

namespace ChocoLang

/-! ## Order of cursors -/

/-- The second cursor stands further on in the same tokens and knows all problems of the first. -/
structure Cursor.Onward (before after : Cursor) : Prop where
  /-- Tokens are only left behind. -/
  ahead : after.ahead <:+ before.ahead
  /-- Problems are only added, behind all others. -/
  problems : before.problems <+: after.problems
  /-- The end of the file stays the same. -/
  ending : after.ending = before.ending
  /-- Every token that is no longer ahead is behind. -/
  position : after.position + after.ahead.length = before.position + before.ahead.length

namespace Cursor.Onward

variable {first second third : Cursor}

theorem refl (cursor : Cursor) : cursor.Onward cursor :=
  ⟨List.suffix_rfl, List.prefix_rfl, rfl, rfl⟩

theorem trans (before : first.Onward second) (after : second.Onward third) :
    first.Onward third :=
  ⟨after.ahead.trans before.ahead, before.problems.trans after.problems,
    after.ending.trans before.ending, after.position.trans before.position⟩

theorem advance (cursor : Cursor) : cursor.Onward cursor.advance := by
  unfold Cursor.advance
  split
  · exact refl cursor
  · next token rest shape =>
      refine ⟨by simp [shape], List.prefix_rfl, rfl, ?_⟩
      simp only [shape, List.length_cons]
      omega

theorem record (problem : Located SyntaxError) (cursor : Cursor) :
    cursor.Onward (cursor.record problem) :=
  ⟨List.suffix_rfl, List.prefix_append _ _, rfl, rfl⟩

end Cursor.Onward

/-- The second cursor is reached from the first by leaving tokens behind and recording problems. -/
inductive Cursor.Moves (first : Cursor) : Cursor → Prop where
  /-- Nothing is done. -/
  | refl : first.Moves first
  /-- One more token is left behind. -/
  | advance {cursor : Cursor} (moves : first.Moves cursor) : first.Moves cursor.advance
  /-- One more problem is recorded. -/
  | record {cursor : Cursor} (moves : first.Moves cursor) (problem : Located SyntaxError) :
      first.Moves (cursor.record problem)

namespace Cursor.Moves

variable {first second third cursor : Cursor}

theorem trans (before : first.Moves second) (after : second.Moves third) : first.Moves third := by
  induction after with
  | refl => exact before
  | advance _ ih => exact ih.advance
  | record _ problem ih => exact ih.record problem

/-- What every token left behind and every problem recorded leaves true stays true. -/
theorem keeps {property : Cursor → Prop} (moves : first.Moves second)
    (advance : ∀ cursor : Cursor, property cursor → property cursor.advance)
    (record : ∀ (problem : Located SyntaxError) (cursor : Cursor), property cursor →
      property (cursor.record problem))
    (holds : property first) : property second := by
  induction moves with
  | refl => exact holds
  | advance _ ih => exact advance _ ih
  | record _ problem ih => exact record problem _ ih

theorem onward (moves : first.Moves second) : first.Onward second :=
  moves.keeps (fun cursor before => before.trans (Onward.advance cursor))
    (fun problem cursor before => before.trans (Onward.record problem cursor)) (Onward.refl first)

theorem advanceBy (count : Nat) (moves : first.Moves cursor) :
    first.Moves (cursor.advanceBy count) := by
  induction count generalizing cursor with
  | zero => exact moves
  | succ count ih => exact ih moves.advance

/-- Recovery moves on with the problem recorded. -/
theorem recovered (start : Nat) (problem : Located SyntaxError) (cursor : Cursor) :
    (cursor.record problem).Moves (cursor.recover start problem) := by
  unfold Cursor.recover
  have skipped : (cursor.record problem).Moves
      ((cursor.record problem).advanceBy (skipLength 0 cursor.ahead)) := refl.advanceBy _
  dsimp only
  split
  · exact skipped.advance
  · exact skipped

theorem recover (start : Nat) (problem : Located SyntaxError) (cursor : Cursor) :
    cursor.Moves (cursor.recover start problem) :=
  (refl.record problem).trans (recovered start problem cursor)

end Cursor.Moves

namespace Cursor.Onward

theorem advanceBy (count : Nat) (cursor : Cursor) : cursor.Onward (cursor.advanceBy count) :=
  (Moves.refl.advanceBy count).onward

theorem recovered (start : Nat) (problem : Located SyntaxError) (cursor : Cursor) :
    (cursor.record problem).Onward (cursor.recover start problem) :=
  (Moves.recovered start problem cursor).onward

theorem recover (start : Nat) (problem : Located SyntaxError) (cursor : Cursor) :
    cursor.Onward (cursor.recover start problem) :=
  (Moves.recover start problem cursor).onward

end Cursor.Onward

namespace Parse

variable {α β σ : Type}

/-- The cursor after reading, whether or not the reader failed. -/
def stop (reader : Parse α) (cursor : Cursor) : Cursor :=
  match reader cursor with
  | .ok _ after => after
  | .error _ after => after

/-- A relation between cursors that holds along every way on which tokens are left behind. -/
structure Trail where
  /-- What holds between the ends of a way. -/
  relation : Cursor → Cursor → Prop
  /-- Nothing may be done. -/
  refl : ∀ cursor, relation cursor cursor
  /-- Two ways, one behind the other, are one. -/
  trans : ∀ {first second third}, relation first second → relation second third →
    relation first third
  /-- A token may be left behind. -/
  advance : ∀ cursor : Cursor, relation cursor cursor.advance

/-- The trail of moves. -/
abbrev Trail.moves : Trail where
  relation := Cursor.Moves
  refl _ := .refl
  trans := .trans
  advance _ := .advance .refl

/-- Wherever the reader starts, it follows the trail, whether or not it fails. -/
class Follows (trail : Trail) (reader : Parse α) : Prop where
  /-- The cursor is related to the one afterwards. -/
  follows : ∀ cursor, trail.relation cursor (reader.stop cursor)

/-- Wherever the reader starts, it only moves on. -/
abbrev Forward (reader : Parse α) : Prop := Follows .moves reader

/-- Wherever a reader that deals with its failures starts, it only moves on. -/
class Recovering.Forward (reader : Recovering α) : Prop where
  /-- The cursor afterwards is reached by moves. -/
  moves : ∀ cursor : Cursor, cursor.Moves (reader cursor).2

/-- The cursor after a reader is reached by moves. -/
theorem moves_stop (reader : Parse α) [forward : Forward reader] (cursor : Cursor) :
    cursor.Moves (reader.stop cursor) :=
  forward.follows cursor

/-- The cursor after a reader that deals with its failures is reached by moves. -/
theorem Recovering.moves_snd (reader : Recovering α) [forward : Recovering.Forward reader]
    (cursor : Cursor) : cursor.Moves (reader cursor).2 :=
  forward.moves cursor

/-- The cursor after a reader is further on. -/
theorem onward_stop (reader : Parse α) [Forward reader] (cursor : Cursor) :
    cursor.Onward (reader.stop cursor) :=
  (moves_stop reader cursor).onward

/-- The cursor after a reader that deals with its failures is further on. -/
theorem Recovering.onward_snd (reader : Recovering α) [Recovering.Forward reader]
    (cursor : Cursor) : cursor.Onward (reader cursor).2 :=
  (Recovering.moves_snd reader cursor).onward

/-! ## Composition -/

theorem stop_of_ok {reader : Parse α} {cursor after : Cursor} {value : α}
    (ok : reader cursor = .ok value after) : reader.stop cursor = after := by
  rw [stop, ok]

theorem stop_of_error {reader : Parse α} {cursor after : Cursor} {problem : Located SyntaxError}
    (failed : reader cursor = .error problem after) : reader.stop cursor = after := by
  rw [stop, failed]

theorem stop_bind (reader : Parse α) (next : α → Parse β) (cursor : Cursor) :
    (reader >>= next).stop cursor =
      match reader cursor with
      | .ok value after => (next value).stop after
      | .error _ after => after := by
  simp only [stop, bind, EStateM.bind]
  split <;> split <;> simp_all

section Readers

variable {trail : Trail}

instance Follows.bind (reader : Parse α) (next : α → Parse β) [Follows trail reader]
    [∀ value, Follows trail (next value)] : Follows trail (reader >>= next) where
  follows cursor := by
    have first : trail.relation cursor (reader.stop cursor) := Follows.follows cursor
    rw [stop_bind]
    split
    · next value after ok =>
        rw [stop_of_ok ok] at first
        exact trail.trans first (Follows.follows after)
    · next problem after failed => rwa [stop_of_error failed] at first

instance (value : α) : Follows trail (pure value : Parse α) where
  follows := trail.refl

instance (condition : Prop) [Decidable condition] (yes no : Parse α) [Follows trail yes]
    [Follows trail no] : Follows trail (if condition then yes else no) where
  follows cursor := by
    split
    · exact Follows.follows cursor
    · exact Follows.follows cursor

instance (view : Cursor → α) : Follows trail (look view) where
  follows := trail.refl

instance : Follows trail (get : Parse Cursor) where
  follows := trail.refl

instance (problem : Located SyntaxError) : Follows trail (throw problem : Parse α) where
  follows := trail.refl

instance (error : SyntaxError) : Follows trail (fail error : Parse α) where
  follows := trail.refl

instance : Follows trail (modify Cursor.advance : Parse Unit) where
  follows := trail.advance

/-! ## Tokens -/

instance : Follows trail advance := by unfold advance; infer_instance

instance (kind : TokenKind) : Follows trail (check kind) := by unfold check; infer_instance

instance (kind : TokenKind) : Follows trail (accept kind) := by unfold accept; infer_instance

instance (kind : TokenKind) (wanted : Expectation) : Follows trail (expect kind wanted) := by
  unfold expect; infer_instance

instance (symbol : Symbol) (wanted : Expectation) : Follows trail (expectSymbol symbol wanted) := by
  unfold expectSymbol; infer_instance

instance (wanted : Expectation) : Follows trail (identifier wanted) := by
  unfold identifier; infer_instance

instance : Follows trail lineEnd := by unfold lineEnd; infer_instance

/-! ## Lists -/

section Lists

variable (separator : TokenKind) (close : Symbol) (item : Parse α) [Follows trail item]

instance (bound : Nat) : Follows trail (furtherItems separator item bound) := by
  induction bound with
  | zero => unfold furtherItems; infer_instance
  | succ bound ih => unfold furtherItems; infer_instance

instance : Follows trail (itemsAfter separator item) := by unfold itemsAfter; infer_instance

instance : Follows trail (commaList close item) := by unfold commaList; infer_instance

end Lists

/-! ## Types and expressions -/

instance (room : Nat) : Follows trail (writtenType room) := by
  induction room with
  | zero => unfold writtenType; infer_instance
  | succ room ih =>
      unfold writtenType
      refine @Follows.bind _ _ _ _ _ inferInstance fun token => ?_
      split <;> infer_instance

instance (room : Nat) : Follows trail (typedVar room) := by unfold typedVar; infer_instance

section Expressions

variable (expression : Parse Expr) [Follows trail expression]

instance : Follows trail (primary expression) := by
  unfold primary
  refine @Follows.bind _ _ _ _ _ inferInstance fun token => ?_
  split
  · infer_instance
  · split <;> infer_instance

instance : Follows trail (arguments expression) := by unfold arguments; infer_instance

instance (start : Span) (object : Expr) : Follows trail (fieldOf expression start object) := by
  unfold fieldOf; infer_instance

instance (start : Span) (container : Expr) : Follows trail (elementOf expression start container) := by
  unfold elementOf; infer_instance

instance (start paren : Span) (callee : Expr) :
    Follows trail (callOf expression start paren callee) := by
  unfold callOf
  split <;> infer_instance

end Expressions

section Operators

variable (expression : Precedence → Parse Expr) [∀ floor, Follows trail (expression floor)]

instance (floor : Precedence) : Follows trail (operand expression floor) := by
  unfold operand
  refine @Follows.bind _ _ _ _ _ inferInstance fun token => ?_
  split <;> infer_instance

instance (start : Span) (chosen : Expr) : Follows trail (choiceOf expression start chosen) := by
  unfold choiceOf; infer_instance

instance (start : Span) (operator : BinaryOperator) (left : Expr) :
    Follows trail (operationOf expression start operator left) := by
  unfold operationOf; infer_instance

instance (start : Span) (left : Expr) (next : Continuation) :
    Follows trail (continuation expression start left next) := by
  unfold continuation
  refine @Follows.bind _ _ _ _ _ inferInstance fun token => ?_
  split <;> infer_instance

end Operators

/-- Both readers of expressions recur on the room for nesting, and so does this proof. -/
theorem follows_expression (room : Nat) :
    (∀ floor, Follows trail (expressionAbove room floor)) ∧
      ∀ floor start left, Follows trail (continued room floor start left) := by
  induction room with
  | zero =>
      refine ⟨fun floor => ?_, fun floor start left => ?_⟩
      · unfold expressionAbove; infer_instance
      · unfold continued
        refine @Follows.bind _ _ _ _ _ inferInstance fun next => ?_
        split <;> infer_instance
  | succ room ih =>
      obtain ⟨expressions, continuations⟩ := ih
      refine ⟨fun floor => ?_, fun floor start left => ?_⟩
      · unfold expressionAbove; infer_instance
      · unfold continued
        refine @Follows.bind _ _ _ _ _ inferInstance fun next => ?_
        split <;> infer_instance

instance (room : Nat) (floor : Precedence) : Follows trail (expressionAbove room floor) :=
  (follows_expression room).1 floor

instance (room : Nat) (floor : Precedence) (start : Span) (left : Expr) :
    Follows trail (continued room floor start left) :=
  (follows_expression room).2 floor start left

instance (room : Nat) : Follows trail (expression room) := by unfold expression; infer_instance

/-! ## Parts of statements and declarations -/

instance (targets : List Expr) : Follows trail (checkTargets targets) := by
  unfold checkTargets
  split <;> infer_instance

instance : Follows trail initializer := by
  unfold initializer
  refine @Follows.bind _ _ _ _ _ inferInstance fun token => ?_
  split <;> infer_instance

instance (room : Nat) (paren : Span) : Follows trail (resultType room paren) := by
  unfold resultType; infer_instance

end Readers

/-! ## Recovery -/

instance (error : SyntaxError) (span : Span) : Forward (record error span) where
  follows _ := .record .refl ⟨error, span⟩

theorem ofRecovering_apply (reader : Recovering α) (cursor : Cursor) :
    ofRecovering reader cursor = .ok (reader cursor).1 (reader cursor).2 :=
  rfl

instance (reader : Recovering α) [Recovering.Forward reader] : Forward (ofRecovering reader) where
  follows cursor := Recovering.moves_snd reader cursor

instance (fallback : α) (reader : Parse α) [Forward reader] :
    Recovering.Forward (recovering fallback reader) where
  moves cursor := by
    have first := moves_stop reader cursor
    unfold stop at first
    simp only [recovering, EStateM.run]
    split
    · next value after shape => simpa only [shape] using first
    · next problem after shape =>
        simp only [shape] at first
        exact first.trans (Cursor.Moves.recover _ _ after)

instance (halt : Cursor → Bool) (step : σ → Recovering σ) [∀ state, Recovering.Forward (step state)]
    (bound : Nat) (state : σ) : Recovering.Forward (repeatUntil halt step bound state) where
  moves cursor := by
    induction bound generalizing state cursor with
    | zero => exact .refl
    | succ bound ih =>
        simp only [repeatUntil, bind, StateT.bind, get, getThe, MonadStateOf.get, StateT.get, pure]
        split
        · exact .refl
        · exact (Recovering.Forward.moves cursor).trans (ih _ _)

instance (step : σ → Recovering σ) [∀ state, Recovering.Forward (step state)] (state : σ) :
    Recovering.Forward (body step state) where
  moves cursor :=
    Recovering.moves_snd (repeatUntil Cursor.atBodyEnd step cursor.ahead.length state) cursor

/-! ## Statements -/

section Statements

variable (expression : Parse Expr) (block : Parse (List Stmt)) [Forward expression] [Forward block]

instance : Forward (returnStatement expression) := by unfold returnStatement; infer_instance

/-- The statement that an expression and those behind further signs of assignment make up. -/
def statementOf (start : Span) (first : Expr) (others : List Expr) : Parse Stmt := do
  match others.getLast? with
  | none => return .expr (.ofSpan (← look (Cursor.spanFrom start))) first
  | some value =>
    checkTargets (first :: others.dropLast)
    return .assign (.ofSpan (← look (Cursor.spanFrom start))) (first :: others.dropLast) value

instance (start : Span) (first : Expr) (others : List Expr) :
    Forward (statementOf start first others) := by
  unfold statementOf
  split <;> infer_instance

omit [Forward expression] in
theorem expressionStatement_eq :
    expressionStatement expression = (do
      let start ← look (·.current.span)
      let first ← expression
      let others ← itemsAfter (.symbol .assign) expression
      statementOf start first others) := rfl

instance : Forward (expressionStatement expression) := by
  rw [expressionStatement_eq]; infer_instance

instance : Forward (simpleStatement expression) := by
  unfold simpleStatement
  refine @Follows.bind _ _ _ _ _ inferInstance fun kind => ?_
  split <;> infer_instance

instance : Forward (arm expression block) := by unfold arm; infer_instance

instance : Forward (alternative block) := by unfold alternative; infer_instance

instance (bound : Nat) : Forward (furtherArms expression block bound) := by
  induction bound with
  | zero => unfold furtherArms; infer_instance
  | succ bound ih => unfold furtherArms; infer_instance

instance : Forward (ifStatement expression block) := by unfold ifStatement; infer_instance

instance : Forward (whileStatement expression block) := by unfold whileStatement; infer_instance

instance : Forward (forStatement expression block) := by unfold forStatement; infer_instance

instance : Forward (statement expression block) := by
  unfold statement
  refine @Follows.bind _ _ _ _ _ inferInstance fun kind => ?_
  split <;> infer_instance

end Statements

instance (reader : Parse (Option Stmt)) [Forward reader] (statements : List Stmt) :
    Recovering.Forward (blockStep reader statements) := by
  unfold blockStep; infer_instance

instance (wanted : Expectation) : Forward (openBody wanted) := by unfold openBody; infer_instance

instance (room : Nat) : Forward (block room) := by
  induction room with
  | zero => unfold block; infer_instance
  | succ room ih => unfold block; infer_instance

/-! ## Declarations -/

instance (room : Nat) : Forward (variableDefinition room) := by
  unfold variableDefinition; infer_instance

instance : Forward outerVariable := by unfold outerVariable; infer_instance

instance : Forward classHeader := by unfold classHeader; infer_instance

instance (declaration : Parse (Option Decl)) [Forward declaration] :
    Forward (classMember declaration) := by
  unfold classMember; infer_instance

instance (declaration : Parse (Option Decl)) [Forward declaration] (members : List Decl) :
    Recovering.Forward (classStep declaration members) := by
  unfold classStep; infer_instance

instance (decl : Decl) : Forward (rejectNested decl) := by unfold rejectNested; infer_instance

section Functions

variable (room : Nat) (function : Parse Decl) [Forward function]

/-- Reads a declaration in a class, in which at most `bound` classes lie one within the other. -/
def memberReader (bound : Nat) : Parse (Option Decl) := do
  match ← look Cursor.kind with
  | .keyword .kwDef => return some (← function)
  | .keyword .kwClass => rejectNested (← classDefinition room function bound)
  | _ => return some (← variableDefinition room)

omit [Forward function] in
theorem classDefinition_succ (bound : Nat) :
    classDefinition room function (bound + 1) = (do
      let (start, name, superclass) ← classHeader
      let members ← ofRecovering (body (classStep (memberReader room function bound)) [])
      let _ ← accept .dedent
      return .classDef (.ofSpan (← look (Cursor.spanFrom start))) name superclass members) := rfl

theorem forward_memberReader (bound : Nat)
    (nested : Forward (classDefinition room function bound)) :
    Forward (memberReader room function bound) := by
  unfold memberReader
  refine @Follows.bind _ _ _ _ _ inferInstance fun kind => ?_
  split <;> infer_instance

instance (bound : Nat) : Forward (classDefinition room function bound) := by
  induction bound with
  | zero => unfold classDefinition; infer_instance
  | succ bound ih =>
      have member := forward_memberReader room function bound ih
      rw [classDefinition_succ]
      infer_instance

instance (bound : Nat) : Forward (memberReader room function bound) :=
  forward_memberReader room function bound inferInstance

instance : Forward (classDeclaration room function) := by unfold classDeclaration; infer_instance

instance : Forward (innerDeclaration room function) := by
  unfold innerDeclaration
  refine @Follows.bind _ _ _ _ _ inferInstance fun kind => ?_
  split <;> infer_instance

end Functions

instance (room : Nat) : Forward (functionHeading room) := by
  unfold functionHeading; infer_instance

instance (body : FunctionBody) (decl : Decl) : Forward (body.declare decl) := by
  unfold FunctionBody.declare; infer_instance

instance (inner : Parse (Option Decl)) [Forward inner] : Forward (functionDeclaration inner) := by
  unfold functionDeclaration
  refine @Follows.bind _ _ _ _ _ inferInstance fun kind => ?_
  split <;> infer_instance

/-- Puts what was read into a body, if it is a declaration. -/
def FunctionBody.take (body : FunctionBody) : Option Decl → Parse FunctionBody
  | some decl => body.declare decl
  | none => return body

instance (body : FunctionBody) (read : Option Decl) : Forward (body.take read) := by
  unfold FunctionBody.take
  split <;> infer_instance

/-- A step of a function body reads what the token at the cursor begins. -/
theorem functionStep_apply (inner : Parse (Option Decl)) (reader : Parse (Option Stmt))
    (body : FunctionBody) (cursor : Cursor) :
    functionStep inner reader body cursor =
      if atFunctionDeclaration cursor then
        recovering body (do body.take (← functionDeclaration inner)) cursor
      else
        recovering { body with hasStatement := true } (do
          let read ← reader
          return { body with
            hasStatement := true
            statements := body.statements ++ read.toList }) cursor := by
  change (if atFunctionDeclaration cursor then _ else _ : Recovering FunctionBody) cursor = _
  split <;> rfl

instance (inner : Parse (Option Decl)) (reader : Parse (Option Stmt)) [Forward inner]
    [Forward reader] (body : FunctionBody) :
    Recovering.Forward (functionStep inner reader body) where
  moves cursor := by
    rw [functionStep_apply]
    split
    · exact Recovering.Forward.moves cursor
    · exact Recovering.Forward.moves cursor

instance (room : Nat) : Forward (functionDefinition room) := by
  induction room with
  | zero => unfold functionDefinition; infer_instance
  | succ room ih => unfold functionDefinition; infer_instance

/-! ## Programs -/

instance : Forward topDeclaration := by
  unfold topDeclaration
  refine @Follows.bind _ _ _ _ _ inferInstance fun kind => ?_
  split <;> infer_instance

instance (body : ProgramBody) (decl : Decl) : Forward (declareIn body decl) := by
  unfold declareIn; infer_instance

/-- A step of a program reads what the token at the cursor begins. -/
theorem programStep_apply (body : ProgramBody) (cursor : Cursor) :
    programStep body cursor =
      if cursor.kind == .dedent then (body, cursor.advance)
      else if cursor.atDeclaration then
        recovering body (do declareIn body (← topDeclaration)) cursor
      else
        recovering body (do
          let read ← statement (expression nestingLimit) (block nestingLimit)
          return { body with statements := body.statements ++ read.toList }) cursor := by
  change (if cursor.kind == .dedent then _ else _ : Recovering ProgramBody) cursor = _
  split
  · rfl
  · split <;> rfl

instance (body : ProgramBody) : Recovering.Forward (programStep body) where
  moves cursor := by
    rw [programStep_apply]
    split
    · exact .advance .refl
    · split
      · exact Recovering.Forward.moves cursor
      · exact Recovering.Forward.moves cursor

instance : Recovering.Forward programBody where
  moves cursor :=
    Recovering.moves_snd (repeatUntil Cursor.atEnd programStep cursor.ahead.length {}) cursor

end Parse
end ChocoLang
