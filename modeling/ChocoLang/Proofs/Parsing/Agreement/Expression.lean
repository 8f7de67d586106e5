import ChocoLang.Proofs.Parsing.Enclosing

/-!
# Two runs side by side

A reader does not look behind the token next to those that it passes.  Two runs of a reader on tokens
that begin alike do the same, as long as the first one stops before the tokens differ: they return
the same or fail with the same problem, pass the same tokens and record the same.
-/

namespace ChocoLang

/-- Where the tokens of two runs begin to differ, and what is known by then in each of them. -/
structure Fork where
  /-- The tokens of the first run from there on. -/
  rest : List Token
  /-- The tokens of the second run from there on. -/
  rest' : List Token
  /-- The problems known in the first run. -/
  known : List (Located SyntaxError)
  /-- The problems known in the second run. -/
  known' : List (Located SyntaxError)
  /-- The token that marks the end of the file. -/
  ending : Token
  /-- The first token, if there is one, is still the same. -/
  head : rest.head? = rest'.head?
  /-- This token is no name, so that the one behind it is not looked at with it. -/
  plain : kindAt rest ≠ .identifier
  /-- The end of the file is marked. -/
  closed : ending.kind = .endOfFile

/-- The cursors of two runs stand at the same place, and the same has happened before. -/
structure Cursor.Alike (fork : Fork) (one other : Cursor) : Prop where
  /-- The same tokens are ahead up to where they begin to differ. -/
  tokens : ∃ front, one.ahead = front ++ fork.rest ∧ other.ahead = front ++ fork.rest'
  /-- The same problems have been found since. -/
  problems : ∃ found, one.problems = fork.known ++ found ∧ other.problems = fork.known' ++ found
  /-- The same text is behind. -/
  last : one.last = other.last
  /-- The files end with the same token. -/
  ending : one.ending = fork.ending
  ending' : other.ending = fork.ending

namespace Cursor.Alike

variable {fork : Fork} {one other : Cursor}

theorem head?_ahead (alike : one.Alike fork other) : one.ahead.head? = other.ahead.head? := by
  obtain ⟨front, ahead, ahead'⟩ := alike.tokens
  rw [ahead, ahead']
  cases front with
  | nil => exact fork.head
  | cons token front => rfl

theorem kind (alike : one.Alike fork other) : one.kind = other.kind := by
  rw [kind_eq_kindAt, kind_eq_kindAt, kindAt_congr alike.head?_ahead]

theorem current (alike : one.Alike fork other) : one.current = other.current := by
  unfold Cursor.current
  rw [List.headD_eq_head?_getD, List.headD_eq_head?_getD, alike.head?_ahead, alike.ending,
    alike.ending']

theorem atEnd (alike : one.Alike fork other) : one.atEnd = other.atEnd := by
  have head := alike.head?_ahead
  unfold Cursor.atEnd
  cases shape : one.ahead <;> cases shape' : other.ahead <;> simp_all

theorem atBodyEnd (alike : one.Alike fork other) : one.atBodyEnd = other.atBodyEnd := by
  unfold Cursor.atBodyEnd
  rw [alike.kind, alike.atEnd]

theorem atDeclaration (alike : one.Alike fork other) :
    one.atDeclaration = other.atDeclaration := by
  have same := alike.kind
  obtain ⟨front, ahead, ahead'⟩ := alike.tokens
  unfold Cursor.atDeclaration
  rw [← same]
  cases front with
  | nil =>
      have plain : one.kind ≠ .identifier := by
        rw [kind_eq_kindAt, ahead]
        exact fork.plain
      split <;> split <;> simp_all
  | cons token front =>
      have next : one.ahead.tail.head? = other.ahead.tail.head? := by
        rw [ahead, ahead']
        cases front with
        | nil => exact fork.head
        | cons second front => rfl
      rw [next]

theorem closed (alike : one.Alike fork other) : one.Closed := by
  rw [Closed, alike.ending]
  exact fork.closed

theorem closed' (alike : one.Alike fork other) : other.Closed := by
  rw [Closed, alike.ending']
  exact fork.closed

theorem record (alike : one.Alike fork other) (problem : Located SyntaxError) :
    (one.record problem).Alike fork (other.record problem) := by
  obtain ⟨found, problems, problems'⟩ := alike.problems
  refine ⟨alike.tokens, ⟨found ++ [problem], ?_, ?_⟩, alike.last, alike.ending, alike.ending'⟩
  · simp [Cursor.record, problems]
  · simp [Cursor.record, problems']

/-- Passing a token before the tokens differ. -/
theorem advance (alike : one.Alike fork other) (within : fork.rest <:+ one.advance.ahead) :
    one.advance.Alike fork other.advance := by
  obtain ⟨front, ahead, ahead'⟩ := alike.tokens
  cases front with
  | nil =>
      have none : fork.rest = [] := by
        have short := within.length_le
        rw [ahead_advance, ahead, List.nil_append, List.length_tail] at short
        exact List.eq_nil_of_length_eq_zero (by omega)
      have none' : fork.rest' = [] := by
        have head := fork.head
        rw [none] at head
        simpa using head.symm
      rwa [advance_of_nil (ahead.trans none), advance_of_nil (ahead'.trans none')]
  | cons token front =>
      rw [advance_of_cons ahead, advance_of_cons ahead']
      exact ⟨⟨front, rfl, rfl⟩, alike.problems, by simp only [alike.last], alike.ending,
        alike.ending'⟩

/-- Passing several tokens before the tokens differ. -/
theorem advanceBy (alike : one.Alike fork other) (count : Nat)
    (within : fork.rest <:+ (one.advanceBy count).ahead) :
    (one.advanceBy count).Alike fork (other.advanceBy count) := by
  induction count generalizing one other with
  | zero => exact alike
  | succ count ih =>
      have first : fork.rest <:+ one.advance.ahead :=
        within.trans (Onward.advanceBy count one.advance).ahead
      exact ih (alike.advance first) within

/-- Recovery skips the same before the tokens differ. -/
theorem recover (alike : one.Alike fork other) {start start' : Nat}
    (reached : start ≤ one.position) (reached' : start' ≤ other.position)
    (problem : Located SyntaxError)
    (within : fork.rest <:+ (one.recover start problem).ahead) :
    (one.recover start problem).Alike fork (other.recover start' problem) := by
  obtain ⟨front, ahead, ahead'⟩ := alike.tokens
  rw [recover_eq reached] at within ⊢
  rw [recover_eq reached']
  have same : skipLength 0 other.ahead = skipLength 0 one.ahead := by
    have fits := within.length_le
    have inside := skipLength_le 0 one.ahead
    simp only [ahead_advanceBy, List.length_drop, Cursor.record] at fits
    rw [ahead, List.length_append] at fits inside
    rw [ahead, ahead']
    exact skipLength_append_congr fork.head 0 (by omega)
  rw [same]
  exact (alike.record problem).advanceBy _ within

theorem spanFrom (alike : one.Alike fork other) (start : Span) :
    Cursor.spanFrom start one = Cursor.spanFrom start other := by
  unfold Cursor.spanFrom
  rw [alike.last]

end Cursor.Alike

/-- The view shows the same of two cursors that stand at the same place. -/
class Cursor.Shared {β : Type} (view : Cursor → β) : Prop where
  /-- The views are the same. -/
  same : ∀ {fork : Fork} {one other : Cursor}, one.Alike fork other → view one = view other

namespace Cursor

instance : Shared Cursor.current := ⟨Alike.current⟩

instance : Shared Cursor.kind := ⟨Alike.kind⟩

instance : Shared Cursor.atEnd := ⟨Alike.atEnd⟩

instance : Shared Cursor.atBodyEnd := ⟨Alike.atBodyEnd⟩

instance : Shared Cursor.atDeclaration := ⟨Alike.atDeclaration⟩

instance (start : Span) : Shared (Cursor.spanFrom start) := ⟨fun alike => alike.spanFrom start⟩

instance : Shared fun cursor => cursor.current.span := ⟨fun alike => by rw [alike.current]⟩

instance (kind : TokenKind) : Shared fun cursor => cursor.kind == kind :=
  ⟨fun alike => by rw [alike.kind]⟩

instance (kind : TokenKind) : Shared fun cursor => cursor.kind == kind || cursor.atEnd :=
  ⟨fun alike => by rw [alike.kind, alike.atEnd]⟩

instance : Shared Parse.atComparison :=
  ⟨fun alike => by rw [Parse.atComparison, Parse.atComparison, alike.kind]⟩

instance (floor : Precedence) : Shared (Parse.continuationAbove? floor) :=
  ⟨fun alike => by rw [Parse.continuationAbove?, Parse.continuationAbove?, alike.kind]⟩

instance : Shared Parse.atFunctionDeclaration :=
  ⟨fun alike => by
    rw [Parse.atFunctionDeclaration, Parse.atFunctionDeclaration, alike.kind, alike.atDeclaration]⟩

end Cursor

namespace Parse

variable {α β σ : Type}

/-- Both runs return the same or fail with the same problem, and go on at the same place. -/
inductive Agree (fork : Fork) :
    EStateM.Result (Located SyntaxError) Cursor α →
      EStateM.Result (Located SyntaxError) Cursor α → Prop where
  | ok {value : α} {one other : Cursor} (alike : one.Alike fork other) :
      Agree fork (.ok value one) (.ok value other)
  | error {problem : Located SyntaxError} {one other : Cursor} (alike : one.Alike fork other) :
      Agree fork (.error problem one) (.error problem other)

/-- Started at the same place, both readers agree if the first one stops before the tokens differ. -/
def Relates (fork : Fork) (reader reader' : Parse α) : Prop :=
  ∀ ⦃one other : Cursor⦄, one.Alike fork other → fork.rest <:+ (reader.stop one).ahead →
    Agree fork (reader one) (reader' other)

/-- Two runs of the reader agree. -/
class Agrees (reader : Parse α) : Prop where
  /-- The runs agree wherever the tokens differ behind them. -/
  agrees : ∀ fork : Fork, Relates fork reader reader

/-- The same of a reader that deals with its failures itself. -/
class Recovering.Agrees (reader : Recovering α) : Prop where
  /-- The runs agree wherever the tokens differ behind them. -/
  agrees : ∀ {fork : Fork} {one other : Cursor}, one.Alike fork other →
    fork.rest <:+ (reader one).2.ahead →
      (reader one).1 = (reader other).1 ∧ (reader one).2.Alike fork (reader other).2

/-! ## Composition -/

theorem Relates.bind {fork : Fork} {reader reader' : Parse α} {next next' : α → Parse β}
    [∀ value, Forward (next value)] (first : Relates fork reader reader')
    (second : ∀ value, Relates fork (next value) (next' value)) :
    Relates fork (reader >>= next) (reader' >>= next') := by
  intro one other alike within
  cases read : reader one with
  | ok value after =>
      have whole : (reader >>= next).stop one = (next value).stop after := by
        simp only [stop, bind_of_ok read]
      rw [whole] at within
      have agree := first alike (by
        rw [stop_of_ok read]
        exact within.trans (onward_stop (next value) after).ahead)
      rw [read] at agree
      generalize shape : reader' other = result at agree
      cases agree with
      | ok alike =>
          rw [bind_of_ok read, bind_of_ok shape]
          exact second value alike within
  | error problem after =>
      rw [stop_of_error (bind_of_error read)] at within
      have agree := first alike (by rwa [stop_of_error read])
      rw [read] at agree
      generalize shape : reader' other = result at agree
      cases agree with
      | error alike =>
          rw [bind_of_error read, bind_of_error shape]
          exact .error alike

theorem relates_look {fork : Fork} {view view' : Cursor → α}
    (same : ∀ {one other : Cursor}, one.Alike fork other → view one = view' other) :
    Relates fork (look view) (look view') := by
  intro one other alike _
  change Agree fork (.ok (view one) one) (.ok (view' other) other)
  rw [same alike]
  exact .ok alike

instance Agrees.bind (reader : Parse α) (next : α → Parse β) [Agrees reader]
    [∀ value, Agrees (next value)] [∀ value, Forward (next value)] : Agrees (reader >>= next) where
  agrees fork := Relates.bind (Agrees.agrees fork) fun _ => Agrees.agrees fork

instance (value : α) : Agrees (pure value : Parse α) where
  agrees _ _ _ alike _ := .ok alike

instance (condition : Prop) [Decidable condition] (yes no : Parse α) [Agrees yes] [Agrees no] :
    Agrees (if condition then yes else no) where
  agrees fork := by
    split
    · exact Agrees.agrees fork
    · exact Agrees.agrees fork

instance (view : Cursor → α) [Cursor.Shared view] : Agrees (look view) where
  agrees _ := relates_look Cursor.Shared.same

instance (problem : Located SyntaxError) : Agrees (throw problem : Parse α) where
  agrees _ _ _ alike _ := .error alike

instance (error : SyntaxError) : Agrees (fail error : Parse α) := by
  unfold fail; infer_instance

instance : Agrees (modify Cursor.advance : Parse Unit) where
  agrees _ _ _ alike within := .ok (alike.advance within)

instance (error : SyntaxError) (span : Span) : Agrees (record error span) where
  agrees _ _ _ alike _ := .ok (alike.record _)

/-! ## Tokens -/

instance : Agrees advance := by unfold advance; infer_instance

instance (kind : TokenKind) : Agrees (check kind) := by unfold check; infer_instance

instance (kind : TokenKind) : Agrees (accept kind) := by unfold accept; infer_instance

instance (kind : TokenKind) (wanted : Expectation) : Agrees (expect kind wanted) := by
  unfold expect; infer_instance

instance (symbol : Symbol) (wanted : Expectation) : Agrees (expectSymbol symbol wanted) := by
  unfold expectSymbol; infer_instance

instance (wanted : Expectation) : Agrees (identifier wanted) := by
  unfold identifier; infer_instance

instance : Agrees lineEnd := by unfold lineEnd; infer_instance

instance (wanted : Expectation) : Agrees (openBody wanted) := by unfold openBody; infer_instance

/-! ## Lists -/

/-- A reader with a bound on what it repeats may be given the same bound in both runs. -/
theorem Agrees.of_bound {reader : Parse α} (bounded : Nat → Parse α)
    (each : ∀ bound, Agrees (bounded bound))
    (same : ∀ {cursor : Cursor} {bound : Nat}, cursor.Closed → cursor.ahead.length ≤ bound →
      reader cursor = bounded bound cursor) : Agrees reader where
  agrees fork one other alike within := by
    let bound := one.ahead.length + other.ahead.length
    have first : reader one = bounded bound one := same alike.closed (Nat.le_add_right _ _)
    have second : reader other = bounded bound other := same alike.closed' (Nat.le_add_left _ _)
    rw [first, second]
    refine (each bound).agrees fork alike ?_
    unfold stop at within ⊢
    rwa [first] at within

section Lists

variable (separator close : Symbol) (item : Parse α) [Forward item] [Agrees item]

instance (separator : TokenKind) (bound : Nat) : Agrees (furtherItems separator item bound) := by
  induction bound with
  | zero => unfold furtherItems; infer_instance
  | succ bound ih => unfold furtherItems; infer_instance

instance : Agrees (itemsAfter (.symbol separator) item) := by
  refine .of_bound (fun bound => do
    if ← check (.symbol separator) then furtherItems (.symbol separator) item bound
    else return []) (fun bound => inferInstance) fun {cursor bound} _ enough => ?_
  unfold itemsAfter check
  rw [look_bind, look_bind]
  split
  · rw [look_bind]
    exact furtherItems_bound (by simp) (Nat.le_refl _) enough
  · rfl

instance : Agrees (commaList close item) := by unfold commaList; infer_instance

end Lists

/-! ## Types and expressions -/

instance (room : Nat) : Agrees (writtenType room) := by
  induction room with
  | zero => unfold writtenType; infer_instance
  | succ room ih =>
      unfold writtenType
      refine @Agrees.bind _ _ _ _ _ (fun token => ?_) fun token => ?_
      all_goals split <;> infer_instance

instance (room : Nat) : Agrees (typedVar room) := by unfold typedVar; infer_instance

section Expressions

variable (expression : Parse Expr) [Forward expression] [Agrees expression]

instance : Agrees (primary expression) := by
  unfold primary
  refine @Agrees.bind _ _ _ _ _ (fun token => ?_) fun token => ?_
  · split
    · infer_instance
    · split <;> infer_instance
  · split
    · infer_instance
    · split <;> infer_instance

instance : Agrees (arguments expression) := by unfold arguments; infer_instance

instance (start : Span) (object : Expr) : Agrees (fieldOf expression start object) := by
  unfold fieldOf; infer_instance

instance (start : Span) (container : Expr) : Agrees (elementOf expression start container) := by
  unfold elementOf; infer_instance

instance (start paren : Span) (callee : Expr) : Agrees (callOf expression start paren callee) := by
  unfold callOf
  split <;> infer_instance

end Expressions

section Operators

variable (expression : Precedence → Parse Expr) [∀ floor, Forward (expression floor)]
  [∀ floor, Agrees (expression floor)]

instance (floor : Precedence) : Agrees (operand expression floor) := by
  unfold operand
  refine @Agrees.bind _ _ _ _ _ (fun token => ?_) fun token => ?_
  all_goals split <;> infer_instance

instance (start : Span) (chosen : Expr) : Agrees (choiceOf expression start chosen) := by
  unfold choiceOf; infer_instance

instance (start : Span) (operator : BinaryOperator) (left : Expr) :
    Agrees (operationOf expression start operator left) := by
  unfold operationOf; infer_instance

instance (start : Span) (left : Expr) (next : Continuation) :
    Agrees (continuation expression start left next) := by
  unfold continuation
  refine @Agrees.bind _ _ _ _ _ (fun token => ?_) fun token => ?_
  all_goals split <;> infer_instance

end Operators

/-- Both readers of expressions recur on the room for nesting, and so does this proof. -/
theorem agrees_expression (room : Nat) :
    (∀ floor, Agrees (expressionAbove room floor)) ∧
      ∀ floor start left, Agrees (continued room floor start left) := by
  induction room with
  | zero =>
      refine ⟨fun floor => ?_, fun floor start left => ?_⟩
      · unfold expressionAbove; infer_instance
      · unfold continued
        refine @Agrees.bind _ _ _ _ _ (fun next => ?_) fun next => ?_
        all_goals split <;> infer_instance
  | succ room ih =>
      obtain ⟨expressions, continuations⟩ := ih
      refine ⟨fun floor => ?_, fun floor start left => ?_⟩
      · unfold expressionAbove; infer_instance
      · unfold continued
        refine @Agrees.bind _ _ _ _ _ (fun next => ?_) fun next => ?_
        all_goals split <;> infer_instance

instance (room : Nat) (floor : Precedence) : Agrees (expressionAbove room floor) :=
  (agrees_expression room).1 floor

instance (room : Nat) : Agrees (expression room) := by unfold expression; infer_instance

end Parse
end ChocoLang
