import ChocoLang.Proofs.Parsing.Advancing

/-!
# What readers of expressions pass

An expression is read from one line: its reader passes text only, whether it returns something or
fails.  So it does not begin or end a block either.
-/

namespace ChocoLang

/-- The second tokens are what is left of the first ones behind some text. -/
def PassesText (before after : List Token) : Prop :=
  ∃ passed, before = passed ++ after ∧ ∀ token ∈ passed, token.kind.isLayout = false

/-- The second tokens are what is left of the first ones behind whole blocks, or nothing is left. -/
def PassesBlocks (before after : List Token) : Prop :=
  ∃ passed depth, before = passed ++ after ∧
    nesting 0 (passed.map Token.kind) = some depth ∧ (depth = 0 ∨ after = [])

/-- A way of passing tokens that allows for text. -/
class Passing (passes : List Token → List Token → Prop) : Prop where
  /-- No tokens may be passed. -/
  refl : ∀ tokens, passes tokens tokens
  /-- Tokens may be passed one part after the other. -/
  trans : ∀ {first second third}, passes first second → passes second third → passes first third
  /-- Text may be passed. -/
  text : ∀ {token rest}, token.kind.isLayout = false → passes (token :: rest) rest

instance : Passing PassesText where
  refl tokens := ⟨[], rfl, by simp⟩
  trans := by
    rintro _ _ _ ⟨passed, rfl, text⟩ ⟨more, rfl, text'⟩
    refine ⟨passed ++ more, by simp, fun token among => ?_⟩
    rcases List.mem_append.mp among with first | second
    · exact text token first
    · exact text' token second
  text {token rest} text := ⟨[token], rfl, by simpa using text⟩

/-- A token that neither begins nor ends a block may be passed. -/
theorem PassesBlocks.level {token : Token} (level : token.kind.isLevel = true)
    (rest : List Token) : PassesBlocks (token :: rest) rest :=
  ⟨[token], 0, rfl, by simp [nesting_of_isLevel level], .inl rfl⟩

instance : Passing PassesBlocks where
  refl tokens := ⟨[], 0, rfl, rfl, .inl rfl⟩
  trans := by
    rintro first second third ⟨passed, depth, rfl, nested, ends⟩ ⟨more, depth', rfl, nested', ends'⟩
    refine ⟨passed ++ more, depth' + depth, by simp, ?_, ?_⟩
    · rw [List.map_append, nesting_append, nested]
      simpa using nesting_add nested' depth
    · rcases ends with rfl | none
      · exact ends'
      · exact .inr (List.append_eq_nil_iff.mp none).2
  text text := .level (TokenKind.isLevel_of_isLayout text) _

namespace Parse

variable {α β σ : Type} {passes : List Token → List Token → Prop}

/-- Wherever the reader starts, it passes tokens in a certain way. -/
class Passes (passes : List Token → List Token → Prop) (reader : Parse α) : Prop where
  /-- The tokens between the cursors are passed. -/
  passed : ∀ cursor : Cursor, cursor.Closed → passes cursor.ahead (reader.stop cursor).ahead

/-- If text stands where the reader starts, it passes tokens in a certain way. -/
class PassesFrom (passes : List Token → List Token → Prop) (reader : Parse α) : Prop where
  /-- The tokens between the cursors are passed. -/
  passed : ∀ cursor : Cursor, cursor.Closed → cursor.kind.isLayout = false →
    passes cursor.ahead (reader.stop cursor).ahead

/-- The same of a reader that deals with its failures itself. -/
class Recovering.Passes (passes : List Token → List Token → Prop) (reader : Recovering α) :
    Prop where
  /-- The tokens between the cursors are passed. -/
  passed : ∀ cursor : Cursor, cursor.Closed → passes cursor.ahead (reader cursor).2.ahead

/-! ## Composition -/

/-- Behind the first reader, the second one passes tokens where the first one stops. -/
theorem passes_bind [Passing passes] {reader : Parse α} {next : α → Parse β} {cursor : Cursor}
    (first : passes cursor.ahead (reader.stop cursor).ahead)
    (second : ∀ value after, reader cursor = .ok value after →
      passes after.ahead ((next value).stop after).ahead) :
    passes cursor.ahead ((reader >>= next).stop cursor).ahead := by
  cases read : reader cursor with
  | ok value after =>
      rw [stop_of_ok read] at first
      have whole : (reader >>= next).stop cursor = (next value).stop after := by
        simp only [stop, bind_of_ok read]
      rw [whole]
      exact Passing.trans first (second value after read)
  | error problem after =>
      rw [stop_of_error read] at first
      rwa [stop_of_error (bind_of_error read)]

instance Passes.bind [Passing passes] (reader : Parse α) (next : α → Parse β) [Forward reader]
    [Passes passes reader] [∀ value, Passes passes (next value)] :
    Passes passes (reader >>= next) where
  passed cursor closed := passes_bind (Passes.passed cursor closed) fun _ after read =>
    Passes.passed after ((onward_of_ok read).closed closed)

instance PassesFrom.bind [Passing passes] (reader : Parse α) (next : α → Parse β) [Forward reader]
    [PassesFrom passes reader] [∀ value, Passes passes (next value)] :
    PassesFrom passes (reader >>= next) where
  passed cursor closed text := passes_bind (PassesFrom.passed cursor closed text)
    fun _ after read => Passes.passed after ((onward_of_ok read).closed closed)

instance (priority := low) (reader : Parse α) [Passes passes reader] :
    PassesFrom passes reader where
  passed cursor closed _ := Passes.passed cursor closed

instance [Passing passes] (value : α) : Passes passes (pure value : Parse α) where
  passed cursor _ := Passing.refl cursor.ahead

instance (condition : Prop) [Decidable condition] (yes no : Parse α) [Passes passes yes]
    [Passes passes no] : Passes passes (if condition then yes else no) where
  passed cursor closed := by
    split
    · exact Passes.passed cursor closed
    · exact Passes.passed cursor closed

instance [Passing passes] (view : Cursor → α) : Passes passes (look view) where
  passed cursor _ := Passing.refl cursor.ahead

instance [Passing passes] : Passes passes (get : Parse Cursor) where
  passed cursor _ := Passing.refl cursor.ahead

instance [Passing passes] (problem : Located SyntaxError) :
    Passes passes (throw problem : Parse α) where
  passed cursor _ := Passing.refl cursor.ahead

instance [Passing passes] (error : SyntaxError) : Passes passes (fail error : Parse α) where
  passed cursor _ := Passing.refl cursor.ahead

instance [Passing passes] (error : SyntaxError) (span : Span) :
    Passes passes (record error span) where
  passed cursor _ := Passing.refl cursor.ahead

theorem stop_look (view : Cursor → α) (next : α → Parse β) (cursor : Cursor) :
    (look view >>= next).stop cursor = (next (view cursor)).stop cursor := rfl

/-! ## Tokens -/

theorem passes_advance [Passing passes] {cursor : Cursor} (text : cursor.kind.isLayout = false) :
    passes cursor.ahead cursor.advance.ahead := by
  rw [Cursor.ahead_advance]
  unfold Cursor.kind at text
  cases shape : cursor.ahead with
  | nil => exact Passing.refl []
  | cons token rest =>
      rw [shape] at text
      exact Passing.text text

instance [Passing passes] : PassesFrom passes (modify Cursor.advance : Parse Unit) where
  passed _ _ text := passes_advance text

instance [Passing passes] : PassesFrom passes advance where
  passed _ _ text := passes_advance text

/-- The token at the cursor is text, as the look at it tells. -/
theorem passesFrom_current {reader : Parse α} [PassesFrom passes reader] {cursor : Cursor}
    (closed : cursor.Closed) (text : cursor.current.kind.isLayout = false) :
    passes cursor.ahead (reader.stop cursor).ahead :=
  PassesFrom.passed cursor closed (closed.kind_current ▸ text)

theorem accept_passes [Passing passes] {kind : TokenKind}
    (may : ∀ cursor : Cursor, cursor.kind = kind → passes cursor.ahead cursor.advance.ahead) :
    Passes passes (accept kind) where
  passed cursor _ := by
    by_cases stands : cursor.kind = kind
    · rw [stop_of_ok (accept_of_kind stands)]
      exact may cursor stands
    · rw [stop_of_ok (accept_of_ne stands)]
      exact Passing.refl _

theorem expect_passes [Passing passes] {kind : TokenKind} (text : kind.isLayout = false)
    (wanted : Expectation) : Passes passes (expect kind wanted) where
  passed cursor closed := by
    change passes _ ((if cursor.kind == kind then advance else _ : Parse Token).stop cursor).ahead
    split
    · next stands => exact passes_advance (beq_iff_eq.mp stands ▸ text)
    · exact Passing.refl _

instance [Passing passes] (symbol : Symbol) : Passes passes (accept (.symbol symbol)) :=
  accept_passes fun _ stands => passes_advance (stands ▸ rfl)

instance [Passing passes] (keyword : Keyword) : Passes passes (accept (.keyword keyword)) :=
  accept_passes fun _ stands => passes_advance (stands ▸ rfl)

instance [Passing passes] (symbol : Symbol) (wanted : Expectation) :
    Passes passes (expect (.symbol symbol) wanted) :=
  expect_passes rfl wanted

instance [Passing passes] (keyword : Keyword) (wanted : Expectation) :
    Passes passes (expect (.keyword keyword) wanted) :=
  expect_passes rfl wanted

instance [Passing passes] (symbol : Symbol) (wanted : Expectation) :
    Passes passes (expectSymbol symbol wanted) := by
  unfold expectSymbol; infer_instance

instance [Passing passes] (wanted : Expectation) : Passes passes (identifier wanted) := by
  have name : Passes passes (expect .identifier wanted) := expect_passes rfl wanted
  unfold identifier; infer_instance

/-! ## Lists -/

section Lists

variable [Passing passes] (separator close : Symbol) (item : Parse α) [Forward item]
  [Passes passes item]

instance (bound : Nat) : Passes passes (furtherItems (.symbol separator) item bound) := by
  induction bound with
  | zero => unfold furtherItems; infer_instance
  | succ bound ih => unfold furtherItems; infer_instance

instance : Passes passes (itemsAfter (.symbol separator) item) := by
  unfold itemsAfter check; infer_instance

instance : Passes passes (commaList close item) := by unfold commaList check; infer_instance

end Lists

/-! ## Types and expressions -/

instance [Passing passes] (room : Nat) : Passes passes (writtenType room) := by
  induction room with
  | zero => unfold writtenType; infer_instance
  | succ room ih =>
      unfold writtenType
      refine ⟨fun cursor closed => ?_⟩
      rw [stop_look]
      split
      · next kind => exact passesFrom_current closed (by rw [kind]; rfl)
      · next kind => exact passesFrom_current closed (by rw [kind]; rfl)
      · next kind => exact passesFrom_current closed (by rw [kind]; rfl)
      · exact Passing.refl _

instance [Passing passes] (room : Nat) : Passes passes (typedVar room) := by
  unfold typedVar; infer_instance

section Expressions

variable [Passing passes] (expression : Parse Expr) [Forward expression] [Passes passes expression]

instance : Passes passes (primary expression) where
  passed cursor closed := by
    unfold primary
    rw [stop_look]
    split
    · next atom found => exact passesFrom_current closed (isLayout_of_atom found)
    · split
      · next kind => exact passesFrom_current closed (by rw [kind]; rfl)
      · next kind => exact passesFrom_current closed (by rw [kind]; rfl)
      · exact Passing.refl _
      · exact Passing.refl _

instance : Passes passes (arguments expression) := by unfold arguments; infer_instance

instance (start : Span) (object : Expr) : Passes passes (fieldOf expression start object) := by
  unfold fieldOf; infer_instance

instance (start : Span) (container : Expr) :
    Passes passes (elementOf expression start container) := by
  unfold elementOf; infer_instance

instance (start paren : Span) (callee : Expr) :
    Passes passes (callOf expression start paren callee) := by
  unfold callOf
  split <;> infer_instance

end Expressions

section Operators

variable [Passing passes] (expression : Precedence → Parse Expr) [∀ floor, Forward (expression floor)]
  [∀ floor, Passes passes (expression floor)]

instance (floor : Precedence) : Passes passes (operand expression floor) where
  passed cursor closed := by
    unfold operand
    rw [stop_look]
    split
    · next kind => exact passesFrom_current closed (by rw [kind]; rfl)
    · next kind =>
        split
        · exact Passing.refl _
        · exact passesFrom_current closed (by rw [kind]; rfl)
    · exact Passes.passed cursor closed

instance (start : Span) (chosen : Expr) : Passes passes (choiceOf expression start chosen) := by
  unfold choiceOf; infer_instance

instance (start : Span) (operator : BinaryOperator) (left : Expr) :
    Passes passes (operationOf expression start operator left) := by
  unfold operationOf; infer_instance

instance (start : Span) (left : Expr) (next : Continuation) :
    PassesFrom passes (continuation expression start left next) := by
  unfold continuation
  refine @PassesFrom.bind _ _ _ _ _ _ _ _ fun token => ?_
  split <;> infer_instance

end Operators

/-- What continues an operand is text. -/
theorem isLayout_of_continuation {floor : Precedence} {cursor : Cursor} {next : Continuation}
    (found : continuationAbove? floor cursor = some next) : cursor.kind.isLayout = false := by
  obtain ⟨begins, -⟩ := Option.filter_eq_some_iff.mp found
  cases kind : cursor.kind <;> first | rfl | (rw [kind] at begins; cases begins)

/-- Both readers of expressions recur on the room for nesting, and so does this proof. -/
theorem passes_expression [Passing passes] (room : Nat) :
    (∀ floor, Passes passes (expressionAbove room floor)) ∧
      ∀ floor start left, Passes passes (continued room floor start left) := by
  induction room with
  | zero =>
      refine ⟨fun floor => ?_, fun floor start left => ⟨fun cursor closed => ?_⟩⟩
      · unfold expressionAbove; infer_instance
      · unfold continued
        rw [stop_look]
        split <;> exact Passing.refl _
  | succ room ih =>
      obtain ⟨expressions, continuations⟩ := ih
      refine ⟨fun floor => ?_, fun floor start left => ⟨fun cursor closed => ?_⟩⟩
      · unfold expressionAbove; infer_instance
      · unfold continued
        rw [stop_look]
        split
        · exact Passing.refl _
        · next next found =>
            exact PassesFrom.passed cursor closed (isLayout_of_continuation found)

instance [Passing passes] (room : Nat) (floor : Precedence) :
    Passes passes (expressionAbove room floor) :=
  (passes_expression room).1 floor

instance [Passing passes] (room : Nat) : Passes passes (expression room) := by
  unfold expression; infer_instance

instance [Passing passes] (room : Nat) (paren : Span) : Passes passes (resultType room paren) := by
  unfold resultType; infer_instance

/-!
## Readers that record nothing

Problems are recorded where a statement is left out, a declaration is misplaced or the body of a
function is empty.  The readers of what stands in one line record nothing: whether they return
something or fail, the same problems are known afterwards.
-/

/-- The trail of those that record no problem. -/
abbrev Trail.silent : Trail where
  relation before after := after.problems = before.problems
  refl _ := rfl
  trans before after := after.trans before
  advance cursor := cursor.problems_advance

/-- Wherever the reader starts, it records no problem. -/
abbrev Silent (reader : Parse α) : Prop := Follows .silent reader

theorem problems_of_ok {reader : Parse α} [silent : Silent reader] {cursor after : Cursor}
    {value : α} (ok : reader cursor = .ok value after) : after.problems = cursor.problems := by
  have same : (reader.stop cursor).problems = cursor.problems := silent.follows cursor
  rwa [stop_of_ok ok] at same

theorem problems_of_error {reader : Parse α} [silent : Silent reader] {cursor after : Cursor}
    {problem : Located SyntaxError} (failed : reader cursor = .error problem after) :
    after.problems = cursor.problems := by
  have same : (reader.stop cursor).problems = cursor.problems := silent.follows cursor
  rwa [stop_of_error failed] at same

end Parse
end ChocoLang
