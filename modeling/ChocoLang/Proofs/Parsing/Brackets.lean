import ChocoLang.Proofs.Parsing.Opening
import ChocoLang.Proofs.Parsing.RoundTrip.Expression

/-!
# Brackets and the operators outside of them

A reader of an expression passes every bracket together with the one that closes it.  What it reads
depends on how tightly operators must bind only where the expression has an operator that binds less
tightly, and operators in brackets do not count.
-/

namespace ChocoLang

namespace TokenKind

/-- How many more brackets are open behind the token than before it. -/
def bracketStep : TokenKind → Int
  | symbol .leftParen | symbol .leftBracket => 1
  | symbol .rightParen | symbol .rightBracket => -1
  | _ => 0

/-- How tightly the operator binds that the token stands for, if it stands for one. -/
def precedence? : TokenKind → Option Precedence
  | keyword .kwNot => some .negation
  | kind => (Continuation.ofKind? kind).map Continuation.precedence

end TokenKind

/-! ## Tokens -/

/-- How many more brackets are open behind the tokens than before them. -/
@[simp]
def openBrackets : List Token → Int
  | [] => 0
  | token :: rest => token.kind.bracketStep + openBrackets rest

@[simp]
theorem openBrackets_append (front back : List Token) :
    openBrackets (front ++ back) = openBrackets front + openBrackets back := by
  induction front with
  | nil => simp
  | cons token front ih => simp [ih, Int.add_assoc]

/--
Every operator outside of brackets binds at least as tightly as the level, when so many brackets are
open before the tokens.
-/
def Binds (level : Precedence) : (depth : Int) → List Token → Prop
  | _, [] => True
  | depth, token :: rest =>
    (depth = 0 → ∀ precedence ∈ token.kind.precedence?, level ≤ precedence) ∧
      Binds level (depth + token.kind.bracketStep) rest

instance Binds.decidable (level : Precedence) :
    (depth : Int) → (tokens : List Token) → Decidable (Binds level depth tokens)
  | _, [] => isTrue trivial
  | depth, token :: rest =>
    have := Binds.decidable level (depth + token.kind.bracketStep) rest
    inferInstanceAs (Decidable (_ ∧ _))

theorem Binds.of_append {level : Precedence} {front back : List Token} {depth : Int}
    (binds : Binds level depth (front ++ back)) :
    Binds level (depth + openBrackets front) back := by
  induction front generalizing depth with
  | nil => simpa using binds
  | cons token front ih => simpa [Int.add_assoc] using ih binds.2

namespace Parse

variable {α β : Type}

/-! ## Readers that pass brackets -/

/-- So many more brackets are open behind the reader than before it, if it returns something. -/
def Shifts (count : Int) (reader : Parse α) : Prop :=
  ∀ ⦃cursor : Cursor⦄ ⦃value : α⦄ ⦃after : Cursor⦄, cursor.Closed →
    reader cursor = .ok value after →
      ∃ passed, cursor.ahead = passed ++ after.ahead ∧ openBrackets passed = count

/-- The same of a reader that starts at a token of the kind. -/
def ShiftsFrom (kind : TokenKind) (count : Int) (reader : Parse α) : Prop :=
  ∀ ⦃cursor : Cursor⦄ ⦃value : α⦄ ⦃after : Cursor⦄, cursor.Closed → cursor.kind = kind →
    reader cursor = .ok value after →
      ∃ passed, cursor.ahead = passed ++ after.ahead ∧ openBrackets passed = count

/-- The token at the cursor is passed. -/
theorem exists_passed_advance (cursor : Cursor) : ∃ passed,
    cursor.ahead = passed ++ cursor.advance.ahead ∧
      openBrackets passed = cursor.kind.bracketStep := by
  cases shape : cursor.ahead with
  | nil => exact ⟨[], by simp [shape], by simp [Cursor.kind, shape, TokenKind.bracketStep]⟩
  | cons token rest => exact ⟨[token], by simp [shape], by simp [Cursor.kind, shape]⟩

/-- Behind some passed tokens others are passed. -/
theorem exists_passed_trans {before middle after : List Token} {first second : Int}
    (front : ∃ passed, before = passed ++ middle ∧ openBrackets passed = first)
    (back : ∃ passed, middle = passed ++ after ∧ openBrackets passed = second) :
    ∃ passed, before = passed ++ after ∧ openBrackets passed = first + second := by
  obtain ⟨passed, rfl, rfl⟩ := front
  obtain ⟨more, rfl, rfl⟩ := back
  exact ⟨passed ++ more, by simp, by simp⟩

namespace Shifts

variable {reader : Parse α} {next : α → Parse β} {kind : TokenKind} {count rest : Int}

theorem start (shifts : Shifts count reader) (kind : TokenKind) : ShiftsFrom kind count reader :=
  fun _ _ _ closed _ ok => shifts closed ok

theorem sum [Forward reader] {first second : Int} (before : Shifts first reader)
    (behind : ∀ value, Shifts second (next value)) : Shifts (first + second) (reader >>= next) := by
  intro cursor value after closed ok
  obtain ⟨read, middle, ok, ok'⟩ := exists_of_bind ok
  exact exists_passed_trans (before closed ok)
    (behind read ((onward_of_ok ok).closed closed) ok')

/-- Behind what closes all its brackets, the count starts anew. -/
theorem bind [Forward reader] (balanced : Shifts 0 reader)
    (later : ∀ value, Shifts count (next value)) : Shifts count (reader >>= next) :=
  Int.zero_add count ▸ balanced.sum later

/-- What comes last closes all its brackets. -/
theorem before [Forward reader] (first : Shifts count reader)
    (balanced : ∀ value, Shifts 0 (next value)) : Shifts count (reader >>= next) :=
  Int.add_zero count ▸ first.sum balanced

theorem pure (value : α) : Shifts 0 (Pure.pure value) := by
  rintro cursor _ _ _ ⟨⟩
  exact ⟨[], rfl, rfl⟩

theorem fail (error : SyntaxError) : Shifts count (Parse.fail error : Parse α) := by
  rintro cursor _ _ _ ⟨⟩

theorem throw (problem : Located SyntaxError) :
    Shifts count (MonadExcept.throw problem : Parse α) := by
  rintro cursor _ _ _ ⟨⟩

theorem look {view : Cursor → α} (later : ∀ value, Shifts count (next value)) :
    Shifts count (Parse.look view >>= next) :=
  fun cursor _ _ closed ok => later (view cursor) closed ok

theorem ite {condition : Prop} [Decidable condition] {yes no : Parse α}
    (ifTrue : Shifts count yes) (ifFalse : Shifts count no) :
    Shifts count (if condition then yes else no) := by
  split
  · exact ifTrue
  · exact ifFalse

/-- The token at the cursor is of the kind that is seen. -/
theorem current {next : Token → Parse β}
    (later : ∀ token : Token, ShiftsFrom token.kind count (next token)) :
    Shifts count (Parse.look Cursor.current >>= next) :=
  fun cursor _ _ closed ok => later cursor.current closed closed.kind_current.symm ok

theorem accept {next : Bool → Parse β} (yes : Shifts rest (next true))
    (no : Shifts count (next false)) (sum : kind.bracketStep + rest = count) :
    Shifts count (Parse.accept kind >>= next) := by
  intro cursor value after closed ok
  by_cases stands : cursor.kind = kind
  · rw [bind_of_ok (accept_of_kind stands)] at ok
    obtain ⟨passed, ahead, counted⟩ := exists_passed_trans (exists_passed_advance cursor)
      (yes ((Cursor.Onward.advance cursor).closed closed) ok)
    exact ⟨passed, ahead, by rw [counted, stands, sum]⟩
  · rw [bind_of_ok (accept_of_ne stands)] at ok
    exact no closed ok

theorem expect (kind : TokenKind) (wanted : Expectation) :
    Shifts kind.bracketStep (Parse.expect kind wanted) := by
  intro cursor value after closed ok
  by_cases stands : cursor.kind = kind
  · rw [expect_of_kind stands] at ok
    cases ok
    exact stands ▸ exists_passed_advance cursor
  · rw [expect_of_ne stands] at ok
    cases ok

theorem expectSymbol (symbol : Symbol) (wanted : Expectation) :
    Shifts (TokenKind.symbol symbol).bracketStep (Parse.expectSymbol symbol wanted) :=
  (expect _ wanted).before fun _ => pure ()

theorem identifier (wanted : Expectation) : Shifts 0 (Parse.identifier wanted) :=
  (expect .identifier wanted).before fun _ => pure _

end Shifts

/-- The token at the cursor is passed first. -/
theorem ShiftsFrom.skip {kind : TokenKind} {count rest : Int} {next : Unit → Parse β}
    (later : Shifts rest (next ())) (sum : kind.bracketStep + rest = count) :
    ShiftsFrom kind count (modify Cursor.advance >>= next) := by
  intro cursor value after closed stands ok
  obtain ⟨passed, ahead, counted⟩ := exists_passed_trans (exists_passed_advance cursor)
    (later ((Cursor.Onward.advance cursor).closed closed) ok)
  exact ⟨passed, ahead, by rw [counted, stands, sum]⟩

theorem ShiftsFrom.advance {kind : TokenKind} {count rest : Int} {next : Token → Parse β}
    (later : ∀ token, Shifts rest (next token)) (sum : kind.bracketStep + rest = count) :
    ShiftsFrom kind count (Parse.advance >>= next) := by
  intro cursor value after closed stands ok
  have passed : ShiftsFrom kind count (modify Cursor.advance >>= fun _ => next cursor.current) :=
    .skip (later cursor.current) sum
  exact passed closed stands ok

/-! ## Lists -/

section Lists

variable {item : Parse α} [Forward item] (each : Shifts 0 item)
include each

theorem furtherItems_shifts {separator : TokenKind} (plain : separator.bracketStep = 0)
    (bound : Nat) : Shifts 0 (furtherItems separator item bound) := by
  induction bound with
  | zero => exact .pure []
  | succ bound ih =>
      exact .accept (each.bind fun _ => ih.bind fun _ => .pure _) (.pure [])
        (by rw [plain, Int.add_zero])

theorem commaList_shifts (close : Symbol) : Shifts 0 (commaList close item) := by
  have further : Shifts 0 (itemsAfter (.symbol .comma) item) :=
    .look fun _ => .ite (.look fun bound => furtherItems_shifts each rfl bound) (.pure [])
  exact .look fun _ => .ite (.pure []) (each.bind fun _ => further.bind fun _ => .pure _)

end Lists

/-! ## Expressions -/

theorem bracketStep_of_atom {token : Token} {atom : Expr} (found : atom? token = some atom) :
    token.kind.bracketStep = 0 := by
  unfold atom? at found
  dsimp only at found
  split at found
  all_goals first | (next kind => rw [kind]; rfl) | cases found

section Parts

variable {expression : Parse Expr} [Forward expression] (each : Shifts 0 expression)
include each

theorem primary_shifts : Shifts 0 (primary expression) := by
  refine .current fun token => ?_
  split
  · next atom found =>
      exact .skip (.pure atom) (by rw [bracketStep_of_atom found, Int.add_zero])
  · split
    · next kind =>
        rw [kind]
        exact .skip (each.bind fun _ => (Shifts.expectSymbol _ _).before fun _ => .pure _) rfl
    · next kind =>
        rw [kind]
        exact .skip ((commaList_shifts each _).bind fun _ =>
          (Shifts.expectSymbol _ _).before fun _ => .look fun _ => .pure _) rfl
    · exact (Shifts.fail _).start _
    · exact (Shifts.fail _).start _

theorem arguments_shifts : Shifts (-1) (arguments expression) :=
  (commaList_shifts each _).bind fun _ => (Shifts.expectSymbol _ _).before fun _ => .pure _

theorem fieldOf_shifts (start : Span) (object : Expr) :
    Shifts 0 (fieldOf expression start object) :=
  (Shifts.identifier _).bind fun _ => .look fun _ =>
    .accept ((arguments_shifts each).before fun _ => .look fun _ => .pure _) (.pure _) rfl

theorem elementOf_shifts (start : Span) (container : Expr) :
    Shifts (-1) (elementOf expression start container) :=
  each.bind fun _ => (Shifts.expectSymbol _ _).before fun _ => .look fun _ => .pure _

theorem callOf_shifts (start paren : Span) (callee : Expr) :
    Shifts (-1) (callOf expression start paren callee) := by
  unfold callOf
  split
  · exact (arguments_shifts each).before fun _ => .look fun _ => .pure _
  · exact .throw _

end Parts

section Operators

variable {expression : Precedence → Parse Expr} [∀ floor, Forward (expression floor)]
  (each : ∀ floor, Shifts 0 (expression floor))
include each

theorem operand_shifts (floor : Precedence) : Shifts 0 (operand expression floor) := by
  refine .current fun token => ?_
  split
  · next kind =>
      rw [kind]
      exact .skip ((each _).bind fun _ => .look fun _ => .pure _) rfl
  · next kind =>
      rw [kind]
      split
      · exact (Shifts.fail _).start _
      · exact .skip ((each _).bind fun _ => .look fun _ => .pure _) rfl
  · exact (primary_shifts (each _)).start _

theorem choiceOf_shifts (start : Span) (chosen : Expr) :
    Shifts 0 (choiceOf expression start chosen) :=
  (each _).bind fun _ => (Shifts.expect (.keyword .kwElse) _).bind fun _ => (each _).bind fun _ =>
    .look fun _ => .pure _

theorem operationOf_shifts (start : Span) (operator : BinaryOperator) (left : Expr) :
    Shifts 0 (operationOf expression start operator left) :=
  (each _).bind fun _ => .look fun _ =>
    .ite (.look fun _ => .ite ((Shifts.fail _).bind fun _ => .pure _) (.pure _)) (.pure _)

/-- The bracket that a continuation begins with is closed at its end. -/
theorem continuation_shifts (start : Span) (left : Expr) {next : Continuation} {kind : TokenKind}
    (begins : Continuation.ofKind? kind = some next) :
    ShiftsFrom kind 0 (continuation expression start left next) := by
  unfold Continuation.ofKind? at begins
  split at begins
  · cases begins
    exact .advance (fun _ => choiceOf_shifts each start left) rfl
  · cases begins
    exact .advance (fun _ => fieldOf_shifts (each _) start left) rfl
  · cases begins
    exact .advance (fun _ => elementOf_shifts (each _) start left) rfl
  · cases begins
    exact .advance (fun token => callOf_shifts (each _) start token.span left) rfl
  · obtain ⟨operator, stands, rfl⟩ := Option.map_eq_some_iff.mp begins
    refine .advance (fun _ => operationOf_shifts each start operator left) ?_
    unfold TokenKind.operator? at stands
    split at stands
    all_goals first | rfl | cases stands

end Operators

/-- Both readers of expressions recur on the room for nesting, and so does this proof. -/
theorem shifts_expression (room : Nat) :
    (∀ floor, Shifts 0 (expressionAbove room floor)) ∧
      ∀ floor start left, Shifts 0 (continued room floor start left) := by
  induction room with
  | zero =>
      refine ⟨fun floor => ?_, fun floor start left => ?_⟩
      · unfold expressionAbove
        exact .fail _
      · unfold continued
        refine .look fun next => ?_
        cases next with
        | none => exact .pure left
        | some next => exact .fail _
  | succ room ih =>
      obtain ⟨expressions, continuations⟩ := ih
      refine ⟨fun floor => ?_, fun floor start left => ?_⟩
      · unfold expressionAbove
        exact .look fun start => (operand_shifts expressions floor).bind fun left =>
          continuations floor start left
      · unfold continued
        intro cursor value after closed ok
        rw [look_bind] at ok
        cases goesOn : continuationAbove? floor cursor with
        | none =>
            rw [goesOn] at ok
            exact Shifts.pure left closed ok
        | some next =>
            rw [goesOn] at ok
            have begins := (Option.filter_eq_some_iff.mp goesOn).1
            obtain ⟨read, middle, ok, ok'⟩ := exists_of_bind ok
            exact exists_passed_trans
              (continuation_shifts expressions start left begins closed rfl ok)
              (continuations floor start read ((onward_of_ok ok).closed closed) ok')

/-! ## The place of an expression -/

variable {level floor floor' : Precedence} {cursor : Cursor}

theorem kind_binds (binds : Binds level 0 cursor.ahead) :
    ∀ precedence ∈ cursor.kind.precedence?, level ≤ precedence := by
  unfold Cursor.kind
  cases shape : cursor.ahead with
  | nil => simp [TokenKind.precedence?, Continuation.ofKind?, TokenKind.operator?]
  | cons token rest =>
      rw [shape] at binds
      exact binds.1 rfl

theorem precedence?_of_ofKind? {kind : TokenKind} {next : Continuation}
    (begins : Continuation.ofKind? kind = some next) : kind.precedence? = some next.precedence := by
  unfold TokenKind.precedence?
  split
  · cases begins
  · rw [begins]
    rfl

/-- Every continuation outside of brackets is read on below the level. -/
theorem continuationAbove?_of_binds (binds : Binds level 0 cursor.ahead) (below : floor < level) :
    continuationAbove? floor cursor = Continuation.ofKind? cursor.kind := by
  unfold continuationAbove?
  cases begins : Continuation.ofKind? cursor.kind with
  | none => rfl
  | some next =>
      have tight : level ≤ next.precedence :=
        kind_binds binds next.precedence (precedence?_of_ofKind? begins)
      simpa [Option.filter] using Nat.lt_of_lt_of_le below tight

/-- A negation may stand outside of brackets everywhere below the level. -/
theorem operand_of_binds (expression : Precedence → Parse Expr) (closed : cursor.Closed)
    (binds : Binds level 0 cursor.ahead) (below : floor < level) (below' : floor' < level) :
    operand expression floor cursor = operand expression floor' cursor := by
  by_cases sign : cursor.current.kind = .symbol .minus
  · rw [operand, operand, look_bind, look_bind, sign]
  by_cases word : cursor.current.kind = .keyword .kwNot
  · have tight : level ≤ Precedence.negation :=
      kind_binds binds Precedence.negation (by rw [← closed.kind_current, word]; rfl)
    rw [operand, operand, look_bind, look_bind, word]
    simp only [Nat.not_le_of_lt (Nat.lt_of_lt_of_le below tight),
      Nat.not_le_of_lt (Nat.lt_of_lt_of_le below' tight)]
  · rw [operand_eq_primary sign word, operand_eq_primary sign word]

theorem continued_of_binds (room : Nat) (start : Span) (left : Expr) (closed : cursor.Closed)
    (binds : Binds level 0 cursor.ahead) (below : floor < level) (below' : floor' < level) :
    continued room floor start left cursor = continued room floor' start left cursor := by
  induction room generalizing left cursor with
  | zero =>
      rw [continued, continued, look_bind, look_bind, continuationAbove?_of_binds binds below,
        continuationAbove?_of_binds binds below']
  | succ room ih =>
      rw [continued, continued, look_bind, look_bind, continuationAbove?_of_binds binds below,
        continuationAbove?_of_binds binds below']
      cases begins : Continuation.ofKind? cursor.kind with
      | none => rfl
      | some next =>
          refine bind_congr_behind fun longer after ok => ?_
          obtain ⟨passed, ahead, balanced⟩ :=
            continuation_shifts (shifts_expression room).1 start left begins closed rfl ok
          refine ih longer ((onward_of_ok ok).closed closed) ?_
          rw [ahead] at binds
          simpa [balanced] using binds.of_append

/--
An expression is read the same in every place below the level as which all its operators outside of
brackets bind at least as tightly.
-/
theorem expressionAbove_of_binds (room : Nat) (closed : cursor.Closed)
    (binds : Binds level 0 cursor.ahead) (below : floor < level) (below' : floor' < level) :
    expressionAbove room floor cursor = expressionAbove room floor' cursor := by
  cases room with
  | zero => rfl
  | succ room =>
      rw [expressionAbove, expressionAbove, look_bind, look_bind]
      have first := operand_of_binds (expressionAbove room) closed binds below below'
      cases read : operand (expressionAbove room) floor' cursor with
      | error problem after => rw [bind_of_error (first.trans read), bind_of_error read]
      | ok left after =>
          rw [bind_of_ok (first.trans read), bind_of_ok read]
          obtain ⟨passed, ahead, balanced⟩ :=
            operand_shifts (shifts_expression room).1 floor' closed read
          refine continued_of_binds room _ left ((onward_of_ok read).closed closed) ?_ below below'
          rw [ahead] at binds
          simpa [balanced] using binds.of_append

end Parse
end ChocoLang
