import ChocoLang.Proofs.Parsing.Enclosing

/-!
# More room for nesting

A reader that has more room does the same, as long as the other one has room enough.  Neither what
is read nor any problem but the want of room itself depends on how much of it is left.
-/

namespace ChocoLang
namespace Parse

variable {α β : Type}

/-- Started at the cursor, the reader fails for want of room. -/
def Exhausts (reader : Parse α) (cursor : Cursor) : Prop :=
  ∃ problem after, reader cursor = .error problem after ∧ problem.content = .nestedTooDeeply

/-- Wherever the first reader has room enough, the second one does the same. -/
def Within (reader larger : Parse α) : Prop :=
  ∀ cursor : Cursor, Exhausts reader cursor ∨ larger cursor = reader cursor

namespace Within

variable {reader larger : Parse α} {next further : α → Parse β}

theorem refl (reader : Parse α) : Within reader reader := fun _ => .inr rfl

theorem fail (larger : Parse α) : Within (Parse.fail .nestedTooDeeply) larger :=
  fun cursor => .inl ⟨⟨.nestedTooDeeply, cursor.current.span⟩, cursor, rfl, rfl⟩

theorem bind (first : Within reader larger)
    (second : ∀ value, Within (next value) (further value)) :
    Within (reader >>= next) (larger >>= further) := by
  intro cursor
  obtain ⟨problem, after, failed, content⟩ | same := first cursor
  · exact .inl ⟨problem, after, bind_of_error failed, content⟩
  cases read : reader cursor with
  | error problem after =>
      rw [bind_of_error read, bind_of_error (same.trans read)]
      exact .inr rfl
  | ok value after =>
      obtain ⟨problem, final, failed, content⟩ | same' := second value after
      · exact .inl ⟨problem, final, (bind_of_ok read).trans failed, content⟩
      · rw [bind_of_ok read, bind_of_ok (same.trans read)]
        exact .inr same'

/-- Only what comes later may need room. -/
theorem behind (second : ∀ value, Within (next value) (further value)) :
    Within (reader >>= next) (reader >>= further) :=
  (refl reader).bind second

/-- Only what comes first may need room. -/
theorem before (first : Within reader larger) : Within (reader >>= next) (larger >>= next) :=
  first.bind fun value => refl (next value)

theorem ite {condition : Prop} [Decidable condition] {yes yes' no no' : Parse α}
    (ifTrue : Within yes yes') (ifFalse : Within no no') :
    Within (if condition then yes else no) (if condition then yes' else no') := by
  split
  · exact ifTrue
  · exact ifFalse

end Within

/-! ## Lists -/

section Lists

variable {item item' : Parse α} (each : Within item item') (separator : TokenKind) (close : Symbol)
include each

theorem furtherItems_within (bound : Nat) :
    Within (furtherItems separator item bound) (furtherItems separator item' bound) := by
  induction bound with
  | zero => exact .refl _
  | succ bound ih =>
      exact .behind fun _ => .ite (each.bind fun _ => ih.before) (.refl _)

theorem itemsAfter_within : Within (itemsAfter separator item) (itemsAfter separator item') :=
  .behind fun _ => .ite (.behind fun bound => furtherItems_within each separator bound) (.refl _)

theorem commaList_within : Within (commaList close item) (commaList close item') :=
  .behind fun _ => .ite (.refl _)
    (each.bind fun _ => (itemsAfter_within each (.symbol .comma)).before)

end Lists

/-! ## Expressions -/

section Parts

variable {expression expression' : Parse Expr} (each : Within expression expression')
include each

theorem primary_within : Within (primary expression) (primary expression') := by
  refine .behind fun token => ?_
  split
  · exact .refl _
  · split
    · exact .behind fun _ => each.before
    · exact .behind fun _ => (commaList_within each .rightBracket).before
    · exact .refl _
    · exact .refl _

theorem arguments_within : Within (arguments expression) (arguments expression') :=
  (commaList_within each .rightParen).before

theorem fieldOf_within (start : Span) (object : Expr) :
    Within (fieldOf expression start object) (fieldOf expression' start object) :=
  .behind fun _ => .behind fun _ => .behind fun _ =>
    .ite (arguments_within each).before (.refl _)

theorem elementOf_within (start : Span) (container : Expr) :
    Within (elementOf expression start container) (elementOf expression' start container) :=
  each.before

theorem callOf_within (start paren : Span) (callee : Expr) :
    Within (callOf expression start paren callee) (callOf expression' start paren callee) := by
  unfold callOf
  split
  · exact (arguments_within each).before
  · exact .refl _

end Parts

section Operators

variable {expression expression' : Precedence → Parse Expr}
  (each : ∀ floor, Within (expression floor) (expression' floor))
include each

theorem operand_within (floor : Precedence) :
    Within (operand expression floor) (operand expression' floor) := by
  refine .behind fun token => ?_
  split
  · exact .behind fun _ => (each _).before
  · exact .ite (.refl _) (.behind fun _ => (each _).before)
  · exact primary_within (each _)

theorem choiceOf_within (start : Span) (chosen : Expr) :
    Within (choiceOf expression start chosen) (choiceOf expression' start chosen) :=
  (each _).bind fun _ => .behind fun _ => (each _).before

theorem operationOf_within (start : Span) (operator : BinaryOperator) (left : Expr) :
    Within (operationOf expression start operator left)
      (operationOf expression' start operator left) :=
  (each _).before

theorem continuation_within (start : Span) (left : Expr) (next : Continuation) :
    Within (continuation expression start left next)
      (continuation expression' start left next) := by
  refine .behind fun token => ?_
  cases next with
  | operator operator => exact operationOf_within each start operator left
  | conditional => exact choiceOf_within each start left
  | field => exact fieldOf_within (each _) start left
  | element => exact elementOf_within (each _) start left
  | call => exact callOf_within (each _) start token.span left

end Operators

/-- Both readers of expressions recur on the room, and so does this proof. -/
theorem within_succ (room : Nat) :
    (∀ floor, Within (expressionAbove room floor) (expressionAbove (room + 1) floor)) ∧
      ∀ floor start left,
        Within (continued room floor start left) (continued (room + 1) floor start left) := by
  induction room with
  | zero =>
      refine ⟨fun floor => ?_, fun floor start left => ?_⟩
      · rw [expressionAbove]
        exact .fail _
      · rw [continued, continued]
        refine .behind fun next => ?_
        cases next with
        | none => exact .refl _
        | some next => exact .fail _
  | succ room ih =>
      obtain ⟨expressions, continuations⟩ := ih
      refine ⟨fun floor => ?_, fun floor start left => ?_⟩
      · rw [expressionAbove, expressionAbove]
        exact .behind fun start => (operand_within expressions floor).bind fun left =>
          continuations floor start left
      · rw [continued, continued]
        refine .behind fun next => ?_
        cases next with
        | none => exact .refl _
        | some next =>
            exact (continuation_within expressions start left next).bind fun left =>
              continuations floor start left

/-- What is read with some room is read with less, or the room is not enough. -/
theorem exhausts_or_eq {room larger : Nat} (le : room ≤ larger) (floor : Precedence)
    (cursor : Cursor) : Exhausts (expressionAbove room floor) cursor ∨
      expressionAbove room floor cursor = expressionAbove larger floor cursor := by
  induction le with
  | refl => exact .inr rfl
  | @step larger le ih =>
      obtain short | same := ih
      · exact .inl short
      obtain ⟨problem, after, failed, content⟩ | same' := (within_succ larger).1 floor cursor
      · exact .inl ⟨problem, after, same.trans failed, content⟩
      · exact .inr (same.trans same'.symm)

end Parse
end ChocoLang
