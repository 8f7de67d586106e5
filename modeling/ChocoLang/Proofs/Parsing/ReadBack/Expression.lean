import ChocoLang.Proofs.Parsing.Quiet

/-!
# Types and expressions read without problems

The tokens of an expression that is read quietly write it.  The readers go by precedence: what has
been read binds more tightly than the floor, and whatever continuation stands behind it may take it
as its left operand.
-/

namespace ChocoLang

namespace Continuation

/-- How tightly the left operand of a continuation must bind. -/
def leftLevel : Continuation → Precedence
  | operator sign => sign.leftLevel
  | conditional => .disjunction
  | field | element | call => .access

/-- The token that begins a continuation. -/
def content : Continuation → TokenContent
  | operator sign => sign.content
  | conditional => .word .kwIf
  | field => .sign .dot
  | element => .sign .leftBracket
  | call => .sign .leftParen

theorem content?_of_ofKind? {kind : TokenKind} {next : Continuation}
    (stands : ofKind? kind = some next) : kind.content? = some next.content := by
  cases kind with
  | keyword word => cases word <;> cases stands <;> rfl
  | symbol sign => cases sign <;> cases stands <;> rfl
  | _ => cases stands

/--
What binds at least as tightly as a continuation can be its left operand; but a choice cannot be
chosen from, and a comparison cannot be compared.
-/
theorem leftLevel_le {next : Continuation} {level : Precedence}
    (tighter : next.precedence ≤ level) (noChoice : Precedence.conditional < level)
    (noComparison : next.precedence = .comparison → level ≠ .comparison) :
    next.leftLevel ≤ level := by
  cases next with
  | operator sign =>
      simp only [leftLevel, BinaryOperator.leftLevel]
      split
      · next comparison =>
          have same : sign.precedence = .comparison := by
            cases sign <;> first | rfl | cases comparison
          exact Nat.lt_of_le_of_ne tighter fun equal => noComparison same (equal ▸ same)
      · exact tighter
  | conditional => exact noChoice
  | field => exact tighter
  | element => exact tighter
  | call => exact tighter

end Continuation

namespace Parse

open Continuation

variable {α : Type} {cursor after : Cursor}

/-! ## Types -/

theorem writtenType_writes (room : Nat) : Writes (writtenType room) WrittenType.WrittenAs := by
  induction room with
  | zero => exact fun _ _ _ quiet => absurd quiet Quiet.not_fail
  | succ room ih =>
      intro cursor written after quiet
      have rest := quiet.look
      split at rest
      · next kind =>
          obtain ⟨_, second, skipped, rest⟩ := rest.bind
          obtain ⟨rfl, rfl⟩ := rest.pure
          obtain ⟨spells, regular⟩ :=
            skipped.skip (ahead_ne_nil_of_current quiet.orderly (by simp [kind]))
          obtain ⟨text, name, same⟩ := regular.eq_name kind
          have value : cursor.current.value = .text text := congrArg TokenContent.value same
          rw [value]
          exact ⟨_, same ▸ spells, .named _ name⟩
      · next kind =>
          obtain ⟨_, second, skipped, rest⟩ := rest.bind
          obtain ⟨rfl, rfl⟩ := rest.pure
          obtain ⟨spells, regular⟩ :=
            skipped.skip (ahead_ne_nil_of_current quiet.orderly (by simp [kind]))
          obtain ⟨text, name, same⟩ := regular.eq_string (.inr kind)
          have value : cursor.current.value = .text text := congrArg TokenContent.value same
          rw [value]
          exact ⟨_, same ▸ spells, .quoted _ (name kind)⟩
      · next kind =>
          obtain ⟨_, second, skipped, rest⟩ := rest.bind
          obtain ⟨element, third, inner, rest⟩ := rest.bind
          obtain ⟨_, fourth, closed, rest⟩ := rest.bind
          obtain ⟨rfl, rfl⟩ := rest.look.pure
          obtain ⟨tokens, spells, writes⟩ := ih inner
          exact ⟨_, ((skipped.skipFixed kind rfl).cons spells).trans closed.expectSymbol,
            .list _ writes⟩
      · exact absurd rest Quiet.not_fail

theorem typedVar_writes (room : Nat) : Writes (typedVar room) TypedVar.WrittenAs := by
  intro cursor var after quiet
  obtain ⟨name, second, named, rest⟩ := quiet.bind
  obtain ⟨_, third, colon, rest⟩ := rest.bind
  obtain ⟨written, fourth, typed, rest⟩ := rest.bind
  obtain ⟨rfl, rfl⟩ := rest.look.pure
  obtain ⟨tokens, spells, writes⟩ := writtenType_writes room typed
  exact ⟨_, named.identifier.1.cons (colon.expectSymbol.cons spells), .annotated writes⟩

/-! ## Operands -/

/-- The token of a literal or a name writes it. -/
theorem atom?_bareAs {token : Token} {atom : Expr} (regular : token.content.Regular)
    (found : atom? token = some atom) : atom.BareAs [token.content] ∧ .access ≤ atom.level := by
  unfold atom? at found
  dsimp only at found
  split at found
  · next kind =>
      cases found
      obtain ⟨text, -, same⟩ := regular.eq_name kind
      have value : token.value = .text text := congrArg TokenContent.value same
      rw [same, value]
      exact ⟨.name ⟨_, text⟩, Nat.le_refl _⟩
  · next kind =>
      cases found
      obtain ⟨value, same⟩ := regular.eq_integer kind
      have number : token.value = .integer value := congrArg TokenContent.value same
      rw [same, number]
      exact ⟨.integer _ value, Nat.le_refl _⟩
  · next kind =>
      cases found
      obtain ⟨text, -, same⟩ := regular.eq_string (.inl kind)
      have value : token.value = .text text := congrArg TokenContent.value same
      rw [same, value]
      exact ⟨.string _ text, Nat.le_refl _⟩
  · next kind =>
      cases found
      obtain ⟨text, -, same⟩ := regular.eq_string (.inr kind)
      have value : token.value = .text text := congrArg TokenContent.value same
      rw [same, value]
      exact ⟨.string _ text, Nat.le_refl _⟩
  · next kind =>
      cases found
      have same : token.content = .word .kwTrue :=
        regular.eq_of_content? (by rw [Token.kind_content, kind]; rfl)
      rw [same]
      exact ⟨.boolean _ true, Nat.le_refl _⟩
  · next kind =>
      cases found
      have same : token.content = .word .kwFalse :=
        regular.eq_of_content? (by rw [Token.kind_content, kind]; rfl)
      rw [same]
      exact ⟨.boolean _ false, Nat.le_refl _⟩
  · next kind =>
      cases found
      have same : token.content = .word .kwNone :=
        regular.eq_of_content? (by rw [Token.kind_content, kind]; rfl)
      rw [same]
      exact ⟨.none _, Nat.le_refl _⟩
  · cases found

/-- The tokens write the expression wherever an operand may stand. -/
theorem primary_writes {expression : Parse Expr} [Forward expression]
    (each : Writes expression (Expr.WrittenAs .lowest)) :
    Writes (primary expression) (Expr.WrittenAs .access) := by
  intro cursor expr after quiet
  have rest := quiet.look
  split at rest
  · next atom found =>
      obtain ⟨_, second, skipped, rest⟩ := rest.bind
      obtain ⟨rfl, rfl⟩ := rest.pure
      have text : cursor.current.kind ≠ .endOfFile := by
        rintro kind
        simp [atom?, kind] at found
      obtain ⟨spells, regular⟩ := skipped.skip (ahead_ne_nil_of_current quiet.orderly text)
      obtain ⟨bare, tight⟩ := atom?_bareAs regular found
      exact ⟨_, spells, .bare tight bare⟩
  · split at rest
    · next kind =>
        obtain ⟨_, second, skipped, rest⟩ := rest.bind
        obtain ⟨inner, third, read, rest⟩ := rest.bind
        obtain ⟨_, fourth, closed, rest⟩ := rest.bind
        obtain ⟨rfl, rfl⟩ := rest.pure
        obtain ⟨tokens, spells, writes⟩ := each read
        exact ⟨_, ((skipped.skipFixed kind rfl).cons spells).trans closed.expectSymbol,
          .parenthesized writes⟩
    · next kind =>
        obtain ⟨_, second, skipped, rest⟩ := rest.bind
        obtain ⟨elements, third, read, rest⟩ := rest.bind
        obtain ⟨_, fourth, closed, rest⟩ := rest.bind
        obtain ⟨rfl, rfl⟩ := rest.look.pure
        obtain ⟨tokens, spells, writes⟩ := commaList_writes _ each read
        exact ⟨_, ((skipped.skipFixed kind rfl).cons spells).trans closed.expectSymbol,
          .bare (Nat.le_refl _) (.list _ writes)⟩
    · exact absurd rest Quiet.not_fail
    · exact absurd rest Quiet.not_fail

/-- Whatever continuation stands at the cursor may take the expression as its left operand. -/
def Yielding (expr : Expr) (tokens : List TokenContent) (after : Cursor) : Prop :=
  ∀ next, Continuation.ofKind? after.kind = some next → expr.WrittenAs next.leftLevel tokens

/--
The reader of operands writes what binds more tightly than the floor, and stops where no
continuation binds so tightly.
-/
def WritesAbove (expression : Precedence → Parse Expr) (floor : Precedence) : Prop :=
  ∀ ⦃cursor : Cursor⦄ ⦃expr : Expr⦄ ⦃after : Cursor⦄, Quiet (expression floor) cursor expr after →
    ∃ tokens, cursor.Spells tokens after ∧ expr.WrittenAs (floor + 1) tokens ∧
      continuationAbove? floor after = none

theorem WritesAbove.writes {expression : Precedence → Parse Expr} {floor : Precedence}
    (each : WritesAbove expression floor) :
    Writes (expression floor) (Expr.WrittenAs (floor + 1)) := by
  intro cursor expr after quiet
  obtain ⟨tokens, spells, writes, -⟩ := each quiet
  exact ⟨tokens, spells, writes⟩

theorem WritesAbove.writes_lowest {expression : Precedence → Parse Expr}
    (each : WritesAbove expression .lowest) :
    Writes (expression .lowest) (Expr.WrittenAs .lowest) := by
  intro cursor expr after quiet
  obtain ⟨tokens, spells, writes⟩ := each.writes quiet
  exact ⟨tokens, spells, writes.mono (Nat.zero_le _)⟩

/-- Where no continuation binds more tightly than the floor, the next one is no tighter. -/
theorem precedence_le_of_stop {floor : Precedence} {next : Continuation}
    (stops : continuationAbove? floor cursor = none)
    (stands : Continuation.ofKind? cursor.kind = some next) : next.precedence ≤ floor := by
  simpa [continuationAbove?, stands, Option.filter] using stops

/-- What stands in the tightest place yields to every continuation. -/
theorem yielding_of_access {expr : Expr} {tokens : List TokenContent}
    (writes : expr.WrittenAs .access tokens) : Yielding expr tokens after := by
  intro next _
  refine writes.mono ?_
  cases next with
  | operator sign => cases sign <;> exact Nat.le_of_ble_eq_true rfl
  | _ => exact Nat.le_of_ble_eq_true rfl

/-- What was read up to where no continuation binds more tightly yields to the next one. -/
theorem yielding_of_bare {expr : Expr} {tokens : List TokenContent} {floor : Precedence}
    (bare : expr.BareAs tokens) (stops : continuationAbove? floor after = none)
    (level : Precedence) (tightness : expr.level = level) (within : floor ≤ level)
    (noChoice : Precedence.conditional < level)
    (noComparison : atComparison after = true → level ≠ .comparison) :
    Yielding expr tokens after := by
  intro next stands
  rw [← tightness] at within noChoice noComparison
  refine .bare (leftLevel_le ?_ noChoice fun comparison => ?_) bare
  · exact Nat.le_trans (precedence_le_of_stop stops stands) within
  · exact noComparison (by simp [atComparison, stands, comparison])

section Operators

variable {expression : Precedence → Parse Expr} [∀ floor, Forward (expression floor)]
  (each : ∀ floor, floor ≤ .multiplicative → WritesAbove expression floor)

include each

theorem operand_writes {floor : Precedence} (bounded : floor ≤ .multiplicative) {expr : Expr}
    (quiet : Quiet (operand expression floor) cursor expr after) :
    ∃ tokens, cursor.Spells tokens after ∧ expr.WrittenAs (floor + 1) tokens ∧
      Yielding expr tokens after := by
  have rest := quiet.look
  split at rest
  · next kind =>
      obtain ⟨_, second, skipped, rest⟩ := rest.bind
      obtain ⟨inner, third, read, rest⟩ := rest.bind
      obtain ⟨rfl, rfl⟩ := rest.look.pure
      obtain ⟨tokens, spells, writes, stops⟩ := each _ (Nat.le_refl _) read
      have bare := Expr.BareAs.neg (.ofSpan (third.spanFrom cursor.current.span)) writes
      exact ⟨_, (skipped.skipFixed kind rfl).cons spells, .bare (Nat.succ_le_succ bounded) bare,
        yielding_of_bare bare stops .sign rfl (Nat.le_succ _) (by decide) fun _ => by decide⟩
  · next kind =>
      split at rest
      · exact absurd rest Quiet.not_fail
      · next above =>
          obtain ⟨_, second, skipped, rest⟩ := rest.bind
          obtain ⟨inner, third, read, rest⟩ := rest.bind
          obtain ⟨rfl, rfl⟩ := rest.look.pure
          obtain ⟨tokens, spells, writes, stops⟩ := each _ (by decide) read
          have bare := Expr.BareAs.not (.ofSpan (third.spanFrom cursor.current.span)) writes
          exact ⟨_, (skipped.skipFixed kind rfl).cons spells, .bare (Nat.lt_of_not_le above) bare,
            yielding_of_bare bare stops .negation rfl (Nat.le_refl _) (by decide) fun _ => by decide⟩
  · obtain ⟨tokens, spells, writes⟩ := primary_writes (each _ (Nat.zero_le _)).writes_lowest rest
    exact ⟨tokens, spells, writes.mono (Nat.succ_le_succ (Nat.le_trans bounded (by decide))),
      yielding_of_access writes⟩

end Operators

/-! ## Continuations -/

/--
With what was read before it, the continuation from its second token on makes up an expression,
which may be the left operand of whatever stands behind it.
-/
def Continues (next : Continuation) (before : List TokenContent) (reader : Parse Expr) : Prop :=
  ∀ ⦃cursor : Cursor⦄ ⦃expr : Expr⦄ ⦃after : Cursor⦄, Quiet reader cursor expr after →
    ∃ tokens, cursor.Spells tokens after ∧ expr.BareAs (before ++ next.content :: tokens) ∧
      next.precedence ≤ expr.level ∧ Yielding expr (before ++ next.content :: tokens) after

/-- Where nothing binds more tightly than the lowest place, there is nothing to yield to. -/
theorem yielding_of_lowest {expr : Expr} {tokens : List TokenContent}
    (stops : continuationAbove? .lowest after = none) : Yielding expr tokens after := by
  intro next stands
  have least := precedence_le_of_stop stops stands
  cases next with
  | operator sign => cases sign <;> exact absurd least (by decide)
  | _ => exact absurd least (by decide)

theorem yielding_of_level {expr : Expr} {tokens : List TokenContent} (bare : expr.BareAs tokens)
    (tight : .access ≤ expr.level) : Yielding expr tokens after :=
  yielding_of_access (.bare tight bare)

section Access

variable {expression : Parse Expr} [Forward expression]
  (whole : Writes expression (Expr.WrittenAs .lowest)) {start : Span} {left : Expr}
  {before : List TokenContent}

include whole

theorem arguments_writes :
    Writes (arguments expression) fun args tokens => ∃ inside,
      SeparatedAs (.sign .comma) (Expr.WrittenAs .lowest) args inside ∧
        tokens = inside ++ [.sign .rightParen] := by
  intro cursor args after quiet
  obtain ⟨elements, second, read, rest⟩ := quiet.bind
  obtain ⟨_, third, closed, rest⟩ := rest.bind
  obtain ⟨rfl, rfl⟩ := rest.pure
  obtain ⟨tokens, spells, writes⟩ := commaList_writes _ whole read
  exact ⟨_, spells.trans closed.expectSymbol, tokens, writes, rfl⟩

theorem fieldOf_continues (tight : left.WrittenAs .access before) :
    Continues .field before (fieldOf expression start left) := by
  intro cursor expr after quiet
  obtain ⟨name, second, named, rest⟩ := quiet.bind
  obtain ⟨called, third, accepted, rest⟩ := rest.look.bind
  obtain ⟨rfl, stands⟩ | ⟨rfl, rfl, -⟩ := accepted.accept rfl
  · obtain ⟨args, fourth, read, rest⟩ := rest.bind
    obtain ⟨rfl, rfl⟩ := rest.look.pure
    obtain ⟨_, spells, inside, writes, rfl⟩ := arguments_writes whole read
    have bare := Expr.BareAs.methodCall (.ofSpan (fourth.spanFrom start))
      (.ofSpan (second.spanFrom start)) name tight writes
    exact ⟨_, named.identifier.1.cons (stands.cons spells), bare, Nat.le_refl _,
      yielding_of_level bare (Nat.le_refl _)⟩
  · obtain ⟨rfl, rfl⟩ := rest.pure
    have bare := Expr.BareAs.member (.ofSpan (second.spanFrom start)) name tight
    exact ⟨_, named.identifier.1, bare, Nat.le_refl _, yielding_of_level bare (Nat.le_refl _)⟩

theorem elementOf_continues (tight : left.WrittenAs .access before) :
    Continues .element before (elementOf expression start left) := by
  intro cursor expr after quiet
  obtain ⟨position, second, read, rest⟩ := quiet.bind
  obtain ⟨_, third, closed, rest⟩ := rest.bind
  obtain ⟨rfl, rfl⟩ := rest.look.pure
  obtain ⟨tokens, spells, writes⟩ := whole read
  have bare := Expr.BareAs.index (.ofSpan (third.spanFrom start)) tight writes
  exact ⟨_, spells.trans closed.expectSymbol, bare, Nat.le_refl _,
    yielding_of_level bare (Nat.le_refl _)⟩

theorem callOf_continues {paren : Span} (tight : left.WrittenAs .access before) :
    Continues .call before (callOf expression start paren left) := by
  intro cursor expr after quiet
  unfold callOf at quiet
  split at quiet
  · next function =>
      obtain ⟨args, second, read, rest⟩ := quiet.bind
      obtain ⟨rfl, rfl⟩ := rest.look.pure
      obtain ⟨_, spells, inside, writes, rfl⟩ := arguments_writes whole read
      have bare := Expr.BareAs.call (.ofSpan (second.spanFrom start)) tight writes
      exact ⟨_, spells, bare, Nat.le_refl _, yielding_of_level bare (Nat.le_refl _)⟩
  · exact absurd quiet Quiet.not_throw

end Access

section Continued

variable {expression : Precedence → Parse Expr} [∀ floor, Forward (expression floor)]
  (each : ∀ floor, floor ≤ .multiplicative → WritesAbove expression floor) {start : Span}
  {left : Expr} {before : List TokenContent}

include each

theorem operationOf_continues {operator : BinaryOperator}
    (tight : left.WrittenAs operator.leftLevel before) :
    Continues (.operator operator) before (operationOf expression start operator left) := by
  intro cursor expr after quiet
  obtain ⟨right, second, read, rest⟩ := quiet.bind
  have bounded : operator.precedence ≤ .multiplicative := by cases operator <;> decide
  have proper : Precedence.conditional < operator.precedence := by cases operator <;> decide
  obtain ⟨tokens, spells, writes, stops⟩ := each _ bounded read
  have bare := Expr.BareAs.binary (.ofSpan (second.spanFrom start)) operator tight writes
  have rest := rest.look
  split at rest
  · have rest := rest.look
    split at rest
    · obtain ⟨_, _, failed, -⟩ := rest.bind
      exact absurd failed Quiet.not_fail
    · next apart =>
        obtain ⟨rfl, rfl⟩ := rest.pure
        exact ⟨tokens, spells, bare, Nat.le_refl _,
          yielding_of_bare bare stops operator.precedence rfl (Nat.le_refl _) proper
            fun stands => absurd stands apart⟩
  · next other =>
      obtain ⟨rfl, rfl⟩ := rest.pure
      exact ⟨tokens, spells, bare, Nat.le_refl _,
        yielding_of_bare bare stops operator.precedence rfl (Nat.le_refl _) proper
          fun _ => by simpa using other⟩

theorem choiceOf_continues (tight : left.WrittenAs .disjunction before) :
    Continues .conditional before (choiceOf expression start left) := by
  intro cursor expr after quiet
  obtain ⟨condition, second, asked, rest⟩ := quiet.bind
  obtain ⟨_, third, stands, rest⟩ := rest.bind
  obtain ⟨otherwise, fourth, read, rest⟩ := rest.bind
  obtain ⟨rfl, rfl⟩ := rest.look.pure
  obtain ⟨middle, spells, writes⟩ := (each _ (by decide)).writes asked
  obtain ⟨last, spells', writes', stops⟩ := each _ (Nat.zero_le _) read
  have bare := Expr.BareAs.conditional (.ofSpan (fourth.spanFrom start)) tight writes writes'
  exact ⟨_, spells.trans ((stands.expectFixed rfl).cons spells'), bare, Nat.le_refl _,
    yielding_of_lowest stops⟩

omit each [∀ floor, Forward (expression floor)] in
/-- The first token of a continuation is the one at the cursor. -/
theorem Continues.behind {next : Continuation} {reader : Token → Parse Expr} {expr : Expr}
    [∀ token, Forward (reader token)] (continues : ∀ token, Continues next before (reader token))
    (stands : Continuation.ofKind? cursor.kind = some next)
    (quiet : Quiet (advance >>= reader) cursor expr after) :
    ∃ tokens, cursor.Spells tokens after ∧ expr.BareAs (before ++ tokens) ∧
      next.precedence ≤ expr.level ∧ Yielding expr (before ++ tokens) after := by
  have content := content?_of_ofKind? stands
  obtain ⟨token, second, passed, rest⟩ := quiet.bind
  have more := ahead_ne_nil_of_kind rfl (Quiet.ne_endOfFile content)
  obtain ⟨rfl, spells, regular⟩ := passed.advance more
  have kind : cursor.current.content.kind = cursor.kind := kind_current_of_ahead more
  rw [regular.eq_of_content? (kind ▸ content)] at spells
  obtain ⟨tokens, spells', bare, level, yielding⟩ := continues _ rest
  exact ⟨_, spells.cons spells', bare, level, yielding⟩

theorem continuation_writes {next : Continuation} {expr : Expr}
    (tight : left.WrittenAs next.leftLevel before)
    (stands : Continuation.ofKind? cursor.kind = some next)
    (quiet : Quiet (continuation expression start left next) cursor expr after) :
    ∃ tokens, cursor.Spells tokens after ∧ expr.BareAs (before ++ tokens) ∧
      next.precedence ≤ expr.level ∧ Yielding expr (before ++ tokens) after := by
  have whole := (each _ (Nat.zero_le _)).writes_lowest
  cases next with
  | operator sign => exact Continues.behind (fun _ => operationOf_continues each tight) stands quiet
  | conditional => exact Continues.behind (fun _ => choiceOf_continues each tight) stands quiet
  | field => exact Continues.behind (fun _ => fieldOf_continues whole tight) stands quiet
  | element => exact Continues.behind (fun _ => elementOf_continues whole tight) stands quiet
  | call => exact Continues.behind (fun _ => callOf_continues whole tight) stands quiet

end Continued

/-! ## Expressions -/

/-- What has been read above the floor is read on to the end of what binds so tightly. -/
theorem continued_writes (room : Nat)
    (each : ∀ room' < room, ∀ floor ≤ .multiplicative, WritesAbove (expressionAbove room') floor)
    {floor : Precedence} {start : Span} {left expr : Expr} {first : Cursor}
    {before : List TokenContent} (read : first.Spells before cursor)
    (writes : left.WrittenAs (floor + 1) before) (yielding : Yielding left before cursor)
    (quiet : Quiet (continued room floor start left) cursor expr after) :
    ∃ tokens, first.Spells tokens after ∧ expr.WrittenAs (floor + 1) tokens ∧
      continuationAbove? floor after = none := by
  induction room generalizing left cursor before with
  | zero =>
      unfold continued at quiet
      have rest := quiet.look
      split at rest
      · next stops =>
          obtain ⟨rfl, rfl⟩ := rest.pure
          exact ⟨before, read, writes, stops⟩
      · exact absurd rest Quiet.not_fail
  | succ room ih =>
      unfold continued at quiet
      have rest := quiet.look
      split at rest
      · next stops =>
          obtain ⟨rfl, rfl⟩ := rest.pure
          exact ⟨before, read, writes, stops⟩
      · next next goesOn =>
          obtain ⟨stands, above⟩ := Option.filter_eq_some_iff.mp goesOn
          obtain ⟨value, middle, continued, rest⟩ := rest.bind
          obtain ⟨tokens, spells, bare, level, yielding⟩ :=
            continuation_writes (each room (Nat.lt_succ_self room)) (yielding next stands) stands
              continued
          have above : floor + 1 ≤ value.level := Nat.lt_of_lt_of_le (by simpa using above) level
          exact ih (fun smaller less => each smaller (Nat.lt_succ_of_lt less)) (read.trans spells)
            (.bare above bare) yielding rest

theorem expressionAbove_writes (room : Nat) (floor : Precedence)
    (bounded : floor ≤ .multiplicative) : WritesAbove (expressionAbove room) floor := by
  induction room using Nat.strongRecOn generalizing floor with
  | ind room ih =>
      intro cursor expr after quiet
      cases room with
      | zero => exact absurd quiet Quiet.not_fail
      | succ room =>
          have smaller := ih room (Nat.lt_succ_self room)
          unfold expressionAbove at quiet
          obtain ⟨left, middle, first, rest⟩ := quiet.look.bind
          obtain ⟨tokens, spells, writes, yielding⟩ := operand_writes smaller bounded first
          exact continued_writes room (fun other less => ih other (Nat.lt_succ_of_lt less)) spells
            writes yielding rest

/-- The tokens of an expression that is read without problems write it. -/
theorem expression_writes (room : Nat) : Writes (expression room) (Expr.WrittenAs .lowest) :=
  (expressionAbove_writes room .lowest (Nat.zero_le _)).writes_lowest

end Parse
end ChocoLang
