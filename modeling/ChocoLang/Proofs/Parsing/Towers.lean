import ChocoLang.Proofs.Parsing.Advancing
import ChocoLang.Proofs.Parsing.Agreement.Declaration
import ChocoLang.Proofs.Parsing.RoundTrip.Program
import ChocoLang.Proofs.Parsing.Shallow

/-!
# Towers

A tower is a list of one tower, which takes one level less, with as many calls behind it as levels
are left once the list is closed.  It is as high as an expression can be that is read with so much
room, so the square of the limit for nesting is the exact bound on the heights of expressions.
-/

namespace ChocoLang

/-- The tokens of calls of a method without arguments, one behind the other. -/
def callTokens : Nat → List Token
  | 0 => []
  | count + 1 =>
    (TokenContent.sign .dot).token :: (TokenContent.name "a").token ::
      (TokenContent.sign .leftParen).token :: (TokenContent.sign .rightParen).token ::
        callTokens count

/-- The tokens of a tower that is read with room for one level more than so many. -/
def towerTokens : Nat → List Token
  | 0 => [(TokenContent.name "a").token]
  | levels + 1 =>
    (TokenContent.sign .leftBracket).token :: (towerTokens levels ++
      (TokenContent.sign .rightBracket).token :: callTokens (levels + 1))

/-- A tower does not begin with a closing bracket. -/
theorem kindAt_towerTokens (levels : Nat) (rest : List Token) :
    kindAt (towerTokens levels ++ rest) ≠ .symbol .rightBracket := by
  cases levels <;> simp [towerTokens, kindAt, TokenContent.token]

namespace Parse

/-- The reader returns an expression of the height, stops before `rest` and records nothing. -/
def Climbs (reader : Parse Expr) (cursor : Cursor) (rest : List Token) (height : Nat) : Prop :=
  ∃ expr after, reader cursor = .ok expr after ∧ expr.outline.height = height ∧
    after.ahead = rest ∧ after.problems = cursor.problems

section Climbing

variable {cursor : Cursor} {rest : List Token}

/-- A call of a method without arguments is two nodes higher than the object. -/
theorem continuation_climbs (expression : Precedence → Parse Expr) (start : Span) (left : Expr)
    {count : Nat} (ahead : cursor.ahead = callTokens (count + 1) ++ rest) :
    Climbs (continuation expression start left .field) cursor (callTokens count ++ rest)
      (left.outline.height + 2) := by
  have positive := left.outline.height_pos
  obtain ⟨_, ending, last, position, problems⟩ := cursor
  obtain rfl := ahead
  refine ⟨.methodCall _ _ left _ [], _, rfl, ?_, rfl, rfl⟩
  simp [Expr.outline, Expr.outlines]
  omega

/-- Each call takes one level, as long as there are levels. -/
theorem continued_climbs (closed : Continuation.ofKind? (kindAt rest) = none) (start : Span)
    {count room : Nat} (fits : count ≤ room) (left : Expr)
    (ahead : cursor.ahead = callTokens count ++ rest) :
    Climbs (continued room .lowest start left) cursor rest (left.outline.height + 2 * count) := by
  induction count generalizing room left cursor with
  | zero =>
      have nothing : continuationAbove? .lowest cursor = none := by
        simp [continuationAbove?, Cursor.kind_eq_kindAt, ahead, callTokens, closed]
      have returned : continued room .lowest start left cursor = .ok left cursor := by
        cases room <;> rw [continued, look_bind, nothing] <;> rfl
      exact ⟨left, cursor, returned, rfl, ahead, rfl⟩
  | succ count ih =>
      obtain ⟨room, rfl⟩ := Nat.exists_eq_succ_of_ne_zero (Nat.ne_of_gt (Nat.zero_lt_of_lt fits))
      have found : continuationAbove? .lowest cursor = some .field := by
        simp [continuationAbove?, Cursor.kind_eq_kindAt, ahead, callTokens, kindAt,
          TokenContent.token, Continuation.ofKind?, Precedence.lowest, Continuation.precedence]
        decide
      obtain ⟨longer, middle, called, high, behind, quiet⟩ :=
        continuation_climbs (expressionAbove room) start left ahead
      obtain ⟨expr, after, read, higher, stops, silent⟩ :=
        ih (Nat.le_of_succ_le_succ fits) longer behind
      refine ⟨expr, after, ?_, by omega, stops, silent.trans quiet⟩
      rw [continued, look_bind, found]
      exact (bind_of_ok called).trans read

theorem commaList_of_single {close : Symbol} {item : Parse Expr} {value : Expr} {after : Cursor}
    (opens : cursor.kind ≠ .symbol close) (read : item cursor = .ok value after)
    (ends : after.kind ≠ .symbol .comma) :
    commaList close item cursor = .ok [value] after := by
  rw [commaList, check, look_bind, beq_eq_false_iff_ne.mpr opens]
  exact (bind_of_ok read).trans (bind_of_ok (itemsAfter_of_ne ends))

/-- A list of one element is one node higher than the element. -/
theorem primary_climbs {expression : Parse Expr} {inside : List Token} {height : Nat}
    (ahead : cursor.ahead = (TokenContent.sign .leftBracket).token :: inside)
    (opens : kindAt inside ≠ .symbol .rightBracket)
    (climbs : Climbs expression cursor.advance
      ((TokenContent.sign .rightBracket).token :: rest) height) :
    Climbs (primary expression) cursor rest (height + 1) := by
  obtain ⟨element, after, read, high, behind, quiet⟩ := climbs
  have stands : cursor.current.kind = .symbol .leftBracket := by
    simp [Cursor.current, ahead, TokenContent.token]
  have next : cursor.advance.kind ≠ .symbol .rightBracket := by
    rwa [Cursor.kind_eq_kindAt, Cursor.ahead_advance, ahead]
  have closes : after.kind = .symbol .rightBracket := by
    rw [Cursor.kind_eq_kindAt, behind]
    rfl
  have elements := commaList_of_single next read (by simp [closes])
  have bracket : expectSymbol .rightBracket .closeList after = .ok () after.advance :=
    bind_of_ok (expect_of_kind closes _)
  refine ⟨.list (.ofSpan (after.advance.spanFrom cursor.current.span)) [element], after.advance,
    ?_, by simp [Expr.outline, Expr.outlines, high], by simp [behind], by simp [quiet]⟩
  rw [primary_of_symbol stands]
  exact (bind_of_ok elements).trans (bind_of_ok bracket)

end Climbing

/-- Behind an operand, an expression has one level less for the calls than it was given. -/
theorem expressionAbove_climbs {levels : Nat} {cursor : Cursor} {rest : List Token}
    (closed : Continuation.ofKind? (kindAt rest) = none)
    (first : Climbs (operand (expressionAbove levels) .lowest) cursor (callTokens levels ++ rest)
      (levels * levels + 1)) :
    Climbs (expressionAbove (levels + 1) .lowest) cursor rest ((levels + 1) * (levels + 1)) := by
  obtain ⟨left, middle, read, high, behind, quiet⟩ := first
  obtain ⟨expr, after, longer, higher, stops, silent⟩ :=
    continued_climbs closed cursor.current.span (Nat.le_refl levels) left behind
  have square := square_succ levels
  refine ⟨expr, after, ?_, by omega, stops, silent.trans quiet⟩
  rw [expressionAbove, look_bind]
  exact (bind_of_ok read).trans longer

/-- A tower is as high as the square of the room for it. -/
theorem tower_climbs (levels : Nat) {cursor : Cursor} {rest : List Token}
    (closed : Continuation.ofKind? (kindAt rest) = none)
    (ahead : cursor.ahead = towerTokens levels ++ rest) :
    Climbs (expressionAbove (levels + 1) .lowest) cursor rest ((levels + 1) * (levels + 1)) := by
  -- The tower in the brackets has its own room; behind the brackets all levels are there again.
  induction levels generalizing cursor rest with
  | zero =>
      have name : cursor.current = (TokenContent.name "a").token := by
        simp [Cursor.current, ahead, towerTokens]
      have found : atom? cursor.current =
          some (.name { info := .ofSpan (.point "" 1 1), name := "a" }) := by
        rw [name]
        rfl
      refine expressionAbove_climbs closed ⟨_, cursor.advance, operand_of_atom found, ?_, ?_, ?_⟩
      · simp [Expr.outline]
      · simp [ahead, towerTokens, callTokens]
      · simp
  | succ levels ih =>
      have bracket : cursor.current.kind = .symbol .leftBracket := by
        simp [Cursor.current, ahead, towerTokens, TokenContent.token]
      have primary : operand (expressionAbove (levels + 1)) .lowest cursor =
          Parse.primary (expressionAbove (levels + 1) .lowest) cursor :=
        operand_eq_primary (by simp [bracket]) (by simp [bracket])
      have inside : Climbs (Parse.primary (expressionAbove (levels + 1) .lowest)) cursor
          (callTokens (levels + 1) ++ rest) ((levels + 1) * (levels + 1) + 1) := by
        refine primary_climbs (by rw [ahead, towerTokens, List.cons_append]) ?_ (ih rfl ?_)
        · rw [List.append_assoc]
          exact kindAt_towerTokens levels _
        · simp [ahead, towerTokens]
      refine expressionAbove_climbs closed ?_
      obtain ⟨left, middle, read, more⟩ := inside
      exact ⟨left, middle, primary.trans read, more⟩

/-! ## A program of one tower -/

/-- A tower with as many levels as there may be is a whole program. -/
theorem programBody_climbs {cursor : Cursor}
    (ahead : cursor.ahead = towerTokens (nestingLimit - 1) ++ [TokenContent.newline.token]) :
    ∃ info value, (programBody cursor).1.statements = [.expr info value] ∧
      value.outline.height = nestingLimit * nestingLimit ∧
        (programBody cursor).2.problems = cursor.problems := by
  obtain ⟨value, middle, read, high, behind, quiet⟩ := tower_climbs (nestingLimit - 1) rfl ahead
  have begins : cursor.kind = .symbol .leftBracket := by
    rw [Cursor.kind_eq_kindAt, ahead]
    rfl
  have ends : middle.kind = .newline := by
    rw [Cursor.kind_eq_kindAt, behind]
    rfl
  have plain : cursor.atDeclaration = false := by simp [Cursor.atDeclaration, begins]
  have line : statement (expression nestingLimit) (block nestingLimit) cursor = _ :=
    statement_of_expression (by rw [← cursor.kind_eq_kindAt, begins]; rfl) plain read ends
  let stmt := Stmt.expr (.ofSpan (middle.spanFrom cursor.current.span)) value
  have step : programStep {} cursor = ({ statements := [stmt] }, middle.advance) := by
    have noDedent : (cursor.kind == .dedent) = false := by rw [begins]; rfl
    rw [programStep_apply, noDedent, plain]
    exact recovering_of_ok (bind_of_ok line)
  have goesOn : cursor.atEnd = false := by
    simp [Cursor.atEnd, ahead]
  have halted : middle.advance.atEnd = true := by
    simp [Cursor.atEnd, behind]
  have length : cursor.ahead.length = (towerTokens (nestingLimit - 1)).length + 1 := by
    simp [ahead]
  have whole : programBody cursor = ({ statements := [stmt] }, middle.advance) := by
    change repeatUntil Cursor.atEnd programStep cursor.ahead.length {} cursor = _
    rw [length, repeatUntil_of_goesOn goesOn, step]
    exact repeatUntil_of_halt halted _
  rw [whole]
  exact ⟨_, value, rfl, high, by simpa using quiet⟩

end Parse

/-! ## The exact bound -/

/-- The tokens of a program that is a tower with as many levels as there may be. -/
def towerProgram : List Token :=
  towerTokens (nestingLimit - 1) ++ [TokenContent.newline.token] ++ [endToken]

theorem kind_of_mem_callTokens {count : Nat} {token : Token} (among : token ∈ callTokens count) :
    token.kind ≠ .endOfFile := by
  induction count with
  | zero => cases among
  | succ count ih =>
      simp only [callTokens, List.mem_cons] at among
      rcases among with rfl | rfl | rfl | rfl | later
      any_goals decide
      exact ih later

theorem kind_of_mem_towerTokens {levels : Nat} {token : Token}
    (among : token ∈ towerTokens levels) : token.kind ≠ .endOfFile := by
  induction levels with
  | zero =>
      obtain rfl := List.mem_singleton.mp among
      decide
  | succ levels ih =>
      simp only [towerTokens, List.mem_cons, List.mem_append] at among
      rcases among with rfl | inside | rfl | behind
      · decide
      · exact ih inside
      · decide
      · exact kind_of_mem_callTokens behind

/-- A program of one tower has no errors and holds an expression as high as can be. -/
theorem Program.height_ofTokens_tower (file : String) {tokens : List Token}
    (nonempty : tokens ≠ []) (tower : tokens = towerProgram) :
    let program := Program.ofTokens file [] tokens nonempty
    program.errors = [] ∧ ∃ one ∈ program.outline.preorder,
      one.label.kind.isExpression = true ∧ one.height = nestingLimit * nestingLimit := by
  have ahead : (Cursor.ofTokens tokens nonempty).ahead =
      towerTokens (nestingLimit - 1) ++ [TokenContent.newline.token] := by
    change tokens.takeWhile (fun token => token.kind != .endOfFile) = _
    rw [tower, towerProgram, List.takeWhile_append_of_pos]
    · simp [endToken]
    · intro token among
      rcases List.mem_append.mp among with inside | behind
      · exact bne_iff_ne.mpr (kind_of_mem_towerTokens inside)
      · obtain rfl := List.mem_singleton.mp behind
        rfl
  obtain ⟨info, value, statements, high, quiet⟩ := Parse.programBody_climbs ahead
  intro program
  have single : program.statements = [.expr info value] := statements
  have silent : (Parse.programBody (Cursor.ofTokens tokens nonempty)).2.problems = [] := quiet
  have errors : program.errors = [] := by
    change [] ++ (Parse.programBody (Cursor.ofTokens tokens nonempty)).2.diagnostics = []
    rw [Cursor.diagnostics, silent]
    rfl
  refine ⟨errors, value.outline, ?_, value.isExpression_outline, high⟩
  have inside : value.outline ∈ (Stmt.expr info value).outline.preorder := by
    simp [Stmt.outline, Outline.preorder, Outline.preorderAll, Outline.mem_preorder_self]
  have among : value.outline ∈ Outline.preorderAll (Stmt.outlines program.statements) :=
    Outline.mem_preorderAll.mpr ⟨_, by simp [single, Stmt.outlines], inside⟩
  rw [Program.outline, Outline.preorder, Outline.preorderAll_append]
  exact List.mem_cons_of_mem _ (List.mem_append_right _ among)

/--
Whatever the tokens are, no expression in the program is higher than the square of the limit for
nesting; and there are tokens of a program without errors in which an expression is as high.
-/
theorem Program.height_ofTokens_sharp (file : String) :
    (∀ (known : List Diagnostic) (tokens : List Token) (nonempty : tokens ≠ []),
      (Program.ofTokens file known tokens nonempty).outline.Shallow (nestingLimit * nestingLimit)) ∧
    ∃ (tokens : List Token) (nonempty : tokens ≠ []),
      (tokens.getLast nonempty).kind = .endOfFile ∧
      let program := Program.ofTokens file [] tokens nonempty
      program.errors = [] ∧ ∃ one ∈ program.outline.preorder,
        one.label.kind.isExpression = true ∧ one.height = nestingLimit * nestingLimit := by
  -- The tokens stay a variable, so that no step computes with those of the tower.
  obtain ⟨tokens, tower⟩ : ∃ tokens, tokens = towerProgram := ⟨_, rfl⟩
  have nonempty : tokens ≠ [] := by simp [tower, towerProgram]
  refine ⟨Program.shallow_outline_ofTokens file, tokens, nonempty, ?_,
    Program.height_ofTokens_tower file nonempty tower⟩
  simp [tower, towerProgram, endToken]

/-- A number negated 98 times, in parentheses, and two additions behind it. -/
def negatedSum : String := String.join ("(" :: List.replicate 98 "-" ++ ["1) + 1 + 1\n"])

/-- The levels that the negations in the parentheses took are free again for the additions. -/
theorem exists_expression_beyond_nestingLimit : ∃ program,
    Program.ofSource "<input>" negatedSum = .ok program ∧ program.errors = [] ∧
      ∃ one ∈ program.outline.preorder,
        one.label.kind.isExpression = true ∧ nestingLimit < one.height := by
  obtain ⟨program, read, facts⟩ : ∃ program, Program.ofSource "<input>" negatedSum =
      .ok program ∧ (program.errors.isEmpty && program.outline.preorder.any fun one =>
        one.label.kind.isExpression && decide (nestingLimit < one.height)) = true :=
    exists_ok_of_any (by decide +kernel)
  simp only [Bool.and_eq_true, List.isEmpty_iff, List.any_eq_true, decide_eq_true_eq] at facts
  exact ⟨program, read, facts⟩

end ChocoLang
