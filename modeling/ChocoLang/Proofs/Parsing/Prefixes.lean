import ChocoLang.Proofs.Parsing.Behind
import ChocoLang.Proofs.Parsing.Brackets
import ChocoLang.Proofs.Parsing.LineByLine
import ChocoLang.Proofs.Parsing.Room
import ChocoLang.Proofs.Parsing.RoundTrip.Statement
import ChocoLang.Proofs.Parsing.Yields

/-!
# Operators in front of an expression

Signs may stand in front of one another, as many as there is room for, since the operand of a sign
is read in a place that allows for another one.  A negation is different: its operand is read in the
place that the negation itself takes, and no negation may stand there.
-/

namespace ChocoLang

/-- The expression with an operator applied to it once for each info, the outermost one first. -/
def Expr.applied (operator : UnaryOperator) (expr : Expr) : List ExprInfo → Expr
  | [] => expr
  | info :: rest => .unary info operator (expr.applied operator rest)

namespace UnaryOperator

/-- The token that the operator is written as. -/
def lead : UnaryOperator → TokenKind
  | neg => .symbol .minus
  | not => .keyword .kwNot

/-- The place in which the operand is read. -/
def place : UnaryOperator → Precedence
  | neg => .multiplicative
  | not => .negation

/-- The operator may stand in a place. -/
def Fits (operator : UnaryOperator) (floor : Precedence) : Prop :=
  operator = not → floor < .negation

theorem fits_lowest (operator : UnaryOperator) : operator.Fits .lowest := fun _ => by decide

theorem fits_of_neg {operator : UnaryOperator} (sign : operator = neg) (floor : Precedence) :
    operator.Fits floor := by
  rintro rfl
  cases sign

theorem beginsExpr_lead (operator : UnaryOperator) : operator.lead.beginsExpr = true := by
  cases operator <;> rfl

end UnaryOperator

/-- The tokens are the last ones of the file, and no problem is known before them. -/
structure Cursor.Faces (tokens : List Token) (eof : Token) (cursor : Cursor) : Prop where
  /-- The tokens are ahead. -/
  ahead : cursor.ahead = tokens
  /-- The file ends behind them. -/
  ending : cursor.ending = eof
  /-- No problem has been found. -/
  problems : cursor.problems = []

namespace Cursor.Faces

variable {cursor : Cursor} {token eof : Token} {tokens : List Token}

theorem advance (faces : cursor.Faces (token :: tokens) eof) : cursor.advance.Faces tokens eof where
  ahead := by rw [ahead_advance, faces.ahead, List.tail_cons]
  ending := (Onward.advance cursor).ending.trans faces.ending
  problems := by rw [problems_advance, faces.problems]

theorem kind (faces : cursor.Faces (token :: tokens) eof) : cursor.kind = token.kind := by
  rw [kind_eq_kindAt, faces.ahead]
  rfl

theorem current (faces : cursor.Faces (token :: tokens) eof) : cursor.current = token := by
  rw [Cursor.current, faces.ahead, List.headD_cons]

end Cursor.Faces

namespace Parse

variable {α : Type}

/-! ## The same tokens elsewhere -/

/-- Where the same tokens are ahead and the same problems known, the same is read. -/
theorem Reads.of_ahead {reader : Parse α} [Agrees reader] {one other : Cursor}
    {rest : List Token} {accepts : α → Prop} (closed : one.Closed) (opens : Opens reader other)
    (ahead : other.ahead = one.ahead) (ending : other.ending = one.ending)
    (problems : other.problems = one.problems) (reads : Reads reader one rest accepts) :
    Reads reader other rest accepts := by
  let fork : Fork :=
    { rest := [], rest' := [], known := one.problems, known' := one.problems,
      ending := one.ending, head := rfl, plain := by simp [kindAt], closed }
  let moved : Cursor := { other with last := one.last }
  have alike : one.Alike fork moved :=
    ⟨⟨one.ahead, by simp [fork], by simp [fork, moved, ahead]⟩,
      ⟨[], by simp [fork], by simp [fork, moved, problems]⟩, rfl, rfl, ending⟩
  have same {after after' : Cursor} (alike : after.Alike fork after') :
      after'.ahead = after.ahead ∧ after'.problems = after.problems := by
    obtain ⟨front, tokens, tokens'⟩ := alike.tokens
    obtain ⟨found, recorded, recorded'⟩ := alike.problems
    exact ⟨tokens'.trans tokens.symm, recorded'.trans recorded.symm⟩
  have agree : Agree fork (reader one) (reader moved) :=
    Agrees.agrees fork alike List.nil_suffix
  have reads : Reads reader moved rest accepts := by
    unfold Reads at reads ⊢
    generalize reader one = result at agree reads
    generalize reader moved = result' at agree
    cases agree with
    | ok alike =>
        obtain ⟨tokens, recorded⟩ := same alike
        simpa only [Cursor.Exhausted, tokens, recorded, moved, problems] using reads
    | error alike =>
        simpa only [Cursor.Exhausted, (same alike).2] using reads
  unfold Reads at reads ⊢
  cases opens with
  | passes next text same =>
      rwa [show reader moved = reader other from (same one.last).trans (same other.last).symm]
        at reads
  | fails problem same =>
      rw [show reader moved = .error problem moved from same one.last] at reads
      rwa [show reader other = .error problem other from same other.last]

/--
What was read as a whole expression is read again in a place in which all its operators outside of
brackets may stand, as long as there is room.
-/
theorem expressionAbove_reads_again {start after cursor : Cursor} {expr : Expr}
    {level floor : Precedence} {room : Nat} (closed : start.Closed)
    (read : expression nestingLimit start = .ok expr after) (binds : Binds level 0 start.ahead)
    (below : floor < level) (within : room ≤ nestingLimit) (ahead : cursor.ahead = start.ahead)
    (ending : cursor.ending = start.ending) (problems : cursor.problems = start.problems) :
    Reads (expressionAbove room floor) cursor after.ahead (· = expr) := by
  have same : expressionAbove nestingLimit floor start = .ok expr after :=
    (expressionAbove_of_binds _ closed binds below
      (Nat.lt_of_le_of_lt (Nat.zero_le floor) below)).trans read
  have reads : Reads (expressionAbove room floor) start after.ahead (· = expr) := by
    unfold Reads
    obtain ⟨problem, last, failed, content⟩ | equal := exhausts_or_eq within floor start
    · rw [failed]
      exact .inl content
    · rw [equal, same]
      exact .inl ⟨rfl, rfl, problems_of_ok read⟩
  have here : cursor.Closed := by rwa [Cursor.Closed, ending]
  exact reads.of_ahead closed (expressionAbove_opens here room floor) ahead ending problems

/-! ## Operands of prefix operators -/

section Operands

variable {operator : UnaryOperator} {cursor : Cursor} {floor : Precedence} {room : Nat}
  {rest : List Token} {accepts : Expr → Prop}

/-- The operand of an operator is read in its place. -/
theorem operand_of_lead (expression : Precedence → Parse Expr)
    (stands : cursor.current.kind = operator.lead) (fits : operator.Fits floor) :
    operand expression floor cursor =
      (do
        modify Cursor.advance
        let inner ← expression operator.place
        return .unary (.ofSpan (← look (Cursor.spanFrom cursor.current.span))) operator inner :
          Parse Expr) cursor := by
  rw [operand, look_bind, stands]
  cases operator with
  | neg => rfl
  | not => exact congrFun (if_neg (Nat.not_le_of_lt (fits rfl))) cursor

/-- A negation may not stand in the place that a negation takes. -/
theorem operand_of_bareNot (expression : Precedence → Parse Expr)
    (stands : cursor.current.kind = .keyword .kwNot) (tight : .negation ≤ floor) :
    operand expression floor cursor = .error ⟨.bareNot, cursor.current.span⟩ cursor := by
  rw [operand, look_bind, stands]
  exact congrFun (if_pos tight) cursor

/-- An operator is applied to what is read behind it, where nothing can follow the operand. -/
theorem expressionAbove_reads_lead (stands : cursor.current.kind = operator.lead)
    (fits : operator.Fits floor) (ends : Continuation.ofKind? (kindAt rest) = none)
    (reads : Reads (expressionAbove room operator.place) cursor.advance rest accepts) :
    Reads (expressionAbove (room + 1) floor) cursor rest
      fun value => ∃ info inner, accepts inner ∧ value = Expr.unary info operator inner := by
  have closes : (kindAt rest).Closes floor := by
    refine ⟨fun paren => ?_, by rw [ends]; rfl⟩
    rw [paren] at ends
    cases ends
  have first : Reads (operand (expressionAbove room) floor) cursor rest
      fun value => ∃ info inner, accepts inner ∧ value = Expr.unary info operator inner := by
    refine .congr (operand_of_lead _ stands fits) ?_
    have behind : Reads (do
        let inner ← expressionAbove room operator.place
        return Expr.unary (.ofSpan (← look (Cursor.spanFrom cursor.current.span))) operator inner)
        cursor.advance rest fun value => ∃ info inner, accepts inner ∧
          value = Expr.unary info operator inner :=
      reads.bind fun inner after accepted ahead _ => .look (.pure ⟨_, inner, accepted, rfl⟩ ahead)
    exact behind.of_quiet cursor.problems_advance
  unfold expressionAbove
  refine .look (first.bind fun left after applied ahead _ => ?_)
  exact continued_stops (ahead ▸ closes) applied ahead

end Operands

/-! ## Operators one in front of the other -/

section Applied

variable {tokens rest : List Token} {eof : Token} {expr : Expr} {operator : UnaryOperator}

/--
If the tokens behind some operators are read as an expression in the place of the operand, then the
operators are applied to it, as long as there is room.
-/
theorem expressionAbove_reads_applied (ends : Continuation.ofKind? (kindAt rest) = none)
    (operand : ∀ room ≤ nestingLimit, ∀ cursor : Cursor, cursor.Faces tokens eof →
      Reads (expressionAbove room operator.place) cursor rest (· = expr))
    {operators : List Token} (leads : ∀ token ∈ operators, token.kind = operator.lead)
    (repeated : operators.length ≤ 1 ∨ operator = .neg) {cursor : Cursor} {floor : Precedence}
    (faces : cursor.Faces (operators ++ tokens) eof) (nonempty : operators ≠ [])
    (fits : operator.Fits floor) {room : Nat} (within : room ≤ nestingLimit) :
    Reads (expressionAbove room floor) cursor rest fun value =>
      ∃ infos, infos.length = operators.length ∧ value = expr.applied operator infos := by
  induction operators generalizing cursor floor room with
  | nil => exact absurd rfl nonempty
  | cons first others ih =>
      cases room with
      | zero =>
          unfold expressionAbove
          exact .fail
      | succ room =>
          have stands : cursor.current.kind = operator.lead := by
            rw [faces.current]
            exact leads first List.mem_cons_self
          have inner : Reads (expressionAbove room operator.place) cursor.advance rest
              fun value => ∃ infos, infos.length = others.length ∧
                value = expr.applied operator infos := by
            cases others with
            | nil =>
                refine (operand room (Nat.le_of_succ_le within) _ faces.advance).mono ?_
                rintro _ rfl
                exact ⟨[], rfl, rfl⟩
            | cons second others =>
                have sign : operator = .neg := repeated.resolve_left (by simp)
                exact ih (fun token among => leads token (List.mem_cons_of_mem _ among))
                  (.inr sign) faces.advance (by simp) (UnaryOperator.fits_of_neg sign _)
                  (Nat.le_of_succ_le within)
          refine (expressionAbove_reads_lead stands fits ends inner).mono ?_
          rintro _ ⟨info, _, ⟨infos, count, rfl⟩, rfl⟩
          exact ⟨info :: infos, by simp [count], rfl⟩

/-- A second negation is reported where it stands. -/
theorem expressionAbove_of_not_not {first second : Token} {cursor : Cursor} (room : Nat)
    (faces : cursor.Faces (first :: second :: tokens) eof) (word : first.kind = .keyword .kwNot)
    (word' : second.kind = .keyword .kwNot) :
    expressionAbove (room + 2) .lowest cursor =
      .error ⟨.bareNot, second.span⟩ cursor.advance := by
  have stands : cursor.current.kind = UnaryOperator.not.lead := by rw [faces.current, word]; rfl
  have stands' : cursor.advance.current.kind = .keyword .kwNot := by
    rw [faces.advance.current, word']
  have inner : expressionAbove (room + 1) .negation cursor.advance =
      .error ⟨.bareNot, second.span⟩ cursor.advance := by
    have failed := operand_of_bareNot (expressionAbove room) stands' (Nat.le_refl _)
    rw [faces.advance.current] at failed
    rw [expressionAbove, look_bind]
    exact bind_of_error failed
  rw [expressionAbove, look_bind]
  refine bind_of_error ((operand_of_lead _ stands (UnaryOperator.fits_lowest .not)).trans ?_)
  change (expressionAbove (room + 1) .negation >>= _) cursor.advance = _
  exact bind_of_error inner

end Applied

/-! ## Statements that are expressions -/

section Statements

variable {expression : Parse Expr} {block : Parse (List Stmt)} {cursor final : Cursor}
  {info : NodeInfo} {value : Expr}

theorem ifStatement_returns : Returns (ifStatement expression block)
    fun stmt => ∀ info value, stmt ≠ .expr info value :=
  .after fun _ => .after fun _ => .after fun _ => .after fun _ => .pure (by simp)

theorem whileStatement_returns : Returns (whileStatement expression block)
    fun stmt => ∀ info value, stmt ≠ .expr info value :=
  .after fun _ => .after fun _ => .pure (by simp)

theorem forStatement_returns : Returns (forStatement expression block)
    fun stmt => ∀ info value, stmt ≠ .expr info value :=
  .after fun _ => .after fun _ => .after fun _ => .after fun _ => .after fun _ => .after fun _ =>
    .after fun _ => .pure (by simp)

theorem returnStatement_returns : Returns (returnStatement expression)
    fun stmt => ∀ info value, stmt ≠ .expr info value :=
  .after fun _ => .after fun _ => .ite (.after fun _ => .pure (by simp))
    (.after fun _ => .after fun _ => .pure (by simp))

/-- A separator is followed by an item. -/
theorem eq_of_itemsAfter_nil {α : Type} {separator : Symbol} {item : Parse α} {after : Cursor}
    (ok : itemsAfter (.symbol separator) item cursor = .ok [] after) : after = cursor := by
  by_cases stands : cursor.kind = .symbol separator
  · have more := List.length_pos_iff.mpr (Cursor.ahead_ne_nil_of_kind stands (by simp))
    obtain ⟨bound, length⟩ : ∃ bound, cursor.ahead.length = bound + 1 :=
      ⟨cursor.ahead.length - 1, by omega⟩
    rw [itemsAfter, check, look_bind, beq_iff_eq.mpr stands, if_pos rfl, look_bind, length,
      furtherItems, bind_of_ok (accept_of_kind stands), if_pos rfl] at ok
    obtain ⟨first, middle, -, ok⟩ := exists_of_bind ok
    obtain ⟨rest, last, -, ok⟩ := exists_of_bind ok
    cases ok
  · cases (itemsAfter_of_ne stands).symm.trans ok
    rfl

theorem exists_ok_of_expressionStatement
    (ok : expressionStatement expression cursor = .ok (.expr info value) final) :
    expression cursor = .ok value final := by
  rw [expressionStatement_eq, look_bind] at ok
  obtain ⟨first, middle, read, ok⟩ := exists_of_bind ok
  obtain ⟨others, last, items, ok⟩ := exists_of_bind ok
  rw [statementOf] at ok
  cases assigned : others.getLast? with
  | none =>
      rw [assigned] at ok
      obtain rfl := List.getLast?_eq_none_iff.mp assigned
      cases ok
      rwa [eq_of_itemsAfter_nil items]
  | some target =>
      rw [assigned] at ok
      obtain ⟨_, checked, -, ok⟩ := exists_of_bind ok
      cases ok

/-- A reader of other statements returns no expression. -/
theorem Returns.carries_some {reader : Parse Stmt} {before : Cursor → Prop}
    {after : Expr → Cursor → Prop}
    (returns : Returns reader fun stmt => ∀ info value, stmt ≠ .expr info value) :
    Carries before (do return some (← reader)) fun read final =>
      ∀ info value, read = some (.expr info value) → after value final := by
  rintro cursor _ final - ok info value rfl
  obtain ⟨stmt, last, read, ok⟩ := exists_of_bind ok
  cases ok
  exact absurd rfl (returns cursor _ _ read info value)

/-- A statement of one line that is an expression is read as the expression. -/
theorem simpleStatement_carries : Carries (· = cursor) (simpleStatement expression)
    fun read after => ∀ info value, read = some (.expr info value) →
      expression cursor = .ok value after := by
  refine .look fun kind => ?_
  split
  · rintro _ _ _ - ⟨⟩ _ _ ⟨⟩
  · exact returnStatement_returns.carries_some
  · rintro _ _ final rfl ok info value rfl
    obtain ⟨stmt, last, whole, ok⟩ := exists_of_bind ok
    cases ok
    exact exists_ok_of_expressionStatement whole

/-- A statement that is an expression is read as the expression and the end of the line. -/
theorem statement_carries : Carries (· = cursor) (statement expression block)
    fun read final => ∀ info value, read = some (.expr info value) →
      ∃ after, expression cursor = .ok value after ∧ lineEnd after = .ok () final := by
  refine .look fun kind => ?_
  split
  · exact .fail
  · exact ifStatement_returns.carries_some
  · exact whileStatement_returns.carries_some
  · exact forStatement_returns.carries_some
  · refine .look fun declares => .ite (fun _ => .fail) fun _ => ?_
    rintro _ _ final rfl ok info value rfl
    obtain ⟨read, middle, simple, ok⟩ := exists_of_bind ok
    obtain ⟨_, last, ended, ok⟩ := exists_of_bind ok
    cases ok
    exact ⟨middle, simpleStatement_carries _ _ _ rfl simple info value rfl, ended⟩

/-- Before the end of the file only the end of the line ends a line. -/
theorem kind_of_lineEnd (more : cursor.ahead ≠ []) (ok : lineEnd cursor = .ok () final) :
    cursor.kind = .newline := by
  by_contra other
  have ended : cursor.atEnd = false := by simpa [Cursor.atEnd] using more
  rw [lineEnd, bind_of_ok (accept_of_ne other)] at ok
  change (look Cursor.atEnd >>= _) cursor = _ at ok
  rw [look_bind, ended] at ok
  cases ok

end Statements

/-! ## Programs of one line -/

section Line

variable {line : TokenLine} {eof : Token} {start : Cursor} (closed : eof.kind = .endOfFile)
  (faces : start.Faces line.tokens eof)
include closed faces

/-- A line that is an expression on its own is read as the expression up to its end. -/
theorem exists_ok_of_alone {info : NodeInfo} {expr : Expr}
    (quiet : (programBody start).2.problems = [])
    (reads : (programBody start).1.statements = [.expr info expr]) :
    ∃ after, expression nestingLimit start = .ok expr after ∧ after.kind = .newline := by
  have here : start.Closed := by rwa [Cursor.Closed, faces.ending]
  obtain ⟨-, final, read, -⟩ := statement_of_line here faces.ahead quiet reads
  obtain ⟨after, read, ended⟩ := statement_carries start _ final rfl read info expr rfl
  have passed : PassesText start.ahead ((expression nestingLimit).stop start).ahead :=
    Passes.passed start here
  rw [stop_of_ok read, faces.ahead] at passed
  obtain ⟨left, ahead, -⟩ := passed.of_newline ⟨line.text, rfl, line.inline⟩ line.ends
  exact ⟨after, read, kind_of_lineEnd (by simp [ahead]) ended⟩

variable (begins : start.kind.beginsExpr = true) (plain : start.atDeclaration = false)
include begins plain

/-- A program of one line that begins as an expression is a statement, if it is anything. -/
theorem programBody_of_plain : programBody start = recovering {} (do
    let read ← statement (expression nestingLimit) (block nestingLimit)
    return ({ statements := read.toList } : ProgramBody)) start := by
  have here : start.Closed := by rwa [Cursor.Closed, faces.ending]
  have noDedent : (start.kind == .dedent) = false :=
    beq_eq_false_iff_ne.mpr fun dedent => by rw [dedent] at begins; cases begins
  rw [programBody_eq_programStep here faces.ahead, programStep_apply, noDedent, plain]
  rfl

theorem programBody_of_ok {value : Expr} {after : Cursor}
    (read : expression nestingLimit start = .ok value after) (ends : after.kind = .newline) :
    ∃ info, (programBody start).1.statements = [.expr info value] ∧
      (programBody start).2.problems = [] := by
  let stmt := Stmt.expr (.ofSpan (after.spanFrom start.current.span)) value
  have line : statement (expression nestingLimit) (block nestingLimit) start =
      .ok (some stmt) after.advance :=
    statement_of_expression (start.kind_eq_kindAt ▸ begins) plain read ends
  have whole : programBody start = ({ statements := [stmt] }, after.advance) :=
    (programBody_of_plain closed faces begins plain).trans (recovering_of_ok (bind_of_ok line))
  have quiet : after.problems = [] := (problems_of_ok read).trans faces.problems
  rw [whole]
  exact ⟨_, rfl, by simpa using quiet⟩

theorem programBody_of_error {problem : Located SyntaxError} {after : Cursor}
    (failed : expression nestingLimit start = .error problem after) :
    (programBody start).1.statements = [] ∧ (programBody start).2.problems = [problem] := by
  have line : statement (expression nestingLimit) (block nestingLimit) start =
      .error problem after :=
    statement_of_failure (start.kind_eq_kindAt ▸ begins) plain failed
  have whole : programBody start = ({}, after.recover start.position problem) :=
    (programBody_of_plain closed faces begins plain).trans
      (recovering_of_error (bind_of_error line))
  have quiet : after.problems = [] := (problems_of_error failed).trans faces.problems
  rw [whole, Cursor.recover_eq (onward_of_error failed).position_le]
  exact ⟨rfl, by simp [Cursor.record, quiet]⟩

end Line

end Parse

namespace Program

open Parse

/-- The program is one expression, an operator applied so many times to another expression. -/
def Applies (program : Program) (operator : UnaryOperator) (count : Nat) (expr : Expr) : Prop :=
  program.errors = [] ∧ ∃ info infos, infos.length = count ∧
    program.statements = [.expr info (expr.applied operator infos)]

/-- Nothing is read of the program, for the one reason that is reported. -/
def LeavesOut (program : Program) (error : SyntaxError) (place : Span) : Prop :=
  program.errors = [(⟨error, place⟩ : Located SyntaxError).toDiagnostic] ∧ program.statements = []

section Prefixed

variable {file : String} {eof : Token} {line longer : TokenLine} {operators : List Token}
  (closed : eof.kind = .endOfFile) (text : longer.tokens = operators ++ line.tokens)
include closed text

theorem faces_beforeLines : (beforeLines [longer] eof).Faces (operators ++ line.tokens) eof := by
  obtain ⟨ahead, ending⟩ := ahead_beforeLines closed [longer]
  exact ⟨by simpa [text] using ahead, ending, rfl⟩

/-- A line that begins with an operator is an expression, or nothing is read of it. -/
theorem ofLines_of_lead {first : Token} {others : List Token} {operator : UnaryOperator}
    (several : operators = first :: others) (lead : first.kind = operator.lead) :
    let start := beforeLines [longer] eof
    (∀ value after, expression nestingLimit start = .ok value after → after.kind = .newline →
        (ofLines file [longer] eof).errors = [] ∧
          ∃ info, (ofLines file [longer] eof).statements = [.expr info value]) ∧
      ∀ problem after, expression nestingLimit start = .error problem after →
        (ofLines file [longer] eof).LeavesOut problem.content problem.span := by
  intro start
  have faces := faces_beforeLines closed text
  have whole : start.Faces longer.tokens eof := text ▸ faces
  have stands : start.kind = operator.lead := by
    rw [several] at faces
    exact faces.kind.trans lead
  have begins : start.kind.beginsExpr = true := stands ▸ operator.beginsExpr_lead
  have plain : start.atDeclaration = false := by
    unfold Cursor.atDeclaration
    rw [stands]
    cases operator <;> rfl
  have errors : (ofLines file [longer] eof).errors = (programBody start).2.diagnostics := rfl
  have statements : (ofLines file [longer] eof).statements = (programBody start).1.statements := rfl
  unfold LeavesOut
  rw [errors, statements]
  refine ⟨fun value after read ends => ?_, fun problem after failed => ?_⟩
  · obtain ⟨info, single, quiet⟩ := programBody_of_ok closed whole begins plain read ends
    exact ⟨by simp [Cursor.diagnostics, quiet], info, single⟩
  · obtain ⟨none, only⟩ := programBody_of_error closed whole begins plain failed
    exact ⟨by simp [Cursor.diagnostics, only], none⟩

/-- A second negation is reported, and nothing is read. -/
theorem leavesOut_of_not_not {first second : Token} {others : List Token}
    (several : operators = first :: second :: others)
    (leads : ∀ token ∈ operators, token.kind = .keyword .kwNot) :
    (ofLines file [longer] eof).LeavesOut .bareNot second.span := by
  have word : first.kind = .keyword .kwNot := leads first (by simp [several])
  have word' : second.kind = .keyword .kwNot := leads second (by simp [several])
  have faces := faces_beforeLines closed text
  rw [several] at faces
  have failed : expression nestingLimit (beforeLines [longer] eof) =
      .error ⟨.bareNot, second.span⟩ (beforeLines [longer] eof).advance :=
    expressionAbove_of_not_not (nestingLimit - 2) faces word word'
  have lead : first.kind = UnaryOperator.not.lead := word
  exact (ofLines_of_lead closed text several lead).2 _ _ failed

variable {info : NodeInfo} {expr : Expr} (alone : StatesAlone file eof line (.expr info expr))
include alone

/-- Operators are applied to the expression behind them, as long as there is room. -/
theorem applies_of_alone {operator : UnaryOperator} {level : Precedence}
    (leads : ∀ token ∈ operators, token.kind = operator.lead)
    (repeated : operators.length ≤ 1 ∨ operator = .neg) (binds : Binds level 0 line.tokens)
    (below : operator.place < level) :
    (ofLines file [longer] eof).Applies operator operators.length expr ∨
      ∃ place, (ofLines file [longer] eof).LeavesOut .nestedTooDeeply place := by
  cases several : operators with
  | nil =>
      have same : ofLines file [longer] eof = ofLines file [line] eof := by
        simp [ofLines, text, several]
      exact .inl (same ▸ ⟨alone.1, info, [], rfl, alone.2⟩)
  | cons first others =>
      have faces : (beforeLines [line] eof).Faces line.tokens eof :=
        faces_beforeLines closed (List.nil_append _).symm
      obtain ⟨after, read, newline⟩ := exists_ok_of_alone closed faces
        (List.map_eq_nil_iff.mp alone.1) alone.2
      have ends : Continuation.ofKind? (kindAt after.ahead) = none := by
        rw [← after.kind_eq_kindAt, newline]
        rfl
      have here : (beforeLines [line] eof).Closed := by rwa [Cursor.Closed, faces.ending]
      have reads : Reads (expression nestingLimit) (beforeLines [longer] eof) after.ahead
          fun value => ∃ infos, infos.length = operators.length ∧
            value = expr.applied operator infos := by
        refine expressionAbove_reads_applied ends (fun room within cursor again => ?_) leads
          repeated (faces_beforeLines closed text) (by simp [several]) operator.fits_lowest (Nat.le_refl _)
        exact expressionAbove_reads_again here read (faces.ahead ▸ binds) below within
          (again.ahead.trans faces.ahead.symm) (again.ending.trans faces.ending.symm)
          (again.problems.trans faces.problems.symm)
      have lead : first.kind = operator.lead := leads first (by simp [several])
      obtain ⟨returned, failed⟩ := ofLines_of_lead closed text several lead
      have silent : (beforeLines [longer] eof).problems = [] := rfl
      unfold Reads at reads
      cases result : expression nestingLimit (beforeLines [longer] eof) with
      | ok value final =>
          rw [result] at reads
          obtain ⟨⟨infos, count, rfl⟩, ahead, -⟩ | ⟨problem, recorded, -⟩ := reads
          · have stops : final.kind = .newline := by
              rw [final.kind_eq_kindAt, ahead, ← after.kind_eq_kindAt, newline]
            obtain ⟨quiet, info, single⟩ := returned _ _ result stops
            exact .inl ⟨quiet, info, infos, count.trans (by rw [several]), single⟩
          · rw [problems_of_ok result, silent] at recorded
            cases recorded
      | error problem final =>
          rw [result] at reads
          obtain content | ⟨known, recorded, -⟩ := reads
          · exact .inr ⟨problem.span, content ▸ failed _ _ result⟩
          · rw [problems_of_error result, silent] at recorded
            cases recorded

end Prefixed

/--
A line is an expression on its own, and some operators are put in front of it.  Signs are applied to
it if all its operators outside of brackets are accesses and calls, and a negation is applied to it
if they bind at least as tightly as comparisons, unless the nesting is too deep then.  Of a second
negation it is reported that it must stand in parentheses, and nothing is read.
-/
theorem ofLines_prefixed (file : String) {eof : Token} {line longer : TokenLine}
    {operators : List Token} {info : NodeInfo} {expr : Expr} (closed : eof.kind = .endOfFile)
    (text : longer.tokens = operators ++ line.tokens)
    (alone : StatesAlone file eof line (.expr info expr)) :
    let program := ofLines file [longer] eof
    let count := operators.length
    ((∀ token ∈ operators, token.kind = .symbol .minus) → Binds .access 0 line.tokens →
        program.Applies .neg count expr ∨ ∃ place, program.LeavesOut .nestedTooDeeply place) ∧
      ((∀ token ∈ operators, token.kind = .keyword .kwNot) →
        (count ≤ 1 → Binds .comparison 0 line.tokens →
          program.Applies .not count expr ∨ ∃ place, program.LeavesOut .nestedTooDeeply place) ∧
        ∀ first second others, operators = first :: second :: others →
          program.LeavesOut .bareNot second.span) := by
  intro program count
  refine ⟨fun signs binds => ?_, fun words => ⟨fun single binds => ?_, ?_⟩⟩
  · have leads : ∀ token ∈ operators, token.kind = UnaryOperator.neg.lead := signs
    exact applies_of_alone closed text alone leads (.inr rfl) binds (by decide)
  · have leads : ∀ token ∈ operators, token.kind = UnaryOperator.not.lead := words
    exact applies_of_alone closed text alone leads (.inl single) binds (by decide)
  · exact fun first second others several => leavesOut_of_not_not closed text several words

/-- A line with two signs in front of a name. -/
def signedLine : TokenLine := lineOf 3 [.sign .minus, .sign .minus, .name "y"] (by decide)

/-- A line with a negation in front of a name. -/
def negatedLine : TokenLine := lineOf 3 [.word .kwNot, .name "y"] (by decide)

/-- A line with two negations in front of a name. -/
def doublyNegatedLine : TokenLine := lineOf 3 [.word .kwNot, .word .kwNot, .name "y"] (by decide)

/-- The name is a statement on its own. -/
theorem exists_statesAlone_readingLine :
    ∃ info expr, StatesAlone "<input>" thirdEnd readingLine (.expr info expr) := by
  obtain ⟨stmt, states⟩ := List.length_eq_one_iff.mp
    (show (ofLines "<input>" [readingLine] thirdEnd).statements.length = 1 by decide +kernel)
  have sort : ((ofLines "<input>" [readingLine] thirdEnd).statements.all fun stmt =>
      stmt.outline.label.kind == .exprStmt) = true := by decide +kernel
  rw [states] at sort
  cases stmt with
  | expr info expr => exact ⟨info, expr, List.isEmpty_iff.mp (by decide +kernel), states⟩
  | _ => cases sort

/-- Two signs are applied to a name, and so is a negation. -/
theorem ofLines_prefixed_readingLine : ∃ info expr, thirdEnd.kind = .endOfFile ∧
    StatesAlone "<input>" thirdEnd readingLine (.expr info expr) ∧
    signedLine.tokens = signedLine.text.take 2 ++ readingLine.tokens ∧
    ((ofLines "<input>" [signedLine] thirdEnd).Applies .neg 2 expr ∨
      ∃ place, (ofLines "<input>" [signedLine] thirdEnd).LeavesOut .nestedTooDeeply place) ∧
    negatedLine.tokens = negatedLine.text.take 1 ++ readingLine.tokens ∧
    ((ofLines "<input>" [negatedLine] thirdEnd).Applies .not 1 expr ∨
      ∃ place, (ofLines "<input>" [negatedLine] thirdEnd).LeavesOut .nestedTooDeeply place) := by
  obtain ⟨info, expr, alone⟩ := exists_statesAlone_readingLine
  have signed : signedLine.tokens = signedLine.text.take 2 ++ readingLine.tokens := rfl
  have negated : negatedLine.tokens = negatedLine.text.take 1 ++ readingLine.tokens := rfl
  have signs := (ofLines_prefixed "<input>" rfl signed alone).1
  have words := (ofLines_prefixed "<input>" rfl negated alone).2
  exact ⟨info, expr, rfl, alone, signed, signs (by decide) (by decide), negated,
    (words (by decide)).1 (by decide) (by decide)⟩

/-- Two negations are not applied to a name, though the nesting is not too deep. -/
theorem exists_negations_left_out : ∃ info expr,
    StatesAlone "<input>" thirdEnd readingLine (.expr info expr) ∧
    Binds .comparison 0 readingLine.tokens ∧
    doublyNegatedLine.tokens = doublyNegatedLine.text.take 2 ++ readingLine.tokens ∧
    (∀ token ∈ doublyNegatedLine.text.take 2, token.kind = .keyword .kwNot) ∧
    ¬ ((ofLines "<input>" [doublyNegatedLine] thirdEnd).Applies .not 2 expr ∨
      ∃ place, (ofLines "<input>" [doublyNegatedLine] thirdEnd).LeavesOut .nestedTooDeeply
        place) := by
  obtain ⟨info, expr, alone⟩ := exists_statesAlone_readingLine
  have codes : (ofLines "<input>" [doublyNegatedLine] thirdEnd).errors.map Diagnostic.code =
      ["E0203"] := by decide +kernel
  refine ⟨info, expr, alone, by decide, rfl, by decide, ?_⟩
  rintro (⟨none, -⟩ | ⟨place, single, -⟩)
  · rw [none] at codes
    cases codes
  · rw [single] at codes
    change ["E0209"] = ["E0203"] at codes
    exact absurd codes (by decide)

end Program
end ChocoLang
