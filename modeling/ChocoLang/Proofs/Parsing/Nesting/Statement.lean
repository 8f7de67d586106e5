import ChocoLang.Proofs.Parsing.Behind

/-!
# Types, expressions and statements are read nested

A type or an expression leaves behind itself from the token on that begins it.  What continues an
expression starts at the token that began the expression, so the node around both encloses what had
been read before.

A statement leaves behind itself from the token on that begins it, too.  The chained conditions of a
choice all stop where the chain stops, so what they leave behind is only known there.
-/

namespace ChocoLang
namespace Parse

attribute [local simp] Expr.outline Expr.outlines_eq_map

/-! ## Types -/

theorem writtenType_leaves (room : Nat) :
    Leaves (writtenType room) fun written => [written.outline] := by
  induction room with
  | zero => exact fun _ => .fail
  | succ room ih =>
      intro token
      unfold writtenType
      refine .current ?_
      have named : Carries (Cursor.Behind token.span.start
          [(WrittenType.named (.ofSpan token.span) token.value.display).outline])
          (pure (WrittenType.named (.ofSpan token.span) token.value.display))
          fun written => Cursor.Behind token.span.start [written.outline] :=
        .pure fun _ behind => behind
      split
      · next kind => exact .leaf (by rw [kind]; rfl) rfl rfl named
      · next kind => exact .leaf (by rw [kind]; rfl) rfl rfl named
      · next kind =>
          refine .take (by rw [kind]; rfl) (.part ih fun element => .skip fun _ => ?_)
          exact .closed (fun _ => rfl) (fun _ => rfl)
      · exact .fail

theorem typedVar_leaves (room : Nat) : Leaves (typedVar room) fun var => [var.outline] := by
  intro token
  unfold typedVar
  refine (identifier_carries _ token).bind fun name => .of_and fun same => .skip fun _ =>
    .part (writtenType_leaves room) fun written => ?_
  rw [← same]
  exact .closed (fun _ => rfl) (fun _ => rfl)

/-! ## Operands -/

theorem outline_of_atom {token : Token} {atom : Expr} (found : atom? token = some atom) :
    atom.outline.span = token.span ∧ atom.outline.children = [] := by
  unfold atom? at found
  dsimp only at found
  split at found <;> cases found <;> exact ⟨rfl, rfl⟩

section Operands

variable {expression : Parse Expr} (inner : Leaves expression fun expr => [expr.outline])
include inner

theorem primary_leaves : Leaves (primary expression) fun expr => [expr.outline] := by
  intro token
  unfold primary
  refine .current ?_
  split
  · next atom found =>
      obtain ⟨spans, single⟩ := outline_of_atom found
      exact .leaf (isLayout_of_atom found) spans single (.pure fun _ behind => behind)
  · split
    · next kind =>
        exact .take (by rw [kind]; rfl) (.part inner fun expr => .skip fun _ =>
          .pure fun _ behind => behind)
    · next kind =>
        refine .take (by rw [kind]; rfl) ((commaList_carries inner _).bind fun elements =>
          .skip fun _ => ?_)
        exact .closed (fun _ => rfl) (fun _ => by simp [NodeKind.inText])
    · exact .fail
    · exact .fail

/-! ## Continuations -/

theorem arguments_carries {first : Position} {outlines : List Outline} :
    Carries (Cursor.Behind first outlines) (arguments expression)
      fun args => Cursor.Behind first (outlines ++ args.map Expr.outline) :=
  (commaList_carries inner _).bind fun _ => .skip fun _ => .pure fun _ behind => behind

/-- The object and the name make up a node of their own, also where a method is called. -/
theorem fieldOf_carries (start : Span) (object : Expr) :
    Carries (Cursor.Behind start.start [object.outline]) (fieldOf expression start object)
      fun expr => Cursor.Behind start.start [expr.outline] := by
  unfold fieldOf
  refine .part (identifier_leaves _) fun name => ?_
  refine .close (fun span => (Expr.member (.ofSpan span) object name).outline) (fun _ => rfl)
    (fun _ => rfl) fun access => .skip fun _ => .ite (fun _ => ?_) fun _ =>
      .pure fun _ behind => behind
  refine (arguments_carries inner).bind fun args => ?_
  exact .closed (fun _ => rfl) (fun _ => by simp [NodeKind.inText])

theorem elementOf_carries (start : Span) (container : Expr) :
    Carries (Cursor.Behind start.start [container.outline]) (elementOf expression start container)
      fun expr => Cursor.Behind start.start [expr.outline] :=
  .part inner fun _ => .skip fun _ => .closed (fun _ => rfl) (fun _ => rfl)

theorem callOf_carries (start paren : Span) (callee : Expr) :
    Carries (Cursor.Behind start.start [callee.outline]) (callOf expression start paren callee)
      fun expr => Cursor.Behind start.start [expr.outline] := by
  unfold callOf
  split
  · next function =>
      refine (arguments_carries inner).bind fun args => ?_
      exact .closed (fun _ => rfl) (fun _ => by simp [NodeKind.inText])
  · exact .throw

end Operands

section Operators

variable {expression : Precedence → Parse Expr}
  (inner : ∀ floor, Leaves (expression floor) fun expr => [expr.outline])
include inner

theorem operand_leaves (floor : Precedence) :
    Leaves (operand expression floor) fun expr => [expr.outline] := by
  intro token
  have unary (sign : UnaryOperator) (floor : Precedence) :
      Carries (Cursor.Behind token.span.start [])
        (do
          let inner ← expression floor
          return Expr.unary (.ofSpan (← look (Cursor.spanFrom token.span))) sign inner)
        fun expr : Expr => Cursor.Behind token.span.start [expr.outline] :=
    .part (inner floor) fun _ => .closed (fun _ => rfl) (fun _ => rfl)
  unfold operand
  refine .current ?_
  split
  · next kind => exact .take (by rw [kind]; rfl) (unary .neg _)
  · next kind => exact .ite (fun _ => .fail) fun _ => .take (by rw [kind]; rfl) (unary .not _)
  · exact primary_leaves (inner _) token

/-- The expression that is chosen stands in front of the condition. -/
theorem choiceOf_carries (start : Span) (chosen : Expr) :
    Carries (Cursor.Behind start.start [chosen.outline]) (choiceOf expression start chosen)
      fun expr => Cursor.Behind start.start [expr.outline] :=
  .part (inner _) fun _ => .skip fun _ => .part (inner _) fun _ =>
    .closed (fun _ => rfl) (fun _ => rfl)

theorem operationOf_carries (start : Span) (operator : BinaryOperator) (left : Expr) :
    Carries (Cursor.Behind start.start [left.outline]) (operationOf expression start operator left)
      fun expr => Cursor.Behind start.start [expr.outline] := by
  unfold operationOf
  refine .part (inner _) fun right => ?_
  refine .close (fun span => (Expr.binary (.ofSpan span) left operator right).outline)
    (fun _ => rfl) (fun _ => rfl) fun whole => ?_
  have whole : Carries (Cursor.Behind start.start
        [(Expr.binary (.ofSpan whole) left operator right).outline])
      (pure (Expr.binary (.ofSpan whole) left operator right))
      fun expr => Cursor.Behind start.start [expr.outline] := .pure fun _ behind => behind
  exact .ite (fun _ => .skip fun _ => .ite (fun _ => .skip fun _ => whole) fun _ => whole)
    fun _ => whole

theorem continuation_carries (start : Span) (left : Expr) (next : Continuation) :
    Carries (Cursor.Behind start.start [left.outline]) (continuation expression start left next)
      fun expr => Cursor.Behind start.start [expr.outline] := by
  unfold continuation
  refine .skip fun token => ?_
  split
  · exact operationOf_carries inner start _ left
  · exact choiceOf_carries inner start left
  · exact fieldOf_carries (inner _) start left
  · exact elementOf_carries (inner _) start left
  · exact callOf_carries (inner _) start _ left

end Operators

/-! ## Expressions -/

/-- Both readers of expressions recur on the room for nesting, and so does this proof. -/
theorem expressionAbove_leaves (room : Nat) :
    (∀ floor, Leaves (expressionAbove room floor) fun expr => [expr.outline]) ∧
      ∀ floor (start : Span) left, Carries (Cursor.Behind start.start [left.outline])
        (continued room floor start left) fun expr => Cursor.Behind start.start [expr.outline] := by
  induction room with
  | zero =>
      refine ⟨fun floor token => ?_, fun floor start left => ?_⟩
      · unfold expressionAbove
        exact .fail
      · unfold continued
        refine .look fun next => ?_
        split
        · exact .pure fun _ behind => behind
        · exact .fail
  | succ room ih =>
      obtain ⟨expressions, continuations⟩ := ih
      refine ⟨fun floor token => ?_, fun floor start left => ?_⟩
      · unfold expressionAbove
        exact .span ((operand_leaves expressions floor token).bind fun left =>
          continuations floor token.span left)
      · unfold continued
        refine .look fun next => ?_
        split
        · exact .pure fun _ behind => behind
        · exact (continuation_carries expressions start left _).bind fun longer =>
            continuations floor start longer

theorem expression_leaves (room : Nat) : Leaves (expression room) fun expr => [expr.outline] :=
  (expressionAbove_leaves room).1 .lowest

end Parse

/-! ## Statements -/

/-- The parts of an arm of a choice. -/
def Arm.parts (arm : Arm) : List Outline := arm.condition.outline :: arm.body.map Stmt.outline

namespace Parse

attribute [local simp] Stmt.outline Expr.outlines_eq_map Stmt.outlines_eq_map NodeKind.inText

variable {first : Position} {outlines : List Outline}

section Statements

variable {expression : Parse Expr} {block : Parse (List Stmt)}
  (inner : Leaves expression fun expr => [expr.outline])
  (body : ∀ {first outlines}, Carries (Cursor.Behind first outlines) block
    fun stmts => Cursor.Behind first (outlines ++ stmts.map Stmt.outline))

/-! ## Simple statements -/

include inner in
theorem returnStatement_leaves :
    LeavesFromText (returnStatement expression) fun stmt => [stmt.outline] := by
  intro token text
  unfold returnStatement
  refine .advance text (.look fun _ => .ite (fun _ => ?_) fun _ => .part inner fun value => ?_)
  · exact .closed (fun _ => rfl) (fun _ => rfl)
  · exact .closed (fun _ => rfl) (fun _ => rfl)

theorem statementOf_carries (start : Span) (one : Expr) (others : List Expr) :
    Carries (Cursor.Behind start.start ((one :: others).map Expr.outline))
      (statementOf start one others) fun stmt => Cursor.Behind start.start [stmt.outline] := by
  unfold statementOf
  split
  · next none =>
      obtain rfl := List.getLast?_eq_none_iff.mp none
      exact .closed (fun _ => rfl) (fun _ => rfl)
  · next value last =>
      have shape : others = others.dropLast ++ [value] :=
        (List.dropLast_append_getLast? value last).symm
      refine .skip fun _ => .closed (fun _ => rfl) (fun _ => ?_)
      conv_rhs => rw [shape]
      simp

include inner in
theorem expressionStatement_leaves :
    Leaves (expressionStatement expression) fun stmt => [stmt.outline] := by
  intro token
  rw [expressionStatement_eq]
  exact .span ((inner token).bind fun one => (itemsAfter_carries inner _).bind fun others =>
    statementOf_carries token.span one others)

include inner in
theorem simpleStatement_leaves :
    Leaves (simpleStatement expression) fun read => read.toList.map Stmt.outline := by
  intro token
  unfold simpleStatement
  refine .kind ?_
  split
  · next kind => exact .take (by rw [kind]; rfl) (.pure fun _ behind => behind)
  · next kind =>
      exact (returnStatement_leaves inner token (by rw [kind]; rfl)).bind fun stmt =>
        .pure fun _ behind => behind
  · exact (expressionStatement_leaves inner token).bind fun stmt => .pure fun _ behind => behind

/-! ## Compound statements -/

include inner body

theorem arm_carries {token : Token} (text : token.kind.isLayout = false) :
    Carries (Cursor.At token) (arm expression block)
      fun arm cursor => arm.start = token.span ∧ cursor.Behind token.span.start arm.parts := by
  unfold arm
  refine .advance text (.part inner fun condition => .skip fun _ => body.bind fun stmts => ?_)
  exact .pure fun _ behind => ⟨rfl, behind⟩

omit inner in
theorem alternative_carries : Carries (Cursor.Behind first outlines) (alternative block)
    fun stmts => Cursor.Behind first (outlines ++ stmts.map Stmt.outline) :=
  .skip fun _ => .ite (fun _ => .skip fun _ => body) fun _ => .pure (by simp)

omit inner body in
/-- Where a chain of choices stops, its first condition encloses the others. -/
theorem behind_chain {cursor : Cursor} {arm : Arm} {rest : List Arm} {otherwise : List Stmt}
    (behind : cursor.Behind arm.start.start
      (arm.parts ++ (Arm.chain cursor.spanFrom otherwise rest).map Stmt.outline)) :
    cursor.Behind arm.start.start
      ((Arm.chain cursor.spanFrom otherwise (arm :: rest)).map Stmt.outline) :=
  behind.close rfl (by simp [Arm.parts])

theorem furtherArms_carries (bound : Nat) :
    Carries (Cursor.Behind first outlines) (furtherArms expression block bound)
      fun read cursor => cursor.Behind first
        (outlines ++ (Arm.chain cursor.spanFrom read.2 read.1).map Stmt.outline) := by
  induction bound generalizing first outlines with
  | zero => exact .pure (by simp [Arm.chain])
  | succ bound ih =>
      refine .check (fun token kind => ?_) ?_
      · refine (arm_carries inner body (by rw [kind]; rfl)).bind fun one => .of_and fun same => ?_
        refine ih.bind fun read => .pure fun cursor behind => ?_
        rw [← same] at behind ⊢
        exact behind_chain behind
      · exact (alternative_carries body).bind fun otherwise => .pure fun _ behind => behind

theorem ifStatement_leaves :
    LeavesFromText (ifStatement expression block) fun stmt => [stmt.outline] := by
  intro token text
  unfold ifStatement
  refine (arm_carries inner body text).bind fun one => .of_and fun same => .look fun bound => ?_
  refine (furtherArms_carries inner body _).bind fun read => ?_
  rintro cursor _ _ behind ⟨⟩
  rw [← same] at behind ⊢
  exact behind_chain behind

theorem whileStatement_leaves :
    LeavesFromText (whileStatement expression block) fun stmt => [stmt.outline] := by
  intro token text
  unfold whileStatement
  refine (arm_carries inner body text).bind fun loop => .of_and fun same => ?_
  rw [← same]
  exact .closed (fun _ => rfl) (fun _ => by simp [Arm.parts])

theorem forStatement_leaves :
    LeavesFromText (forStatement expression block) fun stmt => [stmt.outline] := by
  intro token text
  unfold forStatement
  refine .advance text (.part (identifier_leaves _) fun element => .skip fun _ => ?_)
  refine .part inner fun iterable => .skip fun _ => body.bind fun stmts => ?_
  exact .closed (fun _ => rfl) (fun _ => by simp)

theorem statement_leaves :
    Leaves (statement expression block) fun read => read.toList.map Stmt.outline := by
  intro token
  unfold statement
  refine .kind ?_
  split
  · exact .fail
  · next kind =>
      exact (ifStatement_leaves inner body token (by rw [kind]; rfl)).bind fun stmt =>
        .pure fun _ behind => behind
  · next kind =>
      exact (whileStatement_leaves inner body token (by rw [kind]; rfl)).bind fun stmt =>
        .pure fun _ behind => behind
  · next kind =>
      exact (forStatement_leaves inner body token (by rw [kind]; rfl)).bind fun stmt =>
        .pure fun _ behind => behind
  · exact .look fun _ => .ite (fun _ => .fail) fun _ =>
      (simpleStatement_leaves inner token).bind fun read => .skip fun _ =>
        .pure fun _ behind => behind

end Statements

/-! ## Blocks -/

/-- A block leaves behind its statements; those in error are left out. -/
theorem block_carries (room : Nat) :
    Carries (Cursor.Behind first outlines) (block room)
      fun stmts => Cursor.Behind first (outlines ++ stmts.map Stmt.outline) := by
  induction room generalizing first outlines with
  | zero => exact .fail
  | succ room ih =>
      unfold block
      refine .skip fun _ => ?_
      have step (stmts : List Stmt) : Recovering.Carries
          (Cursor.Behind first (outlines ++ stmts.map Stmt.outline))
          (blockStep (statement (expression room) (block room)) stmts)
          fun stmts => Cursor.Behind first (outlines ++ stmts.map Stmt.outline) := by
        refine recovering_behind (fun stmts : List Stmt => outlines ++ stmts.map Stmt.outline) ?_
        exact .part (statement_leaves (expression_leaves room) ih) fun read => .pure (by simp)
      have none : ∀ cursor : Cursor, cursor.Behind first outlines →
          cursor.Behind first (outlines ++ [].map Stmt.outline) := by simp
      exact .bind (.of_imp (.ofRecovering (body_carries step [])) none) fun stmts => .skip fun _ =>
        .pure fun _ behind => behind

end Parse

end ChocoLang
