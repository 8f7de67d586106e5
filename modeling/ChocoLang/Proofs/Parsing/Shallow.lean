import ChocoLang.Proofs.Parsing.Progress
import ChocoLang.Proofs.Parsing.Yields
import ChocoLang.Proofs.Syntax.Height

/-!
# How high expressions are read

An expression that is read with room for so many levels is at most as high as the square of the
room.  Its first operand is read with one level less and may be as high as that room allows, but
the levels it took are free again for the operators that follow.  Each of these takes one level
and adds one node to a way down, or two if it calls a method.

So a statement, block or declaration that is read with so much room holds no expression higher than
the square of the room.
-/

namespace ChocoLang
namespace Parse

open Outline

attribute [local simp] Expr.outline Expr.outlines_eq_map

variable {bound limit : Nat}

theorem heightAll_map_le {exprs : List Expr} (low : ∀ expr ∈ exprs, expr.outline.height ≤ bound) :
    heightAll (exprs.map Expr.outline) ≤ bound := by
  simpa [heightAll_le_iff] using low

/-! ## Operands -/

theorem height_of_atom {token : Token} {atom : Expr} (found : atom? token = some atom) :
    atom.outline.height = 1 := by
  unfold atom? at found
  dsimp only at found
  split at found <;> cases found <;> simp

section Operands

variable {expression : Parse Expr} (inner : Returns expression (·.outline.height ≤ bound))
include inner

theorem primary_low : Returns (primary expression) (·.outline.height ≤ bound + 1) := by
  unfold primary
  refine .after fun token => ?_
  split
  · next atom found =>
      have single := height_of_atom found
      exact .after fun _ => .pure (by omega)
  · split
    · exact .after fun _ => inner.bind fun expr low => .after fun _ => .pure (by omega)
    · refine .after fun _ => (commaList_returns inner _).bind fun elements low => ?_
      exact .after fun _ => .after fun _ => .pure (by simpa using heightAll_map_le low)
    · exact .fail
    · exact .fail

theorem arguments_low :
    Returns (arguments expression) fun args => ∀ arg ∈ args, arg.outline.height ≤ bound :=
  (commaList_returns inner _).bind fun _ low => .after fun _ => .pure low

/-! ## Continuations -/

/-- A method that is called is a node of its own between the call and the object. -/
theorem fieldOf_low (start : Span) {object : Expr} (low : object.outline.height ≤ limit)
    (fits : bound ≤ limit) :
    Returns (fieldOf expression start object) (·.outline.height ≤ limit + 2) := by
  have positive := object.outline.height_pos
  unfold fieldOf
  refine .after fun name => .after fun _ => .after fun _ => .ite ?_ (.pure ?_)
  · refine (arguments_low inner).bind fun args lowArgs => .after fun _ => .pure ?_
    have highest := heightAll_map_le lowArgs
    simp only [Expr.outline, Expr.outlines_eq_map, height_node, heightAll_cons, heightAll_nil,
      Identifier.height_outline]
    omega
  · simp only [Expr.outline, height_node, heightAll_cons, heightAll_nil,
      Identifier.height_outline]
    omega

theorem elementOf_low (start : Span) {container : Expr} (low : container.outline.height ≤ limit)
    (fits : bound ≤ limit) :
    Returns (elementOf expression start container) (·.outline.height ≤ limit + 2) :=
  inner.bind fun _ lowPosition => .after fun _ => .after fun _ => .pure (by simp; omega)

theorem callOf_low (start paren : Span) {callee : Expr} (fits : bound ≤ limit) :
    Returns (callOf expression start paren callee) (·.outline.height ≤ limit + 2) := by
  unfold callOf
  split
  · refine (arguments_low inner).bind fun args lowArgs => .after fun _ => .pure ?_
    have highest := heightAll_map_le lowArgs
    simp only [Expr.outline, Expr.outlines_eq_map, height_node, heightAll_cons,
      Identifier.height_outline]
    omega
  · exact .throw

end Operands

section Operators

variable {expression : Precedence → Parse Expr}
  (inner : ∀ floor, Returns (expression floor) (·.outline.height ≤ bound))
include inner

theorem operand_low (floor : Precedence) :
    Returns (operand expression floor) (·.outline.height ≤ bound + 1) := by
  unfold operand
  refine .after fun token => ?_
  split
  · exact .after fun _ => (inner _).bind fun expr low => .after fun _ => .pure (by simpa using low)
  · exact .ite .fail (.after fun _ => (inner _).bind fun expr low => .after fun _ =>
      .pure (by simpa using low))
  · exact primary_low (inner _)

theorem choiceOf_low (start : Span) {chosen : Expr} (low : chosen.outline.height ≤ limit)
    (fits : bound ≤ limit) :
    Returns (choiceOf expression start chosen) (·.outline.height ≤ limit + 2) :=
  (inner _).bind fun _ lowCondition => .after fun _ => (inner _).bind fun _ lowAlternative =>
    .after fun _ => .pure (by simp; omega)

theorem operationOf_low (start : Span) (operator : BinaryOperator) {left : Expr}
    (low : left.outline.height ≤ limit) (fits : bound ≤ limit) :
    Returns (operationOf expression start operator left) (·.outline.height ≤ limit + 2) := by
  unfold operationOf
  refine (inner _).bind fun right lowRight => .after fun _ => ?_
  have whole (info : ExprInfo) :
      (Expr.binary info left operator right).outline.height ≤ limit + 2 := by
    simp
    omega
  exact .ite (.after fun _ => .ite (.after fun _ => .pure (whole _)) (.pure (whole _)))
    (.pure (whole _))

theorem continuation_low (start : Span) {left : Expr} (low : left.outline.height ≤ limit)
    (fits : bound ≤ limit) (next : Continuation) :
    Returns (continuation expression start left next) (·.outline.height ≤ limit + 2) := by
  unfold continuation
  refine .after fun token => ?_
  split
  · exact operationOf_low inner start _ low fits
  · exact choiceOf_low inner start low fits
  · exact fieldOf_low (inner _) start low fits
  · exact elementOf_low (inner _) start low fits
  · exact callOf_low (inner _) start _ fits

end Operators

/-! ## Expressions -/

theorem square_succ (room : Nat) : (room + 1) * (room + 1) = room * room + 1 + 2 * room := by
  simp only [Nat.add_mul, Nat.mul_add]
  omega

/--
An expression is at most as high as the square of the room for it; what continues an expression
adds at most two nodes for each level of room, if the operands behind it are no higher than it.
-/
theorem expressionAbove_low (room : Nat) :
    (∀ floor, Returns (expressionAbove room floor) (·.outline.height ≤ room * room)) ∧
      ∀ floor start limit left, room * room ≤ limit → left.outline.height ≤ limit →
        Returns (continued room floor start left) (·.outline.height ≤ limit + 2 * room) := by
  induction room with
  | zero =>
      refine ⟨fun floor => ?_, fun floor start limit left fits low => ?_⟩
      · unfold expressionAbove
        exact .fail
      · unfold continued
        refine .after fun next => ?_
        split
        · exact .pure low
        · exact .fail
  | succ room ih =>
      -- An operand is at most one node higher than the square of the smaller room, and with two
      -- nodes for each of the levels that are left this makes the next square.
      have square := square_succ room
      refine ⟨fun floor => ?_, fun floor start limit left fits low => ?_⟩
      · unfold expressionAbove
        rw [square]
        exact .after fun start => (operand_low ih.1 floor).bind fun left low =>
          ih.2 floor start (room * room + 1) left (by omega) low
      · unfold continued
        refine .after fun next => ?_
        split
        · exact .pure (by omega)
        · refine (continuation_low ih.1 start low (by omega) _).bind fun longer low => ?_
          exact (ih.2 floor start (limit + 2) longer (by omega) low).mono fun _ low => by omega

theorem expression_low (room : Nat) :
    Returns (expression room) (·.outline.height ≤ room * room) :=
  (expressionAbove_low room).1 .lowest

end Parse

/-! ## Shallow bodies -/

namespace Parse

open Outline

attribute [local simp] Stmt.outline Decl.outline Expr.outlines_eq_map Stmt.outlines_eq_map
  Decl.outlines_eq_map NodeKind.isExpression or_imp forall_and

variable {limit : Nat}

/-! ## Statements -/

/-- The arm of a choice holds no expression higher than the limit. -/
def ShallowArm (limit : Nat) (arm : Arm) : Prop :=
  arm.condition.outline.Shallow limit ∧ ∀ stmt ∈ arm.body, stmt.outline.Shallow limit

theorem chain_shallow (spanFrom : Span → Span) {otherwise : List Stmt}
    (last : ∀ stmt ∈ otherwise, stmt.outline.Shallow limit) {arms : List Arm}
    (each : ∀ arm ∈ arms, ShallowArm limit arm) :
    ∀ stmt ∈ Arm.chain spanFrom otherwise arms, stmt.outline.Shallow limit := by
  induction arms with
  | nil => exact last
  | cons arm arms ih =>
      obtain ⟨⟨condition, body⟩, others⟩ := List.forall_mem_cons.mp each
      intro stmt among
      obtain rfl : stmt = _ := by simpa [Arm.chain] using among
      simpa using ⟨condition, body, ih others⟩

section Statements

variable {expression : Parse Expr} {block : Parse (List Stmt)}
  (inner : Returns expression (·.outline.Shallow limit))
  (body : Returns block fun stmts => ∀ stmt ∈ stmts, stmt.outline.Shallow limit)

include inner in
theorem returnStatement_shallow :
    Returns (returnStatement expression) (·.outline.Shallow limit) :=
  .after fun _ => .after fun _ => .ite (.after fun _ => .pure (by simp))
    (inner.bind fun value shallow => .after fun _ => .pure (by simpa using shallow))

theorem statementOf_shallow (start : Span) {first : Expr} {others : List Expr}
    (shallow : first.outline.Shallow limit)
    (shallowOthers : ∀ other ∈ others, other.outline.Shallow limit) :
    Returns (statementOf start first others) (·.outline.Shallow limit) := by
  unfold statementOf
  split
  · exact .after fun _ => .pure (by simpa using shallow)
  · next value last =>
      refine .after fun _ => .after fun _ => .pure ?_
      have targets : ∀ target ∈ others.dropLast, target.outline.Shallow limit :=
        fun target among => shallowOthers target (List.dropLast_subset _ among)
      have shallowValue := shallowOthers value (List.mem_of_getLast? last)
      simpa [-List.map_dropLast] using ⟨shallow, targets, shallowValue⟩

include inner in
theorem expressionStatement_shallow :
    Returns (expressionStatement expression) (·.outline.Shallow limit) := by
  rw [expressionStatement_eq]
  exact .after fun start => inner.bind fun first shallow =>
    (itemsAfter_returns inner _).bind fun rest others => statementOf_shallow start shallow others

include inner in
theorem simpleStatement_shallow :
    Returns (simpleStatement expression) fun read => ∀ stmt ∈ read, stmt.outline.Shallow limit := by
  unfold simpleStatement
  refine .after fun kind => ?_
  split
  · exact .after fun _ => .pure (by simp)
  · exact (returnStatement_shallow inner).bind fun stmt shallow => .pure (by simpa using shallow)
  · exact (expressionStatement_shallow inner).bind fun stmt shallow =>
      .pure (by simpa using shallow)

include inner body

theorem arm_shallow : Returns (arm expression block) (ShallowArm limit) :=
  .after fun _ => inner.bind fun _ condition => .after fun _ => body.bind fun _ stmts =>
    .pure ⟨condition, stmts⟩

theorem furtherArms_shallow (bound : Nat) : Returns (furtherArms expression block bound)
    fun read => (∀ arm ∈ read.1, ShallowArm limit arm) ∧
      ∀ stmt ∈ read.2, stmt.outline.Shallow limit := by
  induction bound with
  | zero => exact .pure ⟨by simp, by simp⟩
  | succ bound ih =>
      refine .after fun _ => .ite ?_ ?_
      · exact (arm_shallow inner body).bind fun first shallow => ih.bind fun rest others =>
          .pure ⟨List.forall_mem_cons.mpr ⟨shallow, others.1⟩, others.2⟩
      · have otherwise : Returns (alternative block)
            fun stmts => ∀ stmt ∈ stmts, stmt.outline.Shallow limit :=
          .after fun _ => .ite (.after fun _ => body) (.pure (by simp))
        exact otherwise.bind fun stmts shallow => .pure ⟨by simp, shallow⟩

theorem ifStatement_shallow :
    Returns (ifStatement expression block) (·.outline.Shallow limit) := by
  unfold ifStatement
  refine (arm_shallow inner body).bind fun first shallow => .after fun bound => ?_
  refine (furtherArms_shallow inner body _).bind fun read others => .after fun cursor => ?_
  have whole := chain_shallow (fun start => cursor.spanFrom start) others.2
    (List.forall_mem_cons.mpr ⟨shallow, others.1⟩)
  exact .pure (whole _ (by simp [Arm.chain]))

theorem whileStatement_shallow :
    Returns (whileStatement expression block) (·.outline.Shallow limit) :=
  (arm_shallow inner body).bind fun loop shallow => .after fun _ =>
    .pure (by simpa using And.intro shallow.1 shallow.2)

theorem forStatement_shallow (positive : 0 < limit) :
    Returns (forStatement expression block) (·.outline.Shallow limit) :=
  .after fun _ => .after fun name => .after fun _ => inner.bind fun iterable shallow =>
    .after fun _ => body.bind fun stmts others => .after fun _ =>
      .pure (by simpa using ⟨name.shallow_outline positive, shallow, others⟩)

theorem statement_shallow (positive : 0 < limit) : Returns (statement expression block)
    fun read => ∀ stmt ∈ read, stmt.outline.Shallow limit := by
  unfold statement
  refine .after fun kind => ?_
  split
  · exact .fail
  · exact (ifStatement_shallow inner body).bind fun stmt shallow => .pure (by simpa using shallow)
  · exact (whileStatement_shallow inner body).bind fun stmt shallow =>
      .pure (by simpa using shallow)
  · exact (forStatement_shallow inner body positive).bind fun stmt shallow =>
      .pure (by simpa using shallow)
  · exact .after fun _ => .ite .fail ((simpleStatement_shallow inner).bind fun read shallow =>
      .after fun _ => .pure shallow)

end Statements

/-! ## Blocks -/

theorem expression_shallow {room : Nat} (fits : room * room ≤ limit) :
    Returns (expression room) (·.outline.Shallow limit) :=
  (expression_low room).mono fun _ low => shallow_of_height_le (Nat.le_trans low fits)

theorem square_le_of_succ {room : Nat} (fits : (room + 1) * (room + 1) ≤ limit) :
    room * room ≤ limit :=
  Nat.le_trans (Nat.mul_le_mul (Nat.le_succ room) (Nat.le_succ room)) fits

section Bodies

variable (positive : 0 < limit)
include positive

theorem block_shallow (room : Nat) (fits : room * room ≤ limit) :
    Returns (block room) fun stmts => ∀ stmt ∈ stmts, stmt.outline.Shallow limit := by
  induction room with
  | zero => exact .fail
  | succ room ih =>
      have fits := square_le_of_succ fits
      unfold block
      refine .after fun _ => (Returns.ofRecovering (body_returns (fun stmts shallow => ?_)
        (by simp))).bind fun stmts shallow => .after fun _ => .pure shallow
      exact recovering_returns shallow
        ((statement_shallow (expression_shallow fits) (ih fits) positive).bind fun read new =>
          .pure (forall_mem_append_toList shallow new))

/-! ## Declarations -/

omit positive in
theorem initializer_low : Returns initializer (·.outline.height = 1) := by
  unfold initializer
  refine .after fun token => ?_
  split
  · next value found =>
      refine .after fun _ => .pure ?_
      split at found
      · exact height_of_atom found
      · cases found
  · exact .fail

theorem variableDefinition_shallow (room : Nat) :
    Returns (variableDefinition room) (·.outline.Shallow limit) :=
  .after fun _ => .after fun var => .after fun _ => initializer_low.bind fun value single =>
    .after fun _ => .after fun _ => .pure <| by
      have low : value.outline.height ≤ limit := by omega
      simpa using ⟨var.shallow_outline positive, shallow_of_height_le low⟩

theorem outerVariable_shallow : Returns outerVariable (·.outline.Shallow limit) := by
  unfold outerVariable
  refine .after fun start => .after fun name => .after fun _ => .after fun _ => ?_
  have shallow := name.shallow_outline positive
  exact .ite (.pure (by simpa using shallow)) (.pure (by simpa using shallow))

/-- No expression in a declaration is higher than the limit, whatever the tokens are. -/
theorem rules_shallow (fits : nestingLimit * nestingLimit ≤ limit) :
    Rules (fun _ => True) True True (fun _ decl => decl.outline.Shallow limit)
      (·.outline.Shallow limit) where
  lost := id
  definitions room := .of_returns ((variableDefinition_shallow positive room).mono
    fun _ shallow _ => shallow)
  outer := .of_returns (outerVariable_shallow positive)
  statements room inside := .of_returns <| by
    have fits : room * room ≤ limit := Nat.le_trans (Nat.mul_le_mul inside inside) fits
    exact (statement_shallow (expression_shallow fits) (block_shallow positive room fits)
      positive).mono fun _ shallow => ⟨shallow, fun _ => trivial⟩
  classes := Yields.any.mono fun header _ span members shallow => by
    simpa using ⟨header.2.1.shallow_outline positive, header.2.2.shallow_outline positive, shallow⟩
  functions room := Yields.any.mono
    fun heading _ span declarations statements recovered shallow shallow' _ _ _ => by
      simpa using ⟨heading.shallow_outlines positive, shallow, shallow'⟩

end Bodies

end Parse

/-- Whatever the tokens are, no expression is higher than the square of the limit for nesting. -/
theorem Program.shallow_outline_ofTokens (file : String) (known : List Diagnostic)
    (tokens : List Token) (nonempty : tokens ≠ []) :
    (Program.ofTokens file known tokens nonempty).outline.Shallow
      (nestingLimit * nestingLimit) := by
  let program := Program.ofTokens file known tokens nonempty
  have rules := Parse.rules_shallow (by decide) (Nat.le_refl (nestingLimit * nestingLimit))
  have body := rules.programBody_yields (.ofTokens tokens nonempty)
    (.ofTokens nonempty fun _ _ => trivial) fun _ => trivial
  have declarations : ∀ decl ∈ program.declarations,
      decl.outline.Shallow (nestingLimit * nestingLimit) := body.declarations
  have statements : ∀ stmt ∈ program.statements,
      stmt.outline.Shallow (nestingLimit * nestingLimit) := body.statements
  simpa [Program.outline, Decl.outlines_eq_map, Stmt.outlines_eq_map, NodeKind.isExpression, or_imp,
    forall_and] using And.intro declarations statements

end ChocoLang
