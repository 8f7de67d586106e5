import ChocoLang.Proofs.Parsing.Yields
import ChocoLang.Proofs.Token.Names

/-!
# Trees as they are read

Every tree that a reader returns is well formed and fresh, also where problems were found before,
inside or behind it: whatever the tokens are, neither an error nor a type is recorded at its nodes.
A function may have lost a part of its body; then a problem was recorded, so that the reading is
spoiled.  As every token that may name a class spells a name, no type but that of a result left out
is the type of the absent value.
-/

namespace ChocoLang

/-- A token that may name a class spells a name. -/
def Token.Proper (token : Token) : Prop :=
  token.kind = .identifier ∨ token.kind = .nameString → isName token.value.display.toList

/-- What begins with a bracket is no name. -/
theorem ne_of_isName {name other : String} (named : isName name.toList)
    (bracketed : isName other.toList = false) : name ≠ other := by
  rintro rfl
  rw [bracketed] at named
  cases named

theorem ne_noResult_of_isName {name : String} (named : isName name.toList) :
    name ≠ Parse.noResult :=
  ne_of_isName named (by decide +kernel)

attribute [local simp] Expr.outline Stmt.outline Decl.outline

/-- The written type is as it is read: it can be written, and nothing is recorded at it. -/
def WrittenType.Raw (written : WrittenType) : Prop :=
  written.Writable ∧ written.outline.Fresh

/-- The variable is as it is read. -/
def TypedVar.Raw (var : TypedVar) : Prop := var.written.Writable ∧ var.outline.Fresh

/-- The heading of a function is as it is read. -/
def FunctionHeading.Raw (heading : FunctionHeading) : Prop :=
  heading.WellFormed ∧ Outline.AllIn Label.Fresh heading.outlines

/-- The statement is as it is read. -/
def Stmt.Raw (stmt : Stmt) : Prop := stmt.WellFormed ∧ stmt.outline.Fresh

theorem Stmt.forall_raw {stmts : List Stmt} (wellFormed : WellFormedStmts stmts)
    (fresh : ∀ stmt ∈ stmts, stmt.outline.Fresh) : ∀ stmt ∈ stmts, stmt.Raw := fun stmt among =>
  ⟨(wellFormedStmts_iff stmts).mp wellFormed stmt among, fresh stmt among⟩

theorem Stmt.Raw.assign {info : NodeInfo} {targets : List Expr} {value : Expr}
    (raw : (Stmt.assign info targets value).Raw) :
    info.error = none ∧ (∀ target ∈ targets, target.isTarget ∧ target.outline.Fresh) ∧
      value.outline.Fresh := by
  obtain ⟨⟨-, isTarget⟩, fresh⟩ := raw
  simp only [Stmt.outline, Outline.all_node, fresh_label_iff, Outline.allIn_append,
    Expr.allIn_outlines, Outline.allIn_cons, Outline.allIn_nil] at fresh
  exact ⟨fresh.1, fun target among => ⟨isTarget target among, fresh.2.1 target among⟩,
    fresh.2.2.1⟩

theorem Stmt.Raw.ifElse {info : NodeInfo} {condition : Expr} {thenBody elseBody : List Stmt}
    (raw : (Stmt.ifElse info condition thenBody elseBody).Raw) :
    condition.outline.Fresh ∧ (∀ stmt ∈ thenBody, stmt.Raw) ∧ ∀ stmt ∈ elseBody, stmt.Raw := by
  obtain ⟨wellFormed, fresh⟩ := raw
  simp only [Stmt.outline, Outline.all_node, Outline.allIn_cons, Outline.allIn_append,
    Stmt.allIn_outlines] at fresh
  exact ⟨fresh.2.1, forall_raw wellFormed.1 fresh.2.2.1, forall_raw wellFormed.2 fresh.2.2.2⟩

theorem Stmt.Raw.whileLoop {info : NodeInfo} {condition : Expr} {body : List Stmt}
    (raw : (Stmt.whileLoop info condition body).Raw) :
    condition.outline.Fresh ∧ ∀ stmt ∈ body, stmt.Raw := by
  obtain ⟨wellFormed, fresh⟩ := raw
  simp only [Stmt.outline, Outline.all_node, Outline.allIn_cons, Stmt.allIn_outlines] at fresh
  exact ⟨fresh.2.1, forall_raw wellFormed fresh.2.2⟩

theorem Stmt.Raw.forLoop {info : NodeInfo} {element : Identifier} {iterable : Expr}
    {body : List Stmt} (raw : (Stmt.forLoop info element iterable body).Raw) :
    element.info.error = none ∧ iterable.outline.Fresh ∧ ∀ stmt ∈ body, stmt.Raw := by
  obtain ⟨wellFormed, fresh⟩ := raw
  simp only [Stmt.outline, Outline.all_node, Outline.allIn_cons, Stmt.allIn_outlines,
    Identifier.fresh_outline_iff] at fresh
  exact ⟨fresh.2.1.1, fresh.2.2.1, forall_raw wellFormed fresh.2.2.2⟩

/-- What a class that is declared is called is a name. -/
def Decl.ClassNamed : Decl → Prop
  | .classDef _ name _ _ => isName name.name.toList
  | _ => True

/--
The declaration is as it is read in a body of the kind; if the reading is not spoiled, then no
function in it lost a part of its body.
-/
structure Decl.Raw (spoiled : Prop) (place : BodyKind) (decl : Decl) : Prop where
  /-- The declaration is well formed. -/
  wellFormed : decl.WellFormed place
  /-- Nothing is recorded at the declaration. -/
  fresh : decl.outline.Fresh
  /-- A class has a name. -/
  named : decl.ClassNamed
  /-- Functions lost parts only in a spoiled reading. -/
  recovered : ∀ function ∈ decl.functions, function.2 = true → spoiled

theorem Decl.Raw.mono {spoiled worse : Prop} {place : BodyKind} {decl : Decl}
    (raw : decl.Raw spoiled place) (imp : spoiled → worse) : decl.Raw worse place :=
  ⟨raw.wellFormed, raw.fresh, raw.named,
    fun function among lost => imp (raw.recovered function among lost)⟩

theorem Decl.WellFormed.classNamed {place : BodyKind} {decl : Decl}
    (wellFormed : decl.WellFormed place) (inner : place ≠ .program) : decl.ClassNamed := by
  cases decl with
  | classDef info name superclass members => exact absurd wellFormed.1 inner
  | _ => exact trivial

theorem mem_functionsIn {decl : Decl} {decls : List Decl} (among : decl ∈ decls)
    {function : String × Bool} (inside : function ∈ decl.functions) :
    function ∈ functionsIn decls := by
  induction decls with
  | nil => cases among
  | cons first rest ih =>
      rcases List.mem_cons.mp among with rfl | later
      · exact List.mem_append_left _ inside
      · exact List.mem_append_right _ (ih later)

/-- The members of a class are as they are read. -/
theorem Decl.Raw.members {spoiled : Prop} {place : BodyKind} {info : NodeInfo}
    {name superclass : Identifier} {members : List Decl}
    (raw : (Decl.classDef info name superclass members).Raw spoiled place) :
    ∀ decl ∈ members, decl.Raw spoiled .ofClass := by
  intro decl among
  have fresh := raw.fresh
  simp only [Decl.outline, Outline.all_node, Outline.allIn_cons, Decl.allIn_outlines] at fresh
  have wellFormed := (wellFormedDecls_iff _ _).mp raw.wellFormed.2 decl among
  exact ⟨wellFormed, fresh.2.2.2 decl among, wellFormed.classNamed (by decide),
    fun function inside => raw.recovered function (mem_functionsIn among inside)⟩

/-- The declarations in a function are as they are read. -/
theorem Decl.Raw.locals {spoiled : Prop} {place : BodyKind} {info : NodeInfo}
    {heading : FunctionHeading} {declarations : List Decl} {statements : List Stmt}
    {recovered : Bool}
    (raw : (Decl.funcDef info heading declarations statements recovered).Raw spoiled place) :
    ∀ decl ∈ declarations, decl.Raw spoiled .ofFunction := by
  intro decl among
  have fresh := raw.fresh
  simp only [Decl.outline, Outline.all_node, Outline.allIn_append, Decl.allIn_outlines] at fresh
  have wellFormed := (wellFormedDecls_iff _ _).mp raw.wellFormed.2.1 decl among
  exact ⟨wellFormed, fresh.2.2.1 decl among, wellFormed.classNamed (by decide),
    fun function inside =>
      raw.recovered function (List.mem_cons_of_mem _ (mem_functionsIn among inside))⟩

/-- The statements in a function are as they are read. -/
theorem Decl.Raw.body {spoiled : Prop} {place : BodyKind} {info : NodeInfo}
    {heading : FunctionHeading} {declarations : List Decl} {statements : List Stmt}
    {recovered : Bool}
    (raw : (Decl.funcDef info heading declarations statements recovered).Raw spoiled place) :
    ∀ stmt ∈ statements, stmt.Raw := by
  intro stmt among
  have fresh := raw.fresh
  simp only [Decl.outline, Outline.all_node, Outline.allIn_append, Stmt.allIn_outlines] at fresh
  exact ⟨(wellFormedStmts_iff _).mp raw.wellFormed.2.2 stmt among, fresh.2.2.2 stmt among⟩

namespace Parse

variable {trait : Token → Prop} {spoiled : Prop}

/-! ## Types and expressions -/

/-- What is read as a name is one. -/
theorem identifier_named (wanted : Expectation) :
    Yields Token.Proper spoiled (identifier wanted) fun name => isName name.name.toList := by
  have read : Yields Token.Proper spoiled (expect .identifier wanted) fun token =>
      isName token.value.display.toList := by
    intro cursor token after all ok _
    change (if cursor.kind == .identifier then advance else _ : Parse Token) cursor = _ at ok
    split at ok
    · next kind =>
        cases ok
        refine all.current (.inl ?_)
        unfold Cursor.kind at kind
        unfold Cursor.current
        cases shape : cursor.ahead with
        | nil => simp [shape] at kind
        | cons token rest => simpa [shape] using kind
    · cases ok
  exact read.bind fun token named => .pure named

theorem writtenType_yields (room : Nat) :
    Yields Token.Proper spoiled (writtenType room) WrittenType.Raw := by
  induction room with
  | zero => exact .fail
  | succ room ih =>
      unfold writtenType
      refine .current fun token proper => ?_
      split
      · next kind =>
          exact .bind .any fun _ _ =>
            .pure ⟨ne_noResult_of_isName (proper (.inl kind)), by simp [WrittenType.outline]⟩
      · next kind =>
          exact .bind .any fun _ _ =>
            .pure ⟨ne_noResult_of_isName (proper (.inr kind)), by simp [WrittenType.outline]⟩
      · refine .bind .any fun _ _ => ih.bind fun element read => ?_
        exact .bind .any fun _ _ => .look fun span =>
          .pure ⟨read.1, by simpa [WrittenType.outline] using read.2⟩
      · exact .fail

theorem typedVar_yields (room : Nat) : Yields Token.Proper spoiled (typedVar room) TypedVar.Raw :=
  (identifier_yields _).bind fun name fresh => .bind .any fun _ _ =>
    (writtenType_yields room).bind fun written read => .look fun _ =>
      .pure ⟨read.1, by simpa [TypedVar.outline] using ⟨fresh, read.2⟩⟩

theorem fresh_of_atom {token : Token} {atom : Expr} (found : atom? token = some atom) :
    atom.outline.Fresh := by
  unfold atom? at found
  dsimp only at found
  split at found <;> cases found <;>
    simp [Identifier.outline, Label.Fresh, ExprInfo.label, ExprInfo.ofSpan]

section Expressions

variable {expression : Parse Expr} [Forward expression]

theorem primary_yields (inner : Yields trait spoiled expression fun expr => expr.outline.Fresh) :
    Yields trait spoiled (primary expression) fun expr => expr.outline.Fresh := by
  unfold primary
  refine .look fun token => ?_
  split
  · next atom found => exact .bind .any fun _ _ => .pure (fresh_of_atom found)
  · split
    · exact .bind .any fun _ _ => inner.bind fun expr fresh => .bind .any fun _ _ => .pure fresh
    · refine .bind .any fun _ _ => (commaList_yields _ inner).bind fun elements fresh => ?_
      exact .bind .any fun _ _ => .look fun _ => .pure (by simpa using fresh)
    · exact .fail
    · exact .fail

theorem arguments_yields (inner : Yields trait spoiled expression fun expr => expr.outline.Fresh) :
    Yields trait spoiled (arguments expression) fun args => ∀ arg ∈ args, arg.outline.Fresh :=
  (commaList_yields _ inner).bind fun _ fresh => .bind .any fun _ _ => .pure fresh

theorem fieldOf_yields (inner : Yields trait spoiled expression fun expr => expr.outline.Fresh)
    (start : Span) {object : Expr} (fresh : object.outline.Fresh) :
    Yields trait spoiled (fieldOf expression start object) fun expr => expr.outline.Fresh := by
  unfold fieldOf
  refine (identifier_yields _).bind fun name freshName => .look fun _ => .bind .any fun _ _ => ?_
  refine .ite ((arguments_yields inner).bind fun args freshArgs => .look fun _ => ?_) ?_
  · exact .pure (by simpa using ⟨⟨fresh, freshName⟩, freshArgs⟩)
  · exact .pure (by simpa using ⟨fresh, freshName⟩)

theorem elementOf_yields (inner : Yields trait spoiled expression fun expr => expr.outline.Fresh)
    (start : Span) {container : Expr} (fresh : container.outline.Fresh) :
    Yields trait spoiled (elementOf expression start container) fun expr => expr.outline.Fresh :=
  inner.bind fun _ freshPosition => .bind .any fun _ _ => .look fun _ =>
    .pure (by simpa using ⟨fresh, freshPosition⟩)

theorem callOf_yields (inner : Yields trait spoiled expression fun expr => expr.outline.Fresh)
    (start paren : Span) {callee : Expr} (fresh : callee.outline.Fresh) :
    Yields trait spoiled (callOf expression start paren callee) fun expr => expr.outline.Fresh := by
  unfold callOf
  split
  · next function =>
      have freshName : function.outline.Fresh := fresh
      exact (arguments_yields inner).bind fun args freshArgs => .look fun _ =>
        .pure (by simpa using ⟨freshName, freshArgs⟩)
  · exact .throw

end Expressions

section Operators

variable {expression : Precedence → Parse Expr} [∀ floor, Forward (expression floor)]
  (inner : ∀ floor, Yields trait spoiled (expression floor) fun expr => expr.outline.Fresh)
include inner

theorem operand_yields (floor : Precedence) :
    Yields trait spoiled (operand expression floor) fun expr => expr.outline.Fresh := by
  unfold operand
  refine .look fun token => ?_
  split
  · exact .bind .any fun _ _ => (inner _).bind fun expr fresh => .look fun _ =>
      .pure (by simpa using fresh)
  · exact .ite .fail (.bind .any fun _ _ => (inner _).bind fun expr fresh => .look fun _ =>
      .pure (by simpa using fresh))
  · exact primary_yields (inner _)

theorem choiceOf_yields (start : Span) {chosen : Expr} (fresh : chosen.outline.Fresh) :
    Yields trait spoiled (choiceOf expression start chosen) fun expr => expr.outline.Fresh :=
  (inner _).bind fun _ freshCondition => .bind .any fun _ _ =>
    (inner _).bind fun _ freshAlternative => .look fun _ =>
      .pure (by simpa using ⟨freshCondition, fresh, freshAlternative⟩)

theorem operationOf_yields (start : Span) (operator : BinaryOperator) {left : Expr}
    (fresh : left.outline.Fresh) :
    Yields trait spoiled (operationOf expression start operator left)
      fun expr => expr.outline.Fresh := by
  unfold operationOf
  refine (inner _).bind fun right freshRight => .look fun _ => ?_
  have whole (info : ExprInfo) (bare : (info.label .binaryExpr).Fresh) :
      (Expr.binary info left operator right).outline.Fresh := by
    simpa using ⟨bare, fresh, freshRight⟩
  refine .ite (.look fun _ => .ite (.bind .any fun _ _ => ?_) ?_) ?_
  all_goals exact .pure (whole _ ⟨rfl, rfl⟩)

theorem continuation_yields (start : Span) {left : Expr} (fresh : left.outline.Fresh)
    (next : Continuation) :
    Yields trait spoiled (continuation expression start left next)
      fun expr => expr.outline.Fresh := by
  unfold continuation
  refine @Yields.bind _ _ _ _ _ _ _ _ _ (fun token => by split <;> infer_instance) .any
    fun token _ => ?_
  split
  · exact operationOf_yields inner start _ fresh
  · exact choiceOf_yields inner start fresh
  · exact fieldOf_yields (inner _) start fresh
  · exact elementOf_yields (inner _) start fresh
  · exact callOf_yields (inner _) start _ fresh

end Operators

theorem expressionAbove_yields (room : Nat) :
    (∀ floor, Yields trait spoiled (expressionAbove room floor) fun expr => expr.outline.Fresh) ∧
      ∀ floor start left, left.outline.Fresh →
        Yields trait spoiled (continued room floor start left) fun expr => expr.outline.Fresh := by
  induction room with
  | zero =>
      refine ⟨fun floor => ?_, fun floor start left fresh => ?_⟩
      · unfold expressionAbove
        exact .fail
      · unfold continued
        refine .look fun next => ?_
        split
        · exact .pure fresh
        · exact .fail
  | succ room ih =>
      refine ⟨fun floor => ?_, fun floor start left fresh => ?_⟩
      · unfold expressionAbove
        exact .look fun start => (operand_yields ih.1 floor).bind (ih.2 floor start)
      · unfold continued
        refine .look fun next => ?_
        split
        · exact .pure fresh
        · exact (continuation_yields ih.1 start fresh _).bind (ih.2 floor start)

/-- Nothing is recorded at an expression that is read. -/
theorem expression_yields (room : Nat) :
    Yields trait spoiled (expression room) fun expr => expr.outline.Fresh :=
  (expressionAbove_yields room).1 .lowest

/-! ## Statements -/

/-- The arm of a choice is as it is read. -/
def RawArm (arm : Arm) : Prop := arm.condition.outline.Fresh ∧ ∀ stmt ∈ arm.body, stmt.Raw

/-- The statements that a chain of choices amounts to are as they are read. -/
theorem chain_raw (spanFrom : Span → Span) {otherwise : List Stmt}
    (last : ∀ stmt ∈ otherwise, stmt.Raw) {arms : List Arm} (each : ∀ arm ∈ arms, RawArm arm) :
    ∀ stmt ∈ Arm.chain spanFrom otherwise arms, stmt.Raw := by
  induction arms with
  | nil => exact last
  | cons arm arms ih =>
      obtain ⟨⟨condition, body⟩, others⟩ := List.forall_mem_cons.mp each
      have rest := ih others
      intro stmt among
      obtain rfl : stmt = _ := by simpa [Arm.chain] using among
      refine ⟨⟨(wellFormedStmts_iff _).mpr fun stmt among => (body stmt among).1,
        (wellFormedStmts_iff _).mpr fun stmt among => (rest stmt among).1⟩, ?_⟩
      simpa using
        ⟨condition, fun stmt among => (body stmt among).2, fun stmt among => (rest stmt among).2⟩

section Statements

variable {expression : Parse Expr} [Forward expression] {block : Parse (List Stmt)} [Forward block]
  (inner : Yields trait spoiled expression fun expr => expr.outline.Fresh)
  (body : Yields trait spoiled block fun stmts => ∀ stmt ∈ stmts, stmt.Raw)

theorem checkTargets_yields (targets : List Expr) :
    Yields trait spoiled (checkTargets targets)
      fun _ => ∀ target ∈ targets, target.isTarget = true := by
  unfold checkTargets
  split
  · exact .throw
  · next found =>
      refine .pure fun target among => ?_
      simpa using List.find?_eq_none.mp found target among

include inner in
theorem returnStatement_yields : Yields trait spoiled (returnStatement expression) Stmt.Raw :=
  .bind .any fun _ _ => .look fun _ => .ite (.look fun _ => .pure ⟨trivial, by simp⟩)
    (inner.bind fun value fresh => .look fun _ =>
      .pure ⟨trivial, by simpa using fresh⟩)

theorem statementOf_yields (start : Span) {first : Expr} {others : List Expr}
    (fresh : first.outline.Fresh) (freshOthers : ∀ other ∈ others, other.outline.Fresh) :
    Yields trait spoiled (statementOf start first others) Stmt.Raw := by
  unfold statementOf
  split
  · exact .look fun _ => .pure ⟨trivial, by simpa using fresh⟩
  · next value last =>
      refine (checkTargets_yields _).bind fun _ targets => .look fun _ =>
        .pure ⟨⟨by simp, targets⟩, ?_⟩
      have freshTargets : ∀ target ∈ others.dropLast, target.outline.Fresh := fun target among =>
        freshOthers target (List.dropLast_subset _ among)
      simpa using
        ⟨⟨fresh, freshTargets⟩, freshOthers value (List.mem_of_getLast? last)⟩

include inner in
theorem expressionStatement_yields :
    Yields trait spoiled (expressionStatement expression) Stmt.Raw := by
  rw [expressionStatement_eq]
  exact .look fun start => inner.bind fun first fresh =>
    (itemsAfter_yields _ inner).bind fun rest freshRest => statementOf_yields start fresh freshRest

include inner in
theorem simpleStatement_yields :
    Yields trait spoiled (simpleStatement expression) fun read => ∀ stmt ∈ read, stmt.Raw := by
  unfold simpleStatement
  refine .look fun kind => ?_
  split
  · exact .bind .any fun _ _ => .pure (by simp)
  · exact (returnStatement_yields inner).bind fun stmt raw => .pure (by simpa using raw)
  · exact (expressionStatement_yields inner).bind fun stmt raw => .pure (by simpa using raw)

include inner body

theorem arm_yields : Yields trait spoiled (arm expression block) RawArm :=
  .bind .any fun _ _ => inner.bind fun _ fresh => .bind .any fun _ _ => body.bind fun _ raw =>
    .pure ⟨fresh, raw⟩

theorem furtherArms_yields (bound : Nat) : Yields trait spoiled (furtherArms expression block bound)
    fun read => (∀ arm ∈ read.1, RawArm arm) ∧ ∀ stmt ∈ read.2, stmt.Raw := by
  induction bound with
  | zero => exact .pure ⟨by simp, by simp⟩
  | succ bound ih =>
      refine .look fun _ => .ite ?_ ?_
      · exact (arm_yields inner body).bind fun first raw => ih.bind fun rest others =>
          .pure ⟨List.forall_mem_cons.mpr ⟨raw, others.1⟩, others.2⟩
      · refine Yields.bind
          (.bind .any fun _ _ => .ite (.bind .any fun _ _ => body) (.pure (by simp)))
          fun otherwise raw => .pure ⟨by simp, raw⟩

theorem ifStatement_yields : Yields trait spoiled (ifStatement expression block) Stmt.Raw := by
  unfold ifStatement
  refine (arm_yields inner body).bind fun first raw => .look fun bound => ?_
  refine (furtherArms_yields inner body _).bind fun read others => .look fun cursor => ?_
  have whole := chain_raw (fun start => cursor.spanFrom start) others.2
    (List.forall_mem_cons.mpr ⟨raw, others.1⟩)
  exact .pure (whole _ (by simp [Arm.chain]))

theorem whileStatement_yields : Yields trait spoiled (whileStatement expression block) Stmt.Raw :=
  (arm_yields inner body).bind fun loop raw => .look fun _ =>
    .pure ⟨(wellFormedStmts_iff _).mpr fun stmt among => (raw.2 stmt among).1,
      by simpa using ⟨raw.1, fun stmt among => (raw.2 stmt among).2⟩⟩

theorem forStatement_yields : Yields trait spoiled (forStatement expression block) Stmt.Raw :=
  .bind .any fun _ _ => (identifier_yields _).bind fun _ freshName => .bind .any fun _ _ =>
    inner.bind fun _ fresh => .bind .any fun _ _ => body.bind fun stmts raw => .look fun _ =>
      .pure ⟨(wellFormedStmts_iff _).mpr fun stmt among => (raw stmt among).1,
        by simpa using ⟨freshName, fresh, fun stmt among => (raw stmt among).2⟩⟩

theorem statement_yields :
    Yields trait spoiled (statement expression block) fun read => ∀ stmt ∈ read, stmt.Raw := by
  unfold statement
  refine .look fun kind => ?_
  split
  · exact .fail
  · exact (ifStatement_yields inner body).bind fun stmt raw => .pure (by simpa using raw)
  · exact (whileStatement_yields inner body).bind fun stmt raw => .pure (by simpa using raw)
  · exact (forStatement_yields inner body).bind fun stmt raw => .pure (by simpa using raw)
  · exact .look fun _ => .ite .fail ((simpleStatement_yields inner).bind fun read raw =>
      .bind .any fun _ _ => .pure raw)

end Statements

/-- Every statement of a block is as it is read. -/
theorem block_yields (room : Nat) :
    Yields trait spoiled (block room) fun stmts => ∀ stmt ∈ stmts, stmt.Raw := by
  induction room with
  | zero => exact .fail
  | succ room ih =>
      unfold block
      refine .bind .any fun _ _ => Yields.bind (.ofRecovering (body_yields
        (fun stmts raw => ?_) (by simp))) fun stmts raw => .bind .any fun _ _ => .pure raw
      exact recovering_yields raw ((statement_yields (expression_yields room) ih).bind
        fun read others => .pure (forall_mem_append_toList raw others))

/-! ## Declarations -/

theorem initializer_yields : Yields trait spoiled initializer fun value =>
    value.isLiteral = true ∧ value.outline.Fresh := by
  unfold initializer
  refine .look fun token => ?_
  split
  · next value found =>
      refine .bind .any fun _ _ => .pure ?_
      split at found
      · next literal =>
          refine ⟨?_, fresh_of_atom found⟩
          unfold atom? at found
          dsimp only at found
          split at found <;> cases found <;> simp_all [TokenKind.isLiteral, Expr.isLiteral]
      · cases found
  · exact .fail

theorem variableDefinition_yields (room : Nat) :
    Yields Token.Proper spoiled (variableDefinition room)
      fun decl => ∀ place, decl.Raw spoiled place :=
  .look fun _ => (typedVar_yields room).bind fun var raw => .bind .any fun _ _ =>
    initializer_yields.bind fun value read => .look fun _ => .bind .any fun _ _ =>
      .pure fun place =>
        ⟨⟨raw.1, read.1⟩, by simpa using ⟨raw.2, read.2⟩, trivial, nofun⟩

theorem outerVariable_yields :
    Yields trait spoiled outerVariable fun decl => decl.Raw spoiled .ofFunction := by
  unfold outerVariable
  refine .bind .any fun start _ => (identifier_yields _).bind fun name fresh => .look fun _ =>
    .bind .any fun _ _ =>
      .ite (.pure ⟨rfl, ?_, trivial, nofun⟩) (.pure ⟨rfl, ?_, trivial, nofun⟩) <;>
    simpa using fresh

theorem classHeader_yields : Yields Token.Proper spoiled classHeader fun read =>
    (read.2.1.outline.Fresh ∧ isName read.2.1.name.toList) ∧ read.2.2.outline.Fresh :=
  .bind .any fun _ _ => ((identifier_yields _).and (identifier_named _)).bind fun _ fresh =>
    .bind .any fun _ _ =>
    (identifier_yields _).bind fun _ freshSuperclass => .bind .any fun _ _ =>
      .bind .any fun _ _ => .bind .any fun _ _ => .pure ⟨fresh, freshSuperclass⟩

theorem functionHeading_yields (room : Nat) :
    Yields Token.Proper spoiled (functionHeading room) FunctionHeading.Raw := by
  refine (identifier_yields _).bind fun name freshName => .bind .any fun _ _ =>
    (commaList_yields _ (typedVar_yields room)).bind fun params raw => .bind .any fun paren _ => ?_
  have result : Yields Token.Proper spoiled (resultType room paren.span) fun written =>
      (written.IsImplicit ∨ written.Writable) ∧ written.outline.Fresh := by
    refine .bind .any fun arrow _ => .ite ?_ (.pure ⟨.inl rfl, by simp [WrittenType.outline]⟩)
    exact (writtenType_yields room).mono fun written read => ⟨.inr read.1, read.2⟩
  refine result.bind fun returns read => .bind .any fun _ _ => .bind .any fun _ _ => .pure ?_
  refine ⟨⟨fun var among => (raw var among).1, read.1⟩, ?_⟩
  simpa [FunctionHeading.outlines, Outline.allIn_iff, or_imp, forall_and] using
    ⟨freshName, fun var among => (raw var among).2, read.2⟩

theorem decls_wellFormed {place : BodyKind} {decls : List Decl}
    (raw : ∀ decl ∈ decls, decl.Raw spoiled place) : WellFormedDecls place decls :=
  (wellFormedDecls_iff place decls).mpr fun decl among => (raw decl among).wellFormed

theorem decls_recovered {place : BodyKind} {decls : List Decl}
    (raw : ∀ decl ∈ decls, decl.Raw spoiled place) :
    ∀ function ∈ functionsIn decls, function.2 = true → spoiled := by
  induction decls with
  | nil => simp [functionsIn]
  | cons decl decls ih =>
      obtain ⟨first, rest⟩ := List.forall_mem_cons.mp raw
      intro function among
      rcases List.mem_append.mp among with before | behind
      · exact first.recovered function before
      · exact ih rest function behind

/-- Declarations and statements are as they are read, also in a function that lacks statements. -/
theorem rules_raw : Rules Token.Proper spoiled True (fun place decl => decl.Raw spoiled place)
    Stmt.Raw where
  lost _ := trivial
  definitions := variableDefinition_yields
  outer := outerVariable_yields
  statements room _ := (statement_yields (expression_yields room) (block_yields room)).mono
    fun _ raw => ⟨raw, fun _ => trivial⟩
  classes := classHeader_yields.mono fun header fresh span members raw =>
    { wellFormed := ⟨rfl, decls_wellFormed raw⟩
      fresh := by simpa using ⟨fresh.1.1, fresh.2, fun decl among => (raw decl among).fresh⟩
      named := fresh.1.2
      recovered := decls_recovered raw }
  functions room := (functionHeading_yields room).mono
    fun heading head span declarations statements recovered raw body lost _ place =>
      { wellFormed := ⟨head.1, decls_wellFormed raw,
          (wellFormedStmts_iff _).mpr fun stmt among => (body stmt among).1⟩
        fresh := by
          simpa using ⟨head.2, fun decl among => (raw decl among).fresh,
            fun stmt among => (body stmt among).2⟩
        named := trivial
        recovered := List.forall_mem_cons.mpr ⟨lost, decls_recovered raw⟩ }

end Parse

theorem Token.Named.proper {token : Token} (named : token.Named) : token.Proper := by
  intro kind
  obtain ⟨chars, name, value⟩ := named kind
  simpa [value, TokenValue.display] using name

/-- The program is as it is read: a function in it lost a part only if an error is known. -/
structure Program.Raw (program : Program) : Prop where
  /-- The declarations are as they are read. -/
  declarations : ∀ decl ∈ program.declarations, decl.Raw (program.errors ≠ []) .program
  /-- The statements are as they are read. -/
  statements : ∀ stmt ∈ program.statements, stmt.Raw

/-- A program that is read of a source is as it is read, whatever errors the source has. -/
theorem Program.raw_of_ofSource {file source : String} {program : Program}
    (read : Program.ofSource file source = .ok program) : program.Raw := by
  obtain ⟨lexing, lexed, rfl⟩ := exists_of_ofSource read
  have proper := Cursor.Throughout.ofTokens lexing.tokens_ne_nil fun token among =>
    (Lexing.named_of_ofSource lexed token among).proper
  have rules : Parse.Rules Token.Proper ((Program.ofLexing file lexing).errors ≠ []) _ _ _ :=
    Parse.rules_raw
  have raw := rules.programBody_yields _ proper fun problems none => problems <|
    List.map_eq_nil_iff.mp (List.append_eq_nil_iff.mp none).2
  exact ⟨raw.declarations, raw.statements⟩

/-- Nothing is recorded at any node of a program that is read of a source. -/
theorem Program.fresh_of_ofSource {file source : String} {program : Program}
    (read : Program.ofSource file source = .ok program) : program.outline.Fresh := by
  have raw := raw_of_ofSource read
  have clean : program.info.error = none := by
    obtain ⟨lexing, -, rfl⟩ := exists_of_ofSource read
    rfl
  simp only [Program.outline, Outline.all_node, fresh_label_iff, Outline.allIn_append,
    Decl.allIn_outlines, Stmt.allIn_outlines]
  exact ⟨clean, fun decl among => (raw.declarations decl among).fresh,
    fun stmt among => (raw.statements stmt among).2⟩

end ChocoLang
