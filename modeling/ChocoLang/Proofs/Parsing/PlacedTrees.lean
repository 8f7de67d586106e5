import ChocoLang.Proofs.Parsing.Placed

/-!
# Trees and problems lie in the text

Every node of the tree that a reader returns is placed in the region of the tokens, and so is every
problem that it records or fails with.
-/

namespace ChocoLang

attribute [local simp] WrittenType.outline Expr.outline Stmt.outline Decl.outline

/-- The parts of the body of a function are placed in the region. -/
structure Parse.FunctionBody.PlacedIn (region : Region) (body : Parse.FunctionBody) : Prop where
  /-- The declarations are placed in the region. -/
  declarations : ∀ decl ∈ body.declarations, decl.outline.PlacedIn region
  /-- The statements are placed in the region. -/
  statements : ∀ stmt ∈ body.statements, stmt.outline.PlacedIn region

/-- The parts of a program are placed in the region. -/
structure ProgramBody.PlacedIn (region : Region) (body : ProgramBody) : Prop where
  /-- The declarations are placed in the region. -/
  declarations : ∀ decl ∈ body.declarations, decl.outline.PlacedIn region
  /-- The statements are placed in the region. -/
  statements : ∀ stmt ∈ body.statements, stmt.outline.PlacedIn region

namespace Parse

variable {region : Region}

/-! ## Types and expressions -/

theorem writtenType_places (room : Nat) :
    Places region (writtenType room) fun written => written.outline.PlacedIn region := by
  induction room with
  | zero => exact .fail
  | succ room ih =>
      unfold writtenType
      refine .current fun token inside => ?_
      split
      · exact .skip .pass fun _ => .pure (by simpa using inside)
      · exact .skip .pass fun _ => .pure (by simpa using inside)
      · refine .skip .pass fun _ => ih.bind fun element placed => ?_
        exact .skip (expectSymbol_places _ _) fun _ => .span inside fun span whole =>
          .pure (by simpa using ⟨whole, placed⟩)
      · exact .fail

theorem typedVar_places (room : Nat) :
    Places region (typedVar room) fun var => var.outline.PlacedIn region :=
  (identifier_places _).bind fun name inside => .skip (expectSymbol_places _ _) fun _ =>
    (writtenType_places room).bind fun written placed => .span inside fun span whole =>
      .pure (by simpa [TypedVar.outline] using ⟨whole, inside, placed⟩)

theorem placed_of_atom {token : Token} {atom : Expr} (found : atom? token = some atom)
    (inside : region.has token.span) : atom.outline.PlacedIn region := by
  unfold atom? at found
  dsimp only at found
  split at found <;> cases found <;> simpa using inside

section Expressions

variable {expression : Parse Expr}
  (inner : Places region expression fun expr => expr.outline.PlacedIn region)
include inner

theorem primary_places :
    Places region (primary expression) fun expr => expr.outline.PlacedIn region := by
  unfold primary
  refine .current fun token inside => ?_
  split
  · next atom found => exact .skip .pass fun _ => .pure (placed_of_atom found inside)
  · split
    · exact .skip .pass fun _ => inner.bind fun expr placed =>
        .skip (expectSymbol_places _ _) fun _ => .pure placed
    · refine .skip .pass fun _ => (commaList_places _ inner).bind fun elements placed => ?_
      exact .skip (expectSymbol_places _ _) fun _ => .span inside fun span whole =>
        .pure (by simpa using ⟨whole, placed⟩)
    · exact .fail
    · exact .fail

theorem arguments_places :
    Places region (arguments expression) fun args => ∀ arg ∈ args, arg.outline.PlacedIn region :=
  (commaList_places _ inner).bind fun _ placed => .skip (expectSymbol_places _ _) fun _ =>
    .pure placed

variable {start : Span} (inside : region.has start)
include inside

theorem fieldOf_places {object : Expr} (placed : object.outline.PlacedIn region) :
    Places region (fieldOf expression start object) fun expr => expr.outline.PlacedIn region := by
  unfold fieldOf
  refine (identifier_places _).bind fun name named => .span inside fun access whole =>
    .skip (accept_places _) fun _ => .ite ?_ (.pure (by simpa using ⟨whole, placed, named⟩))
  exact (arguments_places inner).bind fun args each => .span inside fun span wider =>
    .pure (by simpa using ⟨wider, ⟨whole, placed, named⟩, each⟩)

theorem elementOf_places {container : Expr} (placed : container.outline.PlacedIn region) :
    Places region (elementOf expression start container)
      fun expr => expr.outline.PlacedIn region :=
  inner.bind fun _ position => .skip (expectSymbol_places _ _) fun _ =>
    .span inside fun span whole => .pure (by simpa using ⟨whole, placed, position⟩)

theorem callOf_places {paren : Span} (bracket : region.has paren) {callee : Expr}
    (placed : callee.outline.PlacedIn region) :
    Places region (callOf expression start paren callee)
      fun expr => expr.outline.PlacedIn region := by
  unfold callOf
  split
  · next function =>
      have named : region.has function.info.span := by simpa using placed
      exact (arguments_places inner).bind fun args each => .span inside fun span whole =>
        .pure (by simpa using ⟨whole, named, each⟩)
  · exact .throw bracket

end Expressions

section Operators

variable {expression : Precedence → Parse Expr}
  (inner : ∀ floor, Places region (expression floor) fun expr => expr.outline.PlacedIn region)
include inner

theorem operand_places (floor : Precedence) :
    Places region (operand expression floor) fun expr => expr.outline.PlacedIn region := by
  have unary {start : Span} (inside : region.has start) (sign : UnaryOperator)
      (floor : Precedence) : Places region
        (do
          modify Cursor.advance
          let inner ← expression floor
          return Expr.unary (.ofSpan (← look (Cursor.spanFrom start))) sign inner)
        fun expr : Expr => expr.outline.PlacedIn region :=
    .skip .pass fun _ => (inner floor).bind fun expr placed => .span inside fun span whole =>
      .pure (by simpa using ⟨whole, placed⟩)
  unfold operand
  refine .current fun token inside => ?_
  split
  · exact unary inside .neg _
  · exact .ite .fail (unary inside .not _)
  · exact primary_places (inner _)

variable {start : Span} (inside : region.has start)
include inside

theorem choiceOf_places {chosen : Expr} (placed : chosen.outline.PlacedIn region) :
    Places region (choiceOf expression start chosen) fun expr => expr.outline.PlacedIn region :=
  (inner _).bind fun _ condition => .skip (expect_places _ _) fun _ =>
    (inner _).bind fun _ alternative => .span inside fun span whole =>
      .pure (by simpa using ⟨whole, condition, placed, alternative⟩)

theorem operationOf_places (operator : BinaryOperator) {left : Expr}
    (placed : left.outline.PlacedIn region) :
    Places region (operationOf expression start operator left)
      fun expr => expr.outline.PlacedIn region := by
  unfold operationOf
  refine (inner _).bind fun right behind => .span inside fun span whole => ?_
  have whole : (Expr.binary (.ofSpan span) left operator right).outline.PlacedIn region := by
    simpa using ⟨whole, placed, behind⟩
  have chained : Places region (fail .chainedComparison) fun _ : Unit => True := .fail
  exact .ite (.look fun _ => .ite (.skip chained fun _ => .pure whole) (.pure whole)) (.pure whole)

theorem continuation_places {left : Expr} (placed : left.outline.PlacedIn region)
    (next : Continuation) :
    Places region (continuation expression start left next)
      fun expr => expr.outline.PlacedIn region := by
  unfold continuation
  refine advance_places.bind fun token here => ?_
  split
  · exact operationOf_places inner inside _ placed
  · exact choiceOf_places inner inside placed
  · exact fieldOf_places (inner _) inside placed
  · exact elementOf_places (inner _) inside placed
  · exact callOf_places (inner _) inside here placed

end Operators

theorem expressionAbove_places (room : Nat) :
    (∀ floor,
      Places region (expressionAbove room floor) fun expr => expr.outline.PlacedIn region) ∧
    ∀ floor start left, region.has start → left.outline.PlacedIn region →
      Places region (continued room floor start left)
        fun expr => expr.outline.PlacedIn region := by
  induction room with
  | zero =>
      refine ⟨fun floor => ?_, fun floor start left inside placed => ?_⟩
      · unfold expressionAbove
        exact .fail
      · unfold continued
        refine .look fun next => ?_
        split
        · exact .pure placed
        · exact .fail
  | succ room ih =>
      refine ⟨fun floor => ?_, fun floor start left inside placed => ?_⟩
      · unfold expressionAbove
        exact .start fun start inside => (operand_places ih.1 floor).bind fun left placed =>
          ih.2 floor start left inside placed
      · unfold continued
        refine .look fun next => ?_
        split
        · exact .pure placed
        · exact (continuation_places ih.1 inside placed _).bind fun longer placed =>
            ih.2 floor start longer inside placed

theorem expression_places (room : Nat) :
    Places region (expression room) fun expr => expr.outline.PlacedIn region :=
  (expressionAbove_places room).1 .lowest

/-! ## Statements -/

/-- The arm of a choice is placed in the region. -/
structure ArmPlacedIn (region : Region) (arm : Arm) : Prop where
  /-- The word that begins the arm is in the region. -/
  start : region.has arm.start
  /-- The condition is placed in the region. -/
  condition : arm.condition.outline.PlacedIn region
  /-- The statements are placed in the region. -/
  body : ∀ stmt ∈ arm.body, stmt.outline.PlacedIn region

/-- Where a chain of choices stops, all the choices are placed in the region. -/
theorem chain_placed {cursor : Cursor} (stands : cursor.PlacedIn region) {otherwise : List Stmt}
    (last : ∀ stmt ∈ otherwise, stmt.outline.PlacedIn region) {arms : List Arm}
    (each : ∀ arm ∈ arms, ArmPlacedIn region arm) :
    ∀ stmt ∈ Arm.chain cursor.spanFrom otherwise arms, stmt.outline.PlacedIn region := by
  induction arms with
  | nil => exact last
  | cons arm arms ih =>
      obtain ⟨first, others⟩ := List.forall_mem_cons.mp each
      rw [Arm.chain, List.forall_mem_singleton]
      simpa using ⟨stands.spanFrom first.start, first.condition, first.body, ih others⟩

section Statements

variable {expression : Parse Expr} {block : Parse (List Stmt)}
  (inner : Places region expression fun expr => expr.outline.PlacedIn region)
  (body : Places region block fun stmts => ∀ stmt ∈ stmts, stmt.outline.PlacedIn region)

theorem checkTargets_places {targets : List Expr}
    (placed : ∀ target ∈ targets, target.outline.PlacedIn region) :
    Places region (checkTargets targets) fun _ => True := by
  unfold checkTargets
  split
  · next target found =>
      exact .throw (Expr.has_span (placed target (List.mem_of_find?_eq_some found)))
  · exact .pure trivial

include inner in
theorem returnStatement_places :
    Places region (returnStatement expression) fun stmt => stmt.outline.PlacedIn region :=
  advance_places.bind fun start inside => .look fun _ => .ite
    (.span inside fun span whole => .pure (by simpa using whole))
    (inner.bind fun value placed => .span inside fun span whole =>
      .pure (by simpa using ⟨whole, placed⟩))

theorem statementOf_places {start : Span} (inside : region.has start) {first : Expr}
    {others : List Expr} (placed : first.outline.PlacedIn region)
    (each : ∀ other ∈ others, other.outline.PlacedIn region) :
    Places region (statementOf start first others) fun stmt => stmt.outline.PlacedIn region := by
  unfold statementOf
  split
  · exact .span inside fun span whole => .pure (by simpa using ⟨whole, placed⟩)
  · next value last =>
      have targets : ∀ target ∈ first :: others.dropLast, target.outline.PlacedIn region :=
        List.forall_mem_cons.mpr
          ⟨placed, fun target among => each target (List.dropLast_subset _ among)⟩
      have assigned := each value (List.mem_of_getLast? last)
      exact .skip (checkTargets_places targets) fun _ => .span inside fun span whole =>
        .pure (by simpa using ⟨whole, List.forall_mem_cons.mp targets, assigned⟩)

include inner in
theorem expressionStatement_places :
    Places region (expressionStatement expression) fun stmt => stmt.outline.PlacedIn region := by
  rw [expressionStatement_eq]
  exact .start fun start inside => inner.bind fun first placed =>
    (itemsAfter_places _ inner).bind fun rest each => statementOf_places inside placed each

include inner in
theorem simpleStatement_places : Places region (simpleStatement expression)
    fun read => ∀ stmt ∈ read, stmt.outline.PlacedIn region := by
  unfold simpleStatement
  refine .look fun kind => ?_
  split
  · exact .skip .pass fun _ => .pure (by simp)
  · exact (returnStatement_places inner).bind fun stmt placed => .pure (by simpa using placed)
  · exact (expressionStatement_places inner).bind fun stmt placed => .pure (by simpa using placed)

include inner body

theorem arm_places : Places region (arm expression block) (ArmPlacedIn region) :=
  advance_places.bind fun _ inside => inner.bind fun _ condition =>
    .skip (expectSymbol_places _ _) fun _ => body.bind fun _ stmts =>
      .pure ⟨inside, condition, stmts⟩

omit inner in
theorem alternative_places : Places region (alternative block)
    fun stmts => ∀ stmt ∈ stmts, stmt.outline.PlacedIn region :=
  .skip (accept_places _) fun _ => .ite (.skip (expectSymbol_places _ _) fun _ => body)
    (.pure (by simp))

theorem furtherArms_places (bound : Nat) : Places region (furtherArms expression block bound)
    fun read => (∀ arm ∈ read.1, ArmPlacedIn region arm) ∧
      ∀ stmt ∈ read.2, stmt.outline.PlacedIn region := by
  induction bound with
  | zero => exact .pure ⟨by simp, by simp⟩
  | succ bound ih =>
      refine .look fun _ => .ite ?_ ?_
      · exact (arm_places inner body).bind fun first placed => ih.bind fun rest others =>
          .pure ⟨List.forall_mem_cons.mpr ⟨placed, others.1⟩, others.2⟩
      · exact (alternative_places body).bind fun otherwise placed => .pure ⟨by simp, placed⟩

theorem ifStatement_places :
    Places region (ifStatement expression block) fun stmt => stmt.outline.PlacedIn region := by
  unfold ifStatement
  refine (arm_places inner body).bind fun first placed => .look fun bound => ?_
  refine (furtherArms_places inner body _).bind fun read others cursor stands => ?_
  have whole := chain_placed stands others.2 (List.forall_mem_cons.mpr ⟨placed, others.1⟩)
  exact ⟨whole _ (by simp [Arm.chain]), stands⟩

theorem whileStatement_places :
    Places region (whileStatement expression block) fun stmt => stmt.outline.PlacedIn region :=
  (arm_places inner body).bind fun loop placed => .span placed.start fun span whole =>
    .pure (by simpa using ⟨whole, placed.condition, placed.body⟩)

theorem forStatement_places :
    Places region (forStatement expression block) fun stmt => stmt.outline.PlacedIn region :=
  advance_places.bind fun start inside => (identifier_places _).bind fun _ named =>
    .skip (expect_places _ _) fun _ => inner.bind fun _ iterable =>
      .skip (expectSymbol_places _ _) fun _ => body.bind fun stmts placed =>
        .span inside fun span whole => .pure (by simpa using ⟨whole, named, iterable, placed⟩)

theorem statement_places : Places region (statement expression block)
    fun read => ∀ stmt ∈ read, stmt.outline.PlacedIn region := by
  unfold statement
  refine .look fun kind => ?_
  split
  · exact .fail
  · exact (ifStatement_places inner body).bind fun stmt placed => .pure (by simpa using placed)
  · exact (whileStatement_places inner body).bind fun stmt placed => .pure (by simpa using placed)
  · exact (forStatement_places inner body).bind fun stmt placed => .pure (by simpa using placed)
  · exact .look fun _ => .ite .fail ((simpleStatement_places inner).bind fun read placed =>
      .skip lineEnd_places fun _ => .pure placed)

end Statements

theorem openBody_places (wanted : Expectation) : Places region (openBody wanted) fun _ => True :=
  .skip (expect_places _ _) fun _ => .skip (expect_places _ _) fun _ => .pure trivial

theorem block_places (room : Nat) : Places region (block room)
    fun stmts => ∀ stmt ∈ stmts, stmt.outline.PlacedIn region := by
  induction room with
  | zero => exact .fail
  | succ room ih =>
      unfold block
      refine .skip (openBody_places _) fun _ => Places.bind (.ofRecovering (body_places
        (fun stmts placed => ?_) (by simp))) fun stmts placed =>
          .skip (accept_places _) fun _ => .pure placed
      refine recovering_places placed ((statement_places (expression_places room) ih).bind
        fun read others => .pure ?_)
      simpa [or_imp, forall_and] using ⟨placed, others⟩

/-! ## Declarations -/

theorem initializer_places :
    Places region initializer fun value => value.outline.PlacedIn region := by
  unfold initializer
  refine .current fun token inside => ?_
  split
  · next value found =>
      refine .skip .pass fun _ => .pure ?_
      split at found
      · exact placed_of_atom found inside
      · cases found
  · exact .fail

theorem variableDefinition_places (room : Nat) :
    Places region (variableDefinition room) fun decl => decl.outline.PlacedIn region :=
  .start fun _ inside => (typedVar_places room).bind fun var placed =>
    .skip (expectSymbol_places _ _) fun _ => initializer_places.bind fun value first =>
      .span inside fun span whole => .skip lineEnd_places fun _ =>
        .pure (by simpa using ⟨whole, placed, first⟩)

theorem outerVariable_places :
    Places region outerVariable fun decl => decl.outline.PlacedIn region := by
  unfold outerVariable
  refine advance_places.bind fun start inside => (identifier_places _).bind fun name named =>
    .span inside fun span whole => .skip lineEnd_places fun _ => .ite (.pure ?_) (.pure ?_) <;>
  simpa using ⟨whole, named⟩

theorem classHeader_places : Places region classHeader fun read => region.has read.1 ∧
    region.has read.2.1.info.span ∧ region.has read.2.2.info.span :=
  advance_places.bind fun _ inside => (identifier_places _).bind fun _ named =>
    .skip (expectSymbol_places _ _) fun _ => (identifier_places _).bind fun _ above =>
      .skip (expectSymbol_places _ _) fun _ => .skip (expectSymbol_places _ _) fun _ =>
        .skip (openBody_places _) fun _ => .pure ⟨inside, named, above⟩

theorem classMember_places {declaration : Parse (Option Decl)}
    (each : Places region declaration fun read => ∀ decl ∈ read, decl.outline.PlacedIn region) :
    Places region (classMember declaration)
      fun read => ∀ decl ∈ read, decl.outline.PlacedIn region :=
  .skip (accept_places _) fun _ => .ite (.skip lineEnd_places fun _ => .pure nofun)
    (.look fun _ => .ite each .fail)

theorem rejectNested_places {decl : Decl} (placed : decl.outline.PlacedIn region) :
    Places region (rejectNested decl) fun read => ∀ decl ∈ read, decl.outline.PlacedIn region :=
  .skip (.record (Decl.has_span placed)) fun _ => .pure nofun

theorem appended_placed {decls : List Decl} {read : Option Decl}
    (placed : ∀ decl ∈ decls, decl.outline.PlacedIn region)
    (new : ∀ decl ∈ read, decl.outline.PlacedIn region) :
    ∀ decl ∈ decls ++ read.toList, decl.outline.PlacedIn region := by
  simpa [or_imp, forall_and] using ⟨placed, new⟩

section Declarations

variable {function : Parse Decl}
  (inner : Places region function fun decl => decl.outline.PlacedIn region)
include inner

theorem memberReader_places {room : Nat} (bound : Nat)
    (nested : Places region (classDefinition room function bound)
      fun decl => decl.outline.PlacedIn region) :
    Places region (memberReader room function bound)
      fun read => ∀ decl ∈ read, decl.outline.PlacedIn region := by
  unfold memberReader
  refine .look fun kind => ?_
  split
  · exact inner.bind fun decl placed => .pure (by simpa using placed)
  · exact nested.bind fun decl placed => rejectNested_places placed
  · exact (variableDefinition_places room).bind fun decl placed => .pure (by simpa using placed)

theorem classDefinition_places {room : Nat} (bound : Nat) :
    Places region (classDefinition room function bound)
      fun decl => decl.outline.PlacedIn region := by
  induction bound with
  | zero => exact .fail
  | succ bound ih =>
      rw [classDefinition_succ]
      have all : Recovering.Places region (body (classStep (memberReader room function bound)) [])
          fun members => ∀ decl ∈ members, decl.outline.PlacedIn region :=
        body_places (fun members placed => recovering_places placed
          ((classMember_places (memberReader_places inner bound ih)).bind
            fun read new => .pure (appended_placed placed new))) nofun
      exact classHeader_places.bind fun header inside => (Places.ofRecovering all).bind
        fun members placed => .skip (accept_places _) fun _ => .span inside.1 fun span whole =>
          .pure (by simpa using ⟨whole, inside.2.1, inside.2.2, placed⟩)

theorem classDeclaration_places (room : Nat) :
    Places region (classDeclaration room function) fun decl => decl.outline.PlacedIn region :=
  .look fun _ => classDefinition_places inner _

theorem innerDeclaration_places (room : Nat) :
    Places region (innerDeclaration room function)
      fun read => ∀ decl ∈ read, decl.outline.PlacedIn region := by
  unfold innerDeclaration
  refine .look fun kind => ?_
  split
  · exact inner.bind fun decl placed => .pure (by simpa using placed)
  · exact (classDeclaration_places inner room).bind fun decl placed => rejectNested_places placed
  · exact (variableDefinition_places room).bind fun decl placed => .pure (by simpa using placed)

end Declarations

/-! ## Functions -/

theorem resultType_places (room : Nat) {paren : Span} (inside : region.has paren) :
    Places region (resultType room paren) fun written => written.outline.PlacedIn region :=
  .skip (accept_places _) fun _ => .ite (writtenType_places room) (.pure (by simpa using inside))

theorem functionHeading_places (room : Nat) : Places region (functionHeading room)
    fun heading => Outline.AllIn region.Holds heading.outlines := by
  unfold functionHeading
  refine (identifier_places _).bind fun name named => .skip (expectSymbol_places _ _) fun _ =>
    (commaList_places _ (typedVar_places room)).bind fun params each =>
      (expect_places _ _).bind fun paren inside =>
        (resultType_places room inside).bind fun returns result =>
          .skip (expectSymbol_places _ _) fun _ => .skip (openBody_places _) fun _ => .pure ?_
  have first : name.outline.PlacedIn region := name.placedIn_iff.mpr named
  rw [Outline.allIn_iff]
  simp only [FunctionHeading.outlines, List.forall_mem_cons, List.forall_mem_append,
    List.forall_mem_map]
  exact ⟨first, each, result, nofun⟩

theorem take_places {body : FunctionBody} (placed : body.PlacedIn region) (read : Option Decl)
    (new : ∀ decl ∈ read, decl.outline.PlacedIn region) :
    Places region (body.take read) (FunctionBody.PlacedIn region) := by
  cases read with
  | none => exact .pure placed
  | some decl =>
      refine .ite (.skip (.record (Decl.has_span (new decl rfl))) fun _ => .pure placed)
        (.pure ⟨?_, placed.statements⟩)
      exact appended_placed placed.declarations new

theorem functionDeclaration_places {inner : Parse (Option Decl)}
    (each : Places region inner fun read => ∀ decl ∈ read, decl.outline.PlacedIn region) :
    Places region (functionDeclaration inner)
      fun read => ∀ decl ∈ read, decl.outline.PlacedIn region := by
  unfold functionDeclaration
  refine .look fun kind => ?_
  split
  · exact outerVariable_places.bind fun decl placed => .pure (by simpa using placed)
  · exact outerVariable_places.bind fun decl placed => .pure (by simpa using placed)
  · exact each

theorem functionStep_places {inner : Parse (Option Decl)} {reader : Parse (Option Stmt)}
    (decls : Places region inner fun read => ∀ decl ∈ read, decl.outline.PlacedIn region)
    (stmts : Places region reader fun read => ∀ stmt ∈ read, stmt.outline.PlacedIn region)
    {body : FunctionBody} (placed : body.PlacedIn region) :
    Recovering.Places region (functionStep inner reader body) (FunctionBody.PlacedIn region) := by
  intro cursor
  rw [functionStep_apply]
  split
  · exact recovering_places placed ((functionDeclaration_places decls).bind fun read new =>
      take_places placed read new) cursor
  · refine recovering_places ⟨placed.declarations, placed.statements⟩ (stmts.bind fun read new =>
      .pure ⟨placed.declarations, ?_⟩) cursor
    simpa [or_imp, forall_and] using ⟨placed.statements, new⟩

theorem functionDefinition_places (room : Nat) :
    Places region (functionDefinition room) fun decl => decl.outline.PlacedIn region := by
  induction room with
  | zero => exact .fail
  | succ room ih =>
      unfold functionDefinition
      have whole : Recovering.Places region
          (body (functionStep (innerDeclaration room (functionDefinition room))
            (statement (expression room) (block room))) {})
          (FunctionBody.PlacedIn region) :=
        body_places (fun _ placed => functionStep_places (innerDeclaration_places ih room)
          (statement_places (expression_places room) (block_places room)) placed) ⟨nofun, nofun⟩
      refine advance_places.bind fun start inside => (functionHeading_places room).bind
        fun heading head => .look fun before => (Places.ofRecovering whole).bind fun read placed =>
          .skip (accept_places _) fun _ => .look fun recovered => ?_
      have ending : Places region
          (do
            let span ← look (Cursor.spanFrom start.span)
            return Decl.funcDef (.ofSpan span) heading read.declarations read.statements recovered)
          fun decl => decl.outline.PlacedIn region :=
        .span inside fun span whole => .pure (by
          simpa using ⟨whole, head, placed.declarations, placed.statements⟩)
      have named : region.has heading.name.info.span := by
        rw [FunctionHeading.outlines, Outline.allIn_cons] at head
        exact heading.name.placedIn_iff.mp head.1
      exact .ite ending (.skip (.record named) fun _ => ending)

/-! ## Programs -/

theorem topDeclaration_places :
    Places region topDeclaration fun decl => decl.outline.PlacedIn region := by
  unfold topDeclaration
  refine .look fun kind => ?_
  split
  · exact functionDefinition_places _
  · exact classDeclaration_places (functionDefinition_places _) _
  · exact variableDefinition_places _

theorem declareIn_places {body : ProgramBody} (placed : body.PlacedIn region) {decl : Decl}
    (new : decl.outline.PlacedIn region) :
    Places region (declareIn body decl) (ProgramBody.PlacedIn region) := by
  refine .ite (.pure ⟨?_, placed.statements⟩)
    (.skip (.record (Decl.has_span new)) fun _ => .pure placed)
  simpa [or_imp, forall_and] using ⟨placed.declarations, new⟩

theorem programStep_places {body : ProgramBody} (placed : body.PlacedIn region) :
    Recovering.Places region (programStep body) (ProgramBody.PlacedIn region) := by
  intro cursor
  rw [programStep_apply]
  split
  · exact fun stands => ⟨placed, stands.advance⟩
  split
  · exact recovering_places placed (topDeclaration_places.bind fun decl new =>
      declareIn_places placed new) cursor
  · refine recovering_places placed ?_ cursor
    refine (statement_places (expression_places _) (block_places _)).bind fun read new =>
      .pure ⟨placed.declarations, ?_⟩
    simpa [or_imp, forall_and] using ⟨placed.statements, new⟩

theorem programBody_places :
    Recovering.Places region programBody (ProgramBody.PlacedIn region) := by
  have start : ProgramBody.PlacedIn region {} := ⟨nofun, nofun⟩
  exact fun cursor => repeatUntil_places (fun _ placed => programStep_places placed)
    cursor.ahead.length start cursor

end Parse
end ChocoLang
