import ChocoLang.Proofs.Parsing.Passing

/-!
# What readers of statements and declarations pass

A statement or declaration is read with its block: unless the file ends first, its reader passes
whole blocks, whether it returns something or fails, and so does recovery.  So no reader stops in a
block that began behind it, or goes on behind the end of the block around it.
-/

namespace ChocoLang

namespace PassesBlocks

variable {newline indent dedent : Token} {inner rest : List Token}

/-- A block may be passed with the end of the line before it. -/
theorem block (line : newline.kind = .newline) (opens : indent.kind = .indent)
    (closes : dedent.kind = .dedent) (passed : PassesBlocks inner (dedent :: rest)) :
    PassesBlocks (newline :: indent :: inner) rest := by
  obtain ⟨passed, depth, rfl, nested, rfl | none⟩ := passed
  · refine ⟨newline :: indent :: passed ++ [dedent], 0, by simp, ?_, .inl rfl⟩
    have balanced : Balanced (passed.map Token.kind) := nested
    have whole := balanced.block.cons (show TokenKind.newline.isLevel = true from rfl)
    simpa [line, opens, closes, Balanced] using whole
  · cases none

/-- A block may be passed up to the end of the file. -/
theorem open_block (line : newline.kind = .newline) (opens : indent.kind = .indent)
    (passed : PassesBlocks inner []) : PassesBlocks (newline :: indent :: inner) [] := by
  obtain ⟨passed, depth, rfl, nested, -⟩ := passed
  refine ⟨newline :: indent :: passed, depth + 1, by simp, ?_, .inr rfl⟩
  simp only [List.map_cons, line, opens]
  rw [nesting_of_isLevel rfl, nesting_indent]
  exact nesting_add nested 1

end PassesBlocks

namespace Parse

variable {α β σ : Type} {passes : List Token → List Token → Prop}

/-! ## Statements -/

theorem passes_level {cursor : Cursor} (level : cursor.kind.isLevel = true) :
    PassesBlocks cursor.ahead cursor.advance.ahead := by
  rw [Cursor.ahead_advance]
  unfold Cursor.kind at level
  cases shape : cursor.ahead with
  | nil => exact Passing.refl []
  | cons token rest =>
      rw [shape] at level
      exact .level level rest

instance : Passes PassesBlocks lineEnd := by
  have newline : Passes PassesBlocks (accept .newline) :=
    accept_passes fun _ stands => passes_level (stands ▸ rfl)
  unfold lineEnd; infer_instance

section SimpleStatements

variable [Passing passes] (expression : Parse Expr) [Forward expression] [Passes passes expression]

instance : PassesFrom passes (returnStatement expression) := by
  unfold returnStatement; infer_instance

instance (targets : List Expr) : Passes passes (checkTargets targets) := by
  unfold checkTargets
  split <;> infer_instance

instance (start : Span) (first : Expr) (others : List Expr) :
    Passes passes (statementOf start first others) := by
  unfold statementOf
  split <;> infer_instance

instance : Passes passes (expressionStatement expression) := by
  rw [expressionStatement_eq]; infer_instance

instance : Passes passes (simpleStatement expression) where
  passed cursor closed := by
    unfold simpleStatement
    rw [stop_look]
    split
    · next kind => exact PassesFrom.passed cursor closed (by rw [kind]; rfl)
    · next kind => exact PassesFrom.passed cursor closed (by rw [kind]; rfl)
    · exact Passes.passed cursor closed

end SimpleStatements

section Statements

variable (expression : Parse Expr) (block : Parse (List Stmt)) [Forward expression] [Forward block]
  [Passes PassesBlocks expression] [Passes PassesBlocks block]

instance : PassesFrom PassesBlocks (arm expression block) := by unfold arm; infer_instance

instance : Passes PassesBlocks (alternative block) := by unfold alternative; infer_instance

instance (bound : Nat) : Passes PassesBlocks (furtherArms expression block bound) := by
  induction bound with
  | zero => unfold furtherArms; infer_instance
  | succ bound ih =>
      refine ⟨fun cursor closed => ?_⟩
      unfold furtherArms check
      rw [stop_look]
      split
      · next stands =>
          exact PassesFrom.passed cursor closed (by rw [beq_iff_eq.mp stands]; rfl)
      · exact Passes.passed cursor closed

instance : PassesFrom PassesBlocks (ifStatement expression block) := by
  unfold ifStatement; infer_instance

instance : PassesFrom PassesBlocks (whileStatement expression block) := by
  unfold whileStatement; infer_instance

instance : PassesFrom PassesBlocks (forStatement expression block) := by
  unfold forStatement; infer_instance

instance : Passes PassesBlocks (statement expression block) where
  passed cursor closed := by
    unfold statement
    rw [stop_look]
    split
    · exact Passing.refl _
    · next kind => exact PassesFrom.passed cursor closed (by rw [kind]; rfl)
    · next kind => exact PassesFrom.passed cursor closed (by rw [kind]; rfl)
    · next kind => exact PassesFrom.passed cursor closed (by rw [kind]; rfl)
    · exact Passes.passed cursor closed

end Statements

/-! ## Bodies -/

/-- Recovery skips whole blocks. -/
theorem passes_recover {start : Nat} {cursor : Cursor} (reached : start ≤ cursor.position)
    (problem : Located SyntaxError) :
    PassesBlocks cursor.ahead (cursor.recover start problem).ahead := by
  rw [Cursor.recover_eq reached, Cursor.ahead_advanceBy]
  obtain ⟨depth, nested, ends⟩ := Cursor.nesting_take_skipLength 0 cursor.ahead
  refine ⟨_, depth, (List.take_append_drop _ _).symm, nested, ends.imp_right fun whole => ?_⟩
  exact List.drop_eq_nil_of_le (Nat.le_of_eq whole.symm)

instance (fallback : α) (reader : Parse α) [Forward reader] [Passes PassesBlocks reader] :
    Recovering.Passes PassesBlocks (recovering fallback reader) where
  passed cursor closed := by
    have first : PassesBlocks cursor.ahead (reader.stop cursor).ahead := Passes.passed cursor closed
    cases read : reader cursor with
    | ok value after =>
        rw [stop_of_ok read] at first
        simpa only [recovering, EStateM.run, read] using first
    | error problem after =>
        rw [stop_of_error read] at first
        have skipped := passes_recover (onward_of_error read).position_le problem
        simpa only [recovering, EStateM.run, read] using Passing.trans first skipped

instance [Passing passes] (halt : Cursor → Bool) (step : σ → Recovering σ)
    [∀ state, Recovering.Forward (step state)] [∀ state, Recovering.Passes passes (step state)]
    (bound : Nat) (state : σ) : Recovering.Passes passes (repeatUntil halt step bound state) where
  passed cursor closed := by
    induction bound generalizing state cursor with
    | zero => exact Passing.refl _
    | succ bound ih =>
        cases goesOn : halt cursor with
        | true =>
            rw [repeatUntil_of_halt goesOn]
            exact Passing.refl _
        | false =>
            have moved := Recovering.onward_snd (step state) cursor
            rw [repeatUntil_of_goesOn goesOn]
            exact Passing.trans (Recovering.Passes.passed cursor closed)
              (ih _ _ (moved.closed closed))

instance [Passing passes] (step : σ → Recovering σ) [∀ state, Recovering.Forward (step state)]
    [∀ state, Recovering.Passes passes (step state)] (state : σ) :
    Recovering.Passes passes (body step state) where
  passed cursor closed := by
    have loop (bound : Nat) :
        Recovering.Passes passes (repeatUntil Cursor.atBodyEnd step bound state) := inferInstance
    exact (loop cursor.ahead.length).passed cursor closed

/-- Reads an indented body up to its end. -/
def enclosed (wanted : Expectation) (inner : Recovering α) : Parse α := do
  openBody wanted
  let read ← ofRecovering inner
  let _ ← accept .dedent
  return read

/-- Moves past the end of a block if it stands at the cursor. -/
def closeBody (cursor : Cursor) : Cursor := if cursor.kind = .dedent then cursor.advance else cursor

theorem accept_dedent (cursor : Cursor) :
    accept .dedent cursor = .ok (decide (cursor.kind = .dedent)) (closeBody cursor) := by
  unfold closeBody
  split
  · next stands => simpa only [stands, decide_true] using accept_of_kind stands
  · next other => simpa only [other, decide_false] using accept_of_ne other

theorem openBody_of_kind {cursor : Cursor} (newline : cursor.kind = .newline)
    (indent : cursor.advance.kind = .indent) (wanted : Expectation) :
    openBody wanted cursor = .ok () cursor.advance.advance := by
  rw [openBody, bind_of_ok (expect_of_kind newline _), bind_of_ok (expect_of_kind indent _)]
  rfl

theorem openBody_of_line {cursor : Cursor} (newline : cursor.kind = .newline)
    (other : cursor.advance.kind ≠ .indent) (wanted : Expectation) :
    openBody wanted cursor =
      .error ⟨.missing wanted cursor.advance.current, cursor.advance.current.span⟩
        cursor.advance := by
  rw [openBody, bind_of_ok (expect_of_kind newline _), bind_of_error (expect_of_ne other _)]

theorem openBody_of_ne {cursor : Cursor} (other : cursor.kind ≠ .newline) (wanted : Expectation) :
    openBody wanted cursor =
      .error ⟨.missing .newlineAfterColon cursor.current, cursor.current.span⟩ cursor := by
  rw [openBody, bind_of_error (expect_of_ne other _)]

theorem enclosed_of_ok {wanted : Expectation} {cursor after : Cursor}
    (opened : openBody wanted cursor = .ok () after) (inner : Recovering α) :
    enclosed wanted inner cursor = .ok (inner after).1 (closeBody (inner after).2) := by
  rw [enclosed, bind_of_ok opened, bind_of_ok (ofRecovering_apply inner after),
    bind_of_ok (accept_dedent _)]
  rfl

theorem enclosed_of_error {wanted : Expectation} {cursor after : Cursor}
    {problem : Located SyntaxError} (failed : openBody wanted cursor = .error problem after)
    (inner : Recovering α) : enclosed wanted inner cursor = .error problem after :=
  bind_of_error failed

/-- An indented body is read as a whole. -/
theorem passes_enclosed {inner : Recovering α} [Recovering.Forward inner]
    [Recovering.Passes PassesBlocks inner]
    (ends : ∀ cursor : Cursor, cursor.Closed → (inner cursor).2.atBodyEnd = true)
    (wanted : Expectation) : Passes PassesBlocks (enclosed wanted inner) where
  passed cursor closed := by
    by_cases newline : cursor.kind = .newline
    · obtain ⟨line, tokens, ahead, stands⟩ := Cursor.ahead_of_kind newline (by simp)
      have later : cursor.advance.ahead = tokens := by simp [ahead]
      by_cases indent : cursor.advance.kind = .indent
      · obtain ⟨opening, inside, ahead', stands'⟩ := Cursor.ahead_of_kind indent (by simp)
        obtain rfl : opening :: inside = tokens := ahead'.symm.trans later
        let start := cursor.advance.advance
        have within : start.ahead = inside := by simp [start, ahead]
        have moved : cursor.Onward start := (Cursor.Onward.advance _).trans (Cursor.Onward.advance _)
        have read : PassesBlocks inside (inner start).2.ahead :=
          within ▸ Recovering.Passes.passed start (moved.closed closed)
        have ended := ends start (moved.closed closed)
        rw [stop_of_ok (enclosed_of_ok (openBody_of_kind newline indent wanted) inner), ahead]
        change PassesBlocks _ (closeBody (inner start).2).ahead
        generalize (inner start).2 = after at read ended
        unfold closeBody
        split
        · next closes =>
            obtain ⟨closing, rest, shape, stands''⟩ := Cursor.ahead_of_kind closes (by simp)
            rw [Cursor.ahead_advance, shape, List.tail_cons]
            exact .block stands stands' stands'' (shape ▸ read)
        · next opens =>
            have none : after.ahead = [] := by
              simpa [Cursor.atBodyEnd, Cursor.atEnd, opens] using ended
            rw [none] at read ⊢
            exact .open_block stands stands' read
      · rw [stop_of_error (enclosed_of_error (openBody_of_line newline indent wanted) inner)]
        exact passes_level (by rw [newline]; rfl)
    · rw [stop_of_error (enclosed_of_error (openBody_of_ne newline wanted) inner)]
      exact Passing.refl _

instance (wanted : Expectation) (inner : Recovering α) [Recovering.Forward inner] :
    Forward (enclosed wanted inner) := by
  unfold enclosed; infer_instance

/-! ## Blocks -/

theorem block_succ (room : Nat) :
    block (room + 1) =
      enclosed .block (body (blockStep (statement (expression room) (block room))) []) := rfl

/-- A block is read up to its end. -/
theorem atBodyEnd_blockBody (room : Nat) {cursor : Cursor} (closed : cursor.Closed) :
    (body (blockStep (statement (expression room) (block room))) [] cursor).2.atBodyEnd = true :=
  atBodyEnd_body (fun statements _ closed more =>
    blockStep_shortens more (statement_opens (expression_opens closed room)) statements) [] closed

instance (reader : Parse (Option Stmt)) [Forward reader] [Passes PassesBlocks reader]
    (statements : List Stmt) : Recovering.Passes PassesBlocks (blockStep reader statements) := by
  unfold blockStep; infer_instance

instance (room : Nat) : Passes PassesBlocks (block room) := by
  induction room with
  | zero => unfold block; infer_instance
  | succ room ih =>
      rw [block_succ]
      exact passes_enclosed (fun _ closed => atBodyEnd_blockBody room closed) .block

/-! ## Declarations -/

instance [Passing passes] : Passes passes initializer where
  passed cursor closed := by
    unfold initializer
    rw [stop_look]
    split
    · next value found =>
        refine passesFrom_current closed ?_
        split at found
        · exact isLayout_of_atom found
        · cases found
    · exact Passing.refl _

instance (room : Nat) : Passes PassesBlocks (variableDefinition room) := by
  unfold variableDefinition; infer_instance

instance : PassesFrom PassesBlocks outerVariable := by unfold outerVariable; infer_instance

/-! ### Classes -/

/-- Reads a class up to the end of the line: its first word, its name and its superclass. -/
def classSignature : Parse (Span × Identifier × Identifier) := do
  let start ← advance
  let name ← identifier .className
  expectSymbol .leftParen .openSuperclass
  let superclass ← identifier .superclassName
  expectSymbol .rightParen .closeSuperclass
  expectSymbol .colon .colonAfterClass
  return (start.span, name, superclass)

instance : Forward classSignature := by unfold classSignature; infer_instance

instance [Passing passes] : PassesFrom passes classSignature := by
  unfold classSignature; infer_instance

instance (decl : Decl) [Passing passes] : Passes passes (rejectNested decl) := by
  unfold rejectNested; infer_instance

instance (declaration : Parse (Option Decl)) [Forward declaration]
    [Passes PassesBlocks declaration] : Passes PassesBlocks (classMember declaration) := by
  unfold classMember; infer_instance

instance (declaration : Parse (Option Decl)) [Forward declaration]
    [Passes PassesBlocks declaration] (members : List Decl) :
    Recovering.Passes PassesBlocks (classStep declaration members) := by
  unfold classStep; infer_instance

/-- The body of a class is enclosed in its definition. -/
theorem classDefinition_enclosed (room : Nat) (function : Parse Decl) (bound : Nat) :
    classDefinition room function (bound + 1) = (do
      let (start, name, superclass) ← classSignature
      let members ← enclosed .classBody (body (classStep (memberReader room function bound)) [])
      return .classDef (.ofSpan (← look (Cursor.spanFrom start))) name superclass members) := by
  rw [classDefinition_succ, classHeader, classSignature, enclosed]
  simp only [bind_assoc, pure_bind]

section Classes

variable (room : Nat) {function : Parse Decl} [Forward function]

theorem memberReader_passes [PassesFrom PassesBlocks function] (bound : Nat)
    (nested : PassesFrom PassesBlocks (classDefinition room function bound)) :
    Passes PassesBlocks (memberReader room function bound) where
  passed cursor closed := by
    unfold memberReader
    rw [stop_look]
    split
    · next kind => exact PassesFrom.passed cursor closed (by rw [kind]; rfl)
    · next kind => exact PassesFrom.passed cursor closed (by rw [kind]; rfl)
    · exact Passes.passed cursor closed

/-- A class is read up to its end. -/
theorem atBodyEnd_classBody
    (opens : ∀ cursor : Cursor, cursor.kind = .keyword .kwDef → Opens function cursor) (bound : Nat)
    {cursor : Cursor} (closed : cursor.Closed) :
    (body (classStep (memberReader room function bound)) [] cursor).2.atBodyEnd = true :=
  atBodyEnd_body (fun members cursor _ more =>
    classStep_shortens more (memberReader_opens room (opens cursor) bound) members) [] closed

variable [PassesFrom PassesBlocks function]
  (opens : ∀ cursor : Cursor, cursor.kind = .keyword .kwDef → Opens function cursor)
include opens

theorem classDefinition_passes (bound : Nat) :
    PassesFrom PassesBlocks (classDefinition room function bound) := by
  induction bound with
  | zero => unfold classDefinition; infer_instance
  | succ bound ih =>
      have member := memberReader_passes room bound ih
      have members : Passes PassesBlocks
          (enclosed .classBody (body (classStep (memberReader room function bound)) [])) :=
        passes_enclosed (fun _ closed => atBodyEnd_classBody room opens bound closed) _
      rw [classDefinition_enclosed]
      infer_instance

theorem innerDeclaration_passes : Passes PassesBlocks (innerDeclaration room function) where
  passed cursor closed := by
    have nested := classDefinition_passes room opens
    unfold innerDeclaration
    rw [stop_look]
    split
    · next kind => exact PassesFrom.passed cursor closed (by rw [kind]; rfl)
    · next kind =>
        unfold classDeclaration
        rw [bind_assoc, stop_look]
        exact PassesFrom.passed cursor closed (by rw [kind]; rfl)
    · exact Passes.passed cursor closed

end Classes

/-! ### Functions -/

/-- Reads a function from its name up to the end of the line. -/
def functionSignature (room : Nat) : Parse FunctionHeading := do
  let name ← identifier .functionName
  expectSymbol .leftParen .openParameters
  let params ← commaList .rightParen (typedVar room)
  let paren ← expect (.symbol .rightParen) .closeParameters
  let returns ← resultType room paren.span
  expectSymbol .colon .colonAfterSignature
  return { name, params, returns }

instance (trail : Trail) (room : Nat) : Follows trail (functionSignature room) := by
  unfold functionSignature; infer_instance

instance [Passing passes] (room : Nat) : Passes passes (functionSignature room) := by
  unfold functionSignature; infer_instance

/-- What a function has in its body, from the end of the line of its signature on. -/
def functionBody (room : Nat) : Parse FunctionBody :=
  enclosed .functionBody (body (functionStep (innerDeclaration room (functionDefinition room))
    (statement (expression room) (block room))) {})

/-- The function that a signature and a body make up, behind the end of the body. -/
def functionOf (start : Span) (heading : FunctionHeading) (before : Nat) (read : FunctionBody) :
    Parse Decl := do
  let recovered ← look fun cursor => decide (before < cursor.problems.length)
  unless read.hasStatement || recovered do
    record (.emptyFunction heading.name.name) heading.name.info.span
  let span ← look (Cursor.spanFrom start)
  return .funcDef (.ofSpan span) heading read.declarations read.statements recovered

/-- Where a body opens, nothing is recorded. -/
theorem openBody_look {next : Nat → Parse α} (wanted : Expectation) :
    (do openBody wanted; let before ← look (·.problems.length); next before) =
      (do let before ← look (·.problems.length); openBody wanted; next before) := by
  funext cursor
  rw [look_bind]
  by_cases newline : cursor.kind = .newline
  · by_cases indent : cursor.advance.kind = .indent
    · rw [bind_of_ok (openBody_of_kind newline indent wanted),
        bind_of_ok (openBody_of_kind newline indent wanted), look_bind]
      simp
    · rw [bind_of_error (openBody_of_line newline indent wanted),
        bind_of_error (openBody_of_line newline indent wanted)]
  · rw [bind_of_error (openBody_of_ne newline wanted), bind_of_error (openBody_of_ne newline wanted)]

/-- The body of a function is enclosed in its definition. -/
theorem functionDefinition_enclosed (room : Nat) :
    functionDefinition (room + 1) = (do
      let start ← advance
      let heading ← functionSignature room
      let before ← look (·.problems.length)
      let read ← functionBody room
      functionOf start.span heading before read) := by
  rw [functionDefinition, functionBody, enclosed]
  simp only [functionHeading, functionSignature, functionOf, bind_assoc, pure_bind]
  simp only [openBody_look]

instance (inner : Parse (Option Decl)) [Forward inner] [Passes PassesBlocks inner] :
    Passes PassesBlocks (functionDeclaration inner) where
  passed cursor closed := by
    unfold functionDeclaration
    rw [stop_look]
    split
    · next kind => exact PassesFrom.passed cursor closed (by rw [kind]; rfl)
    · next kind => exact PassesFrom.passed cursor closed (by rw [kind]; rfl)
    · exact Passes.passed cursor closed

instance [Passing passes] (body : FunctionBody) (read : Option Decl) :
    Passes passes (body.take read) := by
  unfold FunctionBody.take FunctionBody.declare
  split <;> infer_instance

instance (inner : Parse (Option Decl)) (reader : Parse (Option Stmt)) [Forward inner]
    [Forward reader] [Passes PassesBlocks inner] [Passes PassesBlocks reader]
    (body : FunctionBody) : Recovering.Passes PassesBlocks (functionStep inner reader body) where
  passed cursor closed := by
    rw [functionStep_apply]
    split
    · have declared : Recovering.Passes PassesBlocks
          (recovering body (do body.take (← functionDeclaration inner))) := inferInstance
      exact declared.passed cursor closed
    · have stated : Recovering.Passes PassesBlocks
          (recovering { body with hasStatement := true } (do
            let read ← reader
            return { body with
              hasStatement := true
              statements := body.statements ++ read.toList })) := inferInstance
      exact stated.passed cursor closed

instance [Passing passes] (start : Span) (heading : FunctionHeading) (before : Nat)
    (read : FunctionBody) : Passes passes (functionOf start heading before read) := by
  unfold functionOf; infer_instance

instance (start : Span) (heading : FunctionHeading) (before : Nat) (read : FunctionBody) :
    Forward (functionOf start heading before read) := by
  unfold functionOf; infer_instance

instance (room : Nat) : Forward (functionBody room) := by unfold functionBody; infer_instance

/-- The body of a function is read up to its end. -/
theorem atBodyEnd_functionBody (room : Nat) {cursor : Cursor} (closed : cursor.Closed) :
    (body (functionStep (innerDeclaration room (functionDefinition room))
      (statement (expression room) (block room))) {} cursor).2.atBodyEnd = true :=
  atBodyEnd_body (fun read _ closed more => functionStep_shortens more
    (innerDeclaration_opens room (functionDefinition_opens room))
    (statement_opens (expression_opens closed room)) read) {} closed

theorem functionBody_passes (room : Nat)
    (inner : Passes PassesBlocks (innerDeclaration room (functionDefinition room))) :
    Passes PassesBlocks (functionBody room) :=
  passes_enclosed (fun _ closed => atBodyEnd_functionBody room closed) _

instance (room : Nat) : PassesFrom PassesBlocks (functionDefinition room) := by
  induction room with
  | zero => unfold functionDefinition; infer_instance
  | succ room ih =>
      have body := functionBody_passes room
        (innerDeclaration_passes room fun _ => functionDefinition_opens room)
      rw [functionDefinition_enclosed]
      infer_instance

instance (room : Nat) : Passes PassesBlocks (functionBody room) :=
  functionBody_passes room (innerDeclaration_passes room fun _ => functionDefinition_opens room)

end Parse
end ChocoLang
