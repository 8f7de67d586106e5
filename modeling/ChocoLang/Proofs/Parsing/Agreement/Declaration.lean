import ChocoLang.Proofs.Parsing.Agreement.Expression

/-!
# Two runs of readers of statements and declarations

Two runs that stand at the same place skip the same in recovery, and take the same steps in a body.
They read the same declarations, and know alike whether something in the body of a function was
reported.
-/

namespace ChocoLang
namespace Parse

variable {α β σ : Type}

/-! ## Recovery -/

instance (reader : Recovering α) [Recovering.Agrees reader] : Agrees (ofRecovering reader) where
  agrees fork one other alike within := by
    obtain ⟨value, after⟩ := Recovering.Agrees.agrees alike within
    rw [ofRecovering_apply, ofRecovering_apply, value]
    exact .ok after

theorem recovering_of_ok {fallback : α} {reader : Parse α} {cursor after : Cursor} {value : α}
    (ok : reader cursor = .ok value after) : recovering fallback reader cursor = (value, after) := by
  simp only [recovering, EStateM.run, ok]

theorem recovering_of_error {fallback : α} {reader : Parse α} {cursor after : Cursor}
    {problem : Located SyntaxError} (failed : reader cursor = .error problem after) :
    recovering fallback reader cursor = (fallback, after.recover cursor.position problem) := by
  simp only [recovering, EStateM.run, failed]

instance (fallback : α) (reader : Parse α) [Forward reader] [agrees : Agrees reader] :
    Recovering.Agrees (recovering fallback reader) where
  agrees {fork one other} alike within := by
    cases read : reader one with
    | ok value after =>
        rw [recovering_of_ok read] at within ⊢
        have agree := agrees.agrees fork alike (by rwa [stop_of_ok read])
        rw [read] at agree
        generalize shape : reader other = result at agree
        cases agree with
        | ok alike =>
            rw [recovering_of_ok shape]
            exact ⟨rfl, alike⟩
    | error problem after =>
        rw [recovering_of_error read] at within ⊢
        have reached := (onward_of_error read).position_le
        have agree := agrees.agrees fork alike (by
          rw [stop_of_error read]
          exact within.trans (Cursor.Onward.recover _ problem after).ahead)
        rw [read] at agree
        generalize shape : reader other = result at agree
        cases agree with
        | error alike =>
            rw [recovering_of_error shape]
            exact ⟨rfl, alike.recover reached (onward_of_error shape).position_le problem within⟩

instance (halt : Cursor → Bool) [Cursor.Shared halt] (step : σ → Recovering σ)
    [∀ state, Recovering.Forward (step state)] [∀ state, Recovering.Agrees (step state)]
    (bound : Nat) (state : σ) : Recovering.Agrees (repeatUntil halt step bound state) where
  agrees {fork one other} alike within := by
    induction bound generalizing state one other with
    | zero => exact ⟨rfl, alike⟩
    | succ bound ih =>
        have same : halt one = halt other := Cursor.Shared.same alike
        cases goesOn : halt one with
        | true =>
            rw [repeatUntil_of_halt goesOn, repeatUntil_of_halt (same ▸ goesOn)]
            exact ⟨rfl, alike⟩
        | false =>
            rw [repeatUntil_of_goesOn goesOn] at within ⊢
            rw [repeatUntil_of_goesOn (same ▸ goesOn)]
            have later := Recovering.onward_snd (repeatUntil halt step bound (step state one).1)
              (step state one).2
            obtain ⟨value, after⟩ := Recovering.Agrees.agrees alike (within.trans later.ahead)
            rw [← value]
            exact ih (step state one).1 after within

/-- Two runs of a body agree if each of its steps takes a token. -/
theorem body_agrees {step : σ → Recovering σ} [∀ state, Recovering.Forward (step state)]
    [∀ state, Recovering.Agrees (step state)]
    (advances : ∀ (state : σ) (cursor : Cursor), cursor.Closed → cursor.atBodyEnd = false →
      (step state cursor).2.ahead.length < cursor.ahead.length) (state : σ) :
    Recovering.Agrees (body step state) where
  agrees {fork one other} alike within := by
    let bound := one.ahead.length + other.ahead.length
    have ends (cursor : Cursor) (none : cursor.ahead = []) : cursor.atBodyEnd = true := by
      simp [Cursor.atBodyEnd, Cursor.atEnd, none]
    have first : body step state one = repeatUntil Cursor.atBodyEnd step bound state one :=
      (repeatUntil_bound ends advances alike.closed (Nat.le_refl _) (Nat.le_add_right _ _)).1
    have second : body step state other = repeatUntil Cursor.atBodyEnd step bound state other :=
      (repeatUntil_bound ends advances alike.closed' (Nat.le_refl _) (Nat.le_add_left _ _)).1
    rw [first] at within ⊢
    rw [second]
    exact Recovering.Agrees.agrees alike within

/-! ## Statements -/

section Statements

variable (expression : Parse Expr) (block : Parse (List Stmt)) [Forward expression] [Forward block]
  [Agrees expression] [Agrees block]

instance : Agrees (returnStatement expression) := by unfold returnStatement; infer_instance

instance (targets : List Expr) : Agrees (checkTargets targets) := by
  unfold checkTargets
  split <;> infer_instance

instance (start : Span) (first : Expr) (others : List Expr) :
    Agrees (statementOf start first others) := by
  unfold statementOf
  split <;> infer_instance

instance : Agrees (expressionStatement expression) := by
  rw [expressionStatement_eq]; infer_instance

instance : Agrees (simpleStatement expression) := by
  unfold simpleStatement
  refine @Agrees.bind _ _ _ _ _ (fun kind => ?_) fun kind => ?_
  all_goals split <;> infer_instance

instance : Agrees (arm expression block) := by unfold arm; infer_instance

instance : Agrees (alternative block) := by unfold alternative; infer_instance

instance (bound : Nat) : Agrees (furtherArms expression block bound) := by
  induction bound with
  | zero => unfold furtherArms; infer_instance
  | succ bound ih => unfold furtherArms; infer_instance

/-- Reads the further conditions of a chain, however many there are, and the last block. -/
def otherArms : Parse (List Arm × List Stmt) := do
  furtherArms expression block (← look (·.ahead.length + 1))

/-- The choice that some conditions and a last block make up. -/
def choice (first : Arm) (rest : List Arm) (otherwise : List Stmt) (cursor : Cursor) : Stmt :=
  .ifElse (.ofSpan (cursor.spanFrom first.start)) first.condition first.body
    (Arm.chain (fun start => cursor.spanFrom start) otherwise rest)

omit [Forward expression] [Forward block] [Agrees expression] [Agrees block] in
theorem ifStatement_eq :
    ifStatement expression block = (do
      let first ← arm expression block
      let (rest, otherwise) ← otherArms expression block
      look (choice first rest otherwise)) := by
  rw [ifStatement, otherArms]
  simp only [bind_assoc]
  rfl

instance : Forward (otherArms expression block) := by unfold otherArms; infer_instance

instance : Agrees (otherArms expression block) :=
  .of_bound (fun bound => furtherArms expression block (bound + 1)) (fun bound => inferInstance)
    fun closed enough => furtherArms_bound closed (Nat.lt_succ_self _) (by omega)

instance (first : Arm) (rest : List Arm) (otherwise : List Stmt) :
    Cursor.Shared (choice first rest otherwise) where
  same alike := by
    unfold choice
    simp only [alike.spanFrom]

instance : Agrees (ifStatement expression block) := by rw [ifStatement_eq]; infer_instance

instance : Agrees (whileStatement expression block) := by unfold whileStatement; infer_instance

set_option synthInstance.maxSize 256 in
instance : Agrees (forStatement expression block) := by unfold forStatement; infer_instance

instance : Agrees (statement expression block) := by
  unfold statement
  refine @Agrees.bind _ _ _ _ _ (fun kind => ?_) fun kind => ?_
  all_goals split <;> infer_instance

end Statements

/-! ## Blocks -/

instance (wanted : Expectation) (inner : Recovering α) [Recovering.Forward inner]
    [Recovering.Agrees inner] : Agrees (enclosed wanted inner) := by
  unfold enclosed; infer_instance

instance (reader : Parse (Option Stmt)) [Forward reader] [Agrees reader]
    (statements : List Stmt) : Recovering.Agrees (blockStep reader statements) := by
  unfold blockStep; infer_instance

instance (room : Nat) : Agrees (block room) := by
  induction room with
  | zero => unfold block; infer_instance
  | succ room ih =>
      have statements : Recovering.Agrees
          (body (blockStep (statement (expression room) (block room))) []) :=
        body_agrees (fun statements _ closed more =>
          blockStep_shortens more (statement_opens (expression_opens closed room)) statements) []
      rw [block_succ]
      infer_instance

/-! ## Declarations -/

instance : Agrees initializer := by
  unfold initializer
  refine @Agrees.bind _ _ _ _ _ (fun token => ?_) fun token => ?_
  all_goals split <;> infer_instance

set_option synthInstance.maxSize 256 in
instance (room : Nat) : Agrees (variableDefinition room) := by
  unfold variableDefinition; infer_instance

instance : Agrees outerVariable := by unfold outerVariable; infer_instance

/-! ## Classes -/

set_option synthInstance.maxSize 256 in
instance : Agrees classSignature := by unfold classSignature; infer_instance

instance (decl : Decl) : Agrees (rejectNested decl) := by unfold rejectNested; infer_instance

instance (declaration : Parse (Option Decl)) [Forward declaration] [Agrees declaration] :
    Agrees (classMember declaration) := by
  unfold classMember; infer_instance

instance (declaration : Parse (Option Decl)) [Forward declaration] [Agrees declaration]
    (members : List Decl) : Recovering.Agrees (classStep declaration members) := by
  unfold classStep; infer_instance

section Classes

variable (room : Nat) {function : Parse Decl} [Forward function] [Agrees function]

theorem memberReader_agrees (bound : Nat) (nested : Agrees (classDefinition room function bound)) :
    Agrees (memberReader room function bound) := by
  unfold memberReader
  refine @Agrees.bind _ _ _ _ _ (fun kind => ?_) fun kind => ?_
  all_goals split <;> infer_instance

variable (opens : ∀ cursor : Cursor, cursor.kind = .keyword .kwDef → Opens function cursor)
include opens

theorem classDefinition_agrees (bound : Nat) : Agrees (classDefinition room function bound) := by
  induction bound with
  | zero => unfold classDefinition; infer_instance
  | succ bound ih =>
      have member := memberReader_agrees room bound ih
      have members : Recovering.Agrees
          (body (classStep (memberReader room function bound)) []) :=
        body_agrees (fun members cursor _ more =>
          classStep_shortens more (memberReader_opens room (opens cursor) bound) members) []
      rw [classDefinition_enclosed]
      infer_instance

theorem classDeclaration_agrees : Agrees (classDeclaration room function) :=
  .of_bound (fun bound => classDefinition room function (bound + 1))
    (fun bound => classDefinition_agrees room opens (bound + 1))
    fun closed enough => classDefinition_bound room closed (Nat.lt_succ_self _) (by omega)

theorem innerDeclaration_agrees : Agrees (innerDeclaration room function) := by
  have nested := classDeclaration_agrees room opens
  unfold innerDeclaration
  refine @Agrees.bind _ _ _ _ _ (fun kind => ?_) fun kind => ?_
  all_goals split <;> infer_instance

end Classes

/-! ## Functions -/

instance (room : Nat) (paren : Span) : Agrees (resultType room paren) := by
  unfold resultType; infer_instance

set_option synthInstance.maxSize 256 in
instance (room : Nat) : Agrees (functionSignature room) := by
  unfold functionSignature; infer_instance

instance (inner : Parse (Option Decl)) [Forward inner] [Agrees inner] :
    Agrees (functionDeclaration inner) := by
  unfold functionDeclaration
  refine @Agrees.bind _ _ _ _ _ (fun kind => ?_) fun kind => ?_
  all_goals split <;> infer_instance

instance (body : FunctionBody) (read : Option Decl) : Agrees (body.take read) := by
  unfold FunctionBody.take FunctionBody.declare
  split <;> infer_instance

instance (inner : Parse (Option Decl)) (reader : Parse (Option Stmt)) [Forward inner]
    [Forward reader] [Agrees inner] [Agrees reader] (body : FunctionBody) :
    Recovering.Agrees (functionStep inner reader body) where
  agrees {fork one other} alike within := by
    have same : atFunctionDeclaration one = atFunctionDeclaration other :=
      Cursor.Shared.same alike
    rw [functionStep_apply] at within ⊢
    rw [functionStep_apply, ← same]
    split at within
    · next declares =>
        rw [if_pos declares, if_pos declares]
        exact Recovering.Agrees.agrees alike within
    · next states =>
        rw [if_neg states, if_neg states]
        exact Recovering.Agrees.agrees alike within

theorem functionBody_agrees (room : Nat)
    (inner : Agrees (innerDeclaration room (functionDefinition room))) :
    Agrees (functionBody room) := by
  have read : Recovering.Agrees (body (functionStep
      (innerDeclaration room (functionDefinition room))
      (statement (expression room) (block room))) {}) :=
    body_agrees (fun read _ closed more => functionStep_shortens more
      (innerDeclaration_opens room (functionDefinition_opens room))
      (statement_opens (expression_opens closed room)) read) {}
  unfold functionBody
  infer_instance

/-- The runs count the problems from different ones on. -/
theorem relates_problems {fork : Fork} {next : Nat → Parse α}
    (same : ∀ found, Relates fork (next (fork.known.length + found))
      (next (fork.known'.length + found))) :
    Relates fork (do next (← look (·.problems.length))) (do next (← look (·.problems.length))) := by
  intro one other alike within
  obtain ⟨found, problems, problems'⟩ := alike.problems
  rw [look_bind, look_bind, problems, problems', List.length_append, List.length_append]
  rw [stop_look, problems, List.length_append] at within
  exact same found.length alike within

theorem functionOf_relates {fork : Fork} (start : Span) (heading : FunctionHeading) (found : Nat)
    (read : FunctionBody) :
    Relates fork (functionOf start heading (fork.known.length + found) read)
      (functionOf start heading (fork.known'.length + found) read) := by
  refine Relates.bind (relates_look fun alike => ?_) fun recovered => Agrees.agrees fork
  obtain ⟨more, problems, problems'⟩ := alike.problems
  simp [problems, problems']

instance (room : Nat) : Agrees (functionDefinition room) := by
  induction room with
  | zero => unfold functionDefinition; infer_instance
  | succ room ih =>
      have body := functionBody_agrees room
        (innerDeclaration_agrees room fun _ => functionDefinition_opens room)
      rw [functionDefinition_enclosed]
      refine ⟨fun fork => Relates.bind (Agrees.agrees fork) fun start =>
        Relates.bind (Agrees.agrees fork) fun heading => relates_problems fun found =>
          Relates.bind (Agrees.agrees fork) fun read => ?_⟩
      exact functionOf_relates start.span heading found read

/-! ## The top level -/

instance : Agrees topDeclaration := by
  have nested := classDeclaration_agrees nestingLimit
    fun _ => functionDefinition_opens nestingLimit
  unfold topDeclaration
  refine @Agrees.bind _ _ _ _ _ (fun kind => ?_) fun kind => ?_
  all_goals split <;> infer_instance

instance (body : ProgramBody) (decl : Decl) : Agrees (declareIn body decl) := by
  unfold declareIn; infer_instance

instance (body : ProgramBody) : Recovering.Agrees (programStep body) where
  agrees {fork one other} alike within := by
    rw [programStep_apply] at within ⊢
    rw [programStep_apply, ← alike.kind, ← alike.atDeclaration]
    split at within
    · next ends =>
        rw [if_pos ends, if_pos ends]
        exact ⟨rfl, alike.advance within⟩
    · next inside =>
        rw [if_neg inside, if_neg inside]
        split at within
        · next declares =>
            rw [if_pos declares, if_pos declares]
            exact Recovering.Agrees.agrees alike within
        · next states =>
            rw [if_neg states, if_neg states]
            exact Recovering.Agrees.agrees alike within

end Parse

end ChocoLang
