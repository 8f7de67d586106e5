import ChocoLang.Proofs.Checking.Narrowing.Expression
import ChocoLang.Proofs.Parsing.ReadTrees

/-!
# Narrowing in statements

A variable that is narrowed behind some statements was narrowed before them, and they assign it
only where it cannot be assigned.
-/

namespace ChocoLang

/-- Forgetting keeps a scope honest and narrows nothing. -/
theorem CheckState.Forgot.narrows {before after : CheckState} (forgot : before.Forgot after)
    (honest : before.scope.Honest) :
    after.scope.Honest ∧ ∀ target, after.scope.Narrows target → before.scope.Narrows target := by
  obtain ⟨names, found, rfl⟩ := forgot
  exact honest.forgetAll names

theorem Step.leads_of_silent {step : Step} {outer inner : Scope}
    (silent : ∀ target, ¬ step.Says target)
    (narrows : ∀ target, inner.Narrows target → outer.Narrows target)
    (refused : ∀ target, inner.Narrows target →
      ∀ name ∈ step.names, name.name = target → name.Refused) : step.Leads outer inner :=
  fun target within => .inr ⟨narrows target within, ⟨refused target within, silent target⟩⟩

/--
The names that are read between two scopes are explained by the first scope; those that are
assigned are not narrowed in the second one, unless they cannot be assigned.
-/
structure Scope.Accounts (before : Scope) (reads : List Read) (names : List Identifier)
    (after : Scope) : Prop where
  /-- The names that are read are explained. -/
  explained : ∀ read ∈ reads, before.Explains read
  /-- A name that is assigned and still narrowed cannot be assigned. -/
  refused : ∀ target, after.Narrows target → ∀ name ∈ names, name.name = target → name.Refused

theorem Scope.Accounts.nothing (before after : Scope) : before.Accounts [] [] after :=
  ⟨by simp, by simp⟩

/-- What is narrowed later was narrowed before, so that two accounts are one. -/
theorem Scope.Accounts.andThen {first second third : Scope} {reads later : List Read}
    {names laterNames : List Identifier} (before : first.Accounts reads names second)
    (behind : second.Accounts later laterNames third)
    (narrows : ∀ target, second.Narrows target → first.Narrows target)
    (narrowsLater : ∀ target, third.Narrows target → second.Narrows target) :
    first.Accounts (reads ++ later) (names ++ laterNames) third := by
  refine ⟨List.forall_mem_append.mpr ⟨before.explained, fun read among absent => ?_⟩,
    fun target narrowed => ?_⟩
  · exact (behind.explained read among absent).imp_right (And.imp_left (narrows _))
  · exact List.forall_mem_append.mpr
      ⟨before.refused target (narrowsLater target narrowed), behind.refused target narrowed⟩

/-- What comes behind a step is explained by the scope before the step. -/
theorem Scope.Accounts.inside {first second third : Scope} {later : List Read}
    {names : List Identifier} (behind : second.Accounts later names third) {step : Step}
    (leads : step.Leads first second) :
    first.Accounts (later.map (Read.inside step)) names third :=
  ⟨Scope.explains_map_inside behind.explained leads, behind.refused⟩

/-- What comes behind something is explained by the scope before it. -/
theorem Scope.Accounts.append {first second third : Scope} {reads later : List Read}
    {names laterNames : List Identifier} (before : first.Accounts reads names second) (step : Step)
    (behind : second.Accounts later laterNames third)
    (silent : ∀ target, ¬ step.Says target) (same : step.names = names)
    (narrows : ∀ target, second.Narrows target → first.Narrows target)
    (narrowsLater : ∀ target, third.Narrows target → second.Narrows target) :
    first.Accounts (reads ++ later.map (Read.inside step)) (names ++ laterNames) third := by
  have inside := behind.inside (Step.leads_of_silent silent narrows (same ▸ before.refused))
  exact ⟨List.forall_mem_append.mpr ⟨before.explained, inside.explained⟩, fun target narrowed =>
    List.forall_mem_append.mpr
      ⟨before.refused target (narrowsLater target narrowed), behind.refused target narrowed⟩⟩

namespace Check

/-! ## Targets -/

theorem error_settle {verdict : Verdict} {error : CheckError} (wrong : verdict.error = some error)
    {info : ExprInfo} (fresh : info.error = none) (state : CheckState) :
    (settle verdict info state).1.error = some error.message := by
  unfold settle
  rw [wrong]
  exact reportExpr_error fresh state

/-- A name that is assigned is not narrowed afterwards, unless it cannot be assigned. -/
theorem assignName_refused {name : Identifier} (fresh : name.info.error = none)
    {state : CheckState} (honest : state.scope.Honest) :
    (assignName name state).1.1.name = name.name ∧
      ((assignName name state).2.scope.Narrows name.name →
        (assignName name state).1.1.Refused ∧ (assignName name state).1.2 = none) := by
  cases found : (state.scope.lookupLocal name.name).filter (·.kind.isAssignable) with
  | none =>
      rw [assignName_of_none found]
      exact ⟨rfl, fun _ => ⟨error_settle rfl fresh state, rfl⟩⟩
  | some binding =>
      rw [assignName_of_some found]
      refine ⟨rfl, fun narrowed => ?_⟩
      dsimp only at narrowed
      rw [scope_apply (settle { type := binding.type } name.info)] at narrowed
      exact absurd rfl (honest.narrows_of_forget narrowed).2

/-- The narrowed variables after a statement were narrowed before it. -/
theorem narrows_of_forgot {α : Type} (action : Check α) [Has CheckState.Forgot action]
    {state : CheckState} (honest : state.scope.Honest) : (action state).2.scope.Honest ∧
      ∀ target, (action state).2.scope.Narrows target → state.scope.Narrows target :=
  CheckState.Forgot.narrows (Has.ran action state) honest

theorem assignElement_accounts (info : ExprInfo) (container position : Expr) {state : CheckState}
    (honest : state.scope.Honest) :
    state.scope.Accounts (assignElement info container position state).1.1.targetReads
      (assignElement info container position state).1.1.targetNames
      (assignElement info container position state).2.scope := by
  have shape : ∃ info' : ExprInfo, (assignElement info container position state).1.1 =
      .index info' (infer container state).1
        (demandPosition (infer position (infer container state).2).1
          (infer position (infer container state).2).2).1 := by
    unfold assignElement
    simp only [bind_apply]
    split <;> exact ⟨_, rfl⟩
  obtain ⟨info', shape⟩ := shape
  rw [shape]
  refine ⟨List.forall_mem_append.mpr ⟨infer_explains.1 container state honest, ?_⟩,
    by simp [Expr.targetNames]⟩
  refine explains_demand _ _ ?_ _
  rw [← scope_apply (infer container) state] at honest ⊢
  exact infer_explains.1 position _ honest

/-- A target accounts for the names in it. -/
theorem assignTarget_accounts {target : Expr} (isTarget : target.isTarget)
    (fresh : target.outline.Fresh) {state : CheckState} (honest : state.scope.Honest) :
    state.scope.Accounts (assignTarget target state).1.1.targetReads
      (assignTarget target state).1.1.targetNames (assignTarget target state).2.scope := by
  cases target with
  | name identifier =>
      have freshName := (identifier.fresh_outline_iff.mp fresh).1
      obtain ⟨same, refused⟩ := assignName_refused freshName honest
      change state.scope.Accounts [] [(assignName identifier state).1.1]
        (assignName identifier state).2.scope
      refine ⟨by simp, fun target narrowed => ?_⟩
      rw [List.forall_mem_singleton, same]
      rintro rfl
      exact (refused narrowed).1
  | index info container position => exact assignElement_accounts info container position honest
  | member info object field =>
      have explained := infer_explains.1 (.member info object field) state honest
      obtain ⟨info', object', field', shape⟩ := infer_member_shape info object field state
      change state.scope.Accounts (infer (.member info object field) state).1.targetReads
        (infer (.member info object field) state).1.targetNames _
      rw [shape] at explained ⊢
      exact ⟨explained, by simp [Expr.targetNames]⟩
  | _ => cases isTarget

/-- Several targets account for the names in them. -/
theorem assignAll_accounts (value : ValueType) (info : NodeInfo) {targets : List Expr}
    (raw : ∀ target ∈ targets, target.isTarget ∧ target.outline.Fresh) {state : CheckState}
    (honest : state.scope.Honest) :
    state.scope.Accounts (targetReadsIn (assignAll value info targets state).1.1)
      ((assignAll value info targets state).1.1.flatMap Expr.targetNames)
      (assignAll value info targets state).2.scope := by
  induction targets generalizing info state with
  | nil => exact .nothing _ _
  | cons target rest ih =>
      obtain ⟨⟨isTarget, fresh⟩, others⟩ := List.forall_mem_cons.mp raw
      have first := assignTarget_accounts isTarget fresh honest
      obtain ⟨honestLater, narrows⟩ := narrows_of_forgot (assignTarget target) honest
      have noted := scope_apply (demandFits value (assignTarget target state).1.2 info)
        (assignTarget target state).2
      rw [assignAll_cons]
      simp only [bind_apply]
      rw [← noted] at first honestLater narrows
      exact first.append (.assigned _) (ih _ others honestLater) nofun rfl narrows
        (narrows_of_forgot (assignAll value _ rest) honestLater).2

theorem checkAssignment_accounts {info : NodeInfo} {targets : List Expr} {value : Expr}
    (raw : (Stmt.assign info targets value).Raw) {state : CheckState}
    (honest : state.scope.Honest) :
    state.scope.Accounts (checkAssignment info targets value state).1.reads
      (checkAssignment info targets value state).1.assigned
      (checkAssignment info targets value state).2.scope := by
  obtain ⟨-, targetsRaw, -⟩ := raw.assign
  rw [checkAssignment_eq]
  simp only [bind_apply]
  have explained := infer_explains.1 value state honest
  have same := scope_apply (infer value) state
  generalize infer value state = inferred at explained same ⊢
  have still := scope_apply (demandSingle targets inferred.1.type info) inferred.2
  rw [same] at still
  rw [← still] at honest explained ⊢
  have assigns := assignAll_accounts inferred.1.type
    (demandSingle targets inferred.1.type info inferred.2).1 targetsRaw honest
  exact ⟨List.forall_mem_append.mpr ⟨explained, assigns.explained⟩, assigns.refused⟩

/-! ## Loops and returns -/

/-- The variable of a loop is not narrowed afterwards, unless it cannot be assigned. -/
theorem takeElement_refused (iteration : Iteration) {element : Identifier}
    (fresh : element.info.error = none) (iterable : Expr) {state : CheckState}
    (honest : state.scope.Honest) :
    (takeElement iteration element iterable state).1.2 = iterable ∧
      (takeElement iteration element iterable state).1.1.name = element.name ∧
      ((takeElement iteration element iterable state).2.scope.Narrows element.name →
        (takeElement iteration element iterable state).1.1.Refused) := by
  obtain ⟨same, refused⟩ := assignName_refused fresh honest
  unfold takeElement
  simp only [bind_apply]
  generalize assignName element state = assigned at same refused ⊢
  obtain ⟨⟨element', type⟩, after⟩ := assigned
  cases type with
  | none => exact ⟨rfl, same, fun narrowed => (refused narrowed).1⟩
  | some expected =>
      cases iteration.type? with
      | none => exact ⟨rfl, same, fun narrowed => (refused narrowed).1⟩
      | some actual =>
          refine ⟨rfl, same, fun narrowed => ?_⟩
          have still := scope_apply (demandFit expected actual element'.info.toNodeInfo) after
          change (demandFit expected actual element'.info.toNodeInfo after).2.scope.Narrows _
            at narrowed
          rw [still] at narrowed
          cases (refused narrowed).2

theorem explains_demandIterable {scope : Scope} {iterable : Expr}
    (explained : ∀ read ∈ iterable.reads, scope.Explains read) (state : CheckState) :
    ∀ read ∈ (demandIterable iterable state).1.reads, scope.Explains read := by
  unfold demandIterable
  split
  · exact explains_withInfo rfl explained
  · exact explained

/-- The head of a loop accounts for the names in it. -/
theorem checkLoopHead_accounts {element : Identifier} (fresh : element.info.error = none)
    (iterable : Expr) {state : CheckState} (honest : state.scope.Honest) :
    state.scope.Accounts (checkLoopHead element iterable state).1.2.reads
      [(checkLoopHead element iterable state).1.1]
      (checkLoopHead element iterable state).2.scope := by
  rw [checkLoopHead_eq]
  simp only [bind_apply]
  have explained := infer_explains.1 iterable state honest
  have same := scope_apply (infer iterable) state
  generalize infer iterable state = inferred at explained same ⊢
  have still := scope_apply (demandIterable inferred.1) inferred.2
  rw [same] at still
  rw [← still] at honest explained ⊢
  obtain ⟨kept, named, refused⟩ := takeElement_refused (Iteration.ofType inferred.1.type) fresh
    (demandIterable inferred.1 inferred.2).1 honest
  refine ⟨?_, fun target narrowed => ?_⟩
  · rw [kept]
    exact explains_demandIterable explained _
  · rw [List.forall_mem_singleton, named]
    rintro rfl
    exact refused narrowed

theorem checkReturn_accounts (info : NodeInfo) (value : Option Expr) {state : CheckState}
    (honest : state.scope.Honest) :
    state.scope.Accounts (checkReturn info value state).1.reads
      (checkReturn info value state).1.assigned (checkReturn info value state).2.scope := by
  obtain ⟨info', shape⟩ := checkReturn_shape info value state
  rw [shape]
  refine ⟨?_, fun _ _ => nofun⟩
  cases value with
  | none => exact nofun
  | some value => exact infer_explains.1 value state honest

/-- A condition accounts for the names in it. -/
theorem inferCondition_accounts (condition : Expr) {state : CheckState}
    (honest : state.scope.Honest) :
    state.scope.Accounts (inferCondition condition state).1.reads []
      (inferCondition condition state).2.scope :=
  ⟨explains_demand _ _ (infer_explains.1 condition state honest) _, fun _ _ => nofun⟩

/-- What is done under a condition accounts for its names behind that step. -/
theorem assuming_accounts (condition : Expr) (inner : Check (List Stmt))
    [Has CheckState.Forgot inner]
    (accounts : ∀ before : CheckState, before.scope.Honest → before.scope.Accounts
      (Stmt.readsIn (inner before).1) (Stmt.assignedIn (inner before).1) (inner before).2.scope)
    {state : CheckState} (honest : state.scope.Honest) :
    state.scope.Accounts
      ((Stmt.readsIn (assuming condition inner state).1).map (Read.inside (.holding condition)))
      (Stmt.assignedIn (assuming condition inner state).1)
      (assuming condition inner state).2.scope := by
  obtain ⟨before, honestInside, same, leads, narrows⟩ := assuming_leads condition inner honest
  have inside := (accounts before honestInside).inside leads
  rw [same]
  exact ⟨inside.explained, fun target narrowed => inside.refused target (narrows target narrowed)⟩

/-! ## Statements -/

/-- Statements account for the names in them. -/
theorem checkStmt_accounts :
    (∀ stmt : Stmt, stmt.Raw → ∀ state : CheckState, state.scope.Honest →
      state.scope.Accounts (checkStmt stmt state).1.reads (checkStmt stmt state).1.assigned
        (checkStmt stmt state).2.scope) ∧
    ∀ stmts : List Stmt, (∀ stmt ∈ stmts, stmt.Raw) → ∀ state : CheckState, state.scope.Honest →
      state.scope.Accounts (Stmt.readsIn (checkStmts stmts state).1)
        (Stmt.assignedIn (checkStmts stmts state).1) (checkStmts stmts state).2.scope := by
  apply Stmt.mutual_induction
  case expr =>
    intro info value _ state honest
    unfold checkStmt
    exact ⟨infer_explains.1 value state honest, fun _ _ _ among => by cases among⟩
  case assign =>
    intro info targets value raw state honest
    unfold checkStmt
    exact checkAssignment_accounts raw honest
  case ifElse =>
    intro info condition thenBody elseBody ihThen ihElse raw state honest
    obtain ⟨-, rawThen, rawElse⟩ := raw.ifElse
    have asked := inferCondition_accounts condition honest
    obtain ⟨honestThen, narrows⟩ := narrows_of_forgot (inferCondition condition) honest
    have assumed := assuming_accounts (inferCondition condition state).1 (checkStmts thenBody)
      (ihThen rawThen) honestThen
    obtain ⟨honestElse, narrowsThen⟩ :=
      narrows_of_forgot (assuming (inferCondition condition state).1 (checkStmts thenBody))
        honestThen
    have otherwise := ihElse rawElse _ honestElse
    unfold checkStmt
    exact (asked.andThen assumed narrows narrowsThen).andThen otherwise
      (fun target narrowed => narrows target (narrowsThen target narrowed))
      (narrows_of_forgot (checkStmts elseBody) honestElse).2
  case whileLoop =>
    intro info condition body ih raw state honest
    obtain ⟨-, rawBody⟩ := raw.whileLoop
    have asked := inferCondition_accounts condition honest
    obtain ⟨honestBody, narrows⟩ := narrows_of_forgot (inferCondition condition) honest
    have round := asked.andThen (ih rawBody _ honestBody) narrows
      (narrows_of_forgot (checkStmts body) honestBody).2
    unfold checkStmt
    exact round.inside (Step.leads_of_silent (by simp [Step.Says]) (fun _ => id)
      (by simp [Step.names]))
  case forLoop =>
    intro info element iterable body ih raw state honest
    obtain ⟨freshElement, -, rawBody⟩ := raw.forLoop
    have head := checkLoopHead_accounts freshElement iterable honest
    obtain ⟨honestLater, narrows⟩ := narrows_of_forgot (checkLoopHead element iterable) honest
    unfold checkStmt
    exact head.append (.round (some _) _) (ih rawBody _ honestLater) (by simp [Step.Says]) rfl
      narrows (narrows_of_forgot (checkStmts body) honestLater).2
  case ret =>
    intro info value _ state honest
    unfold checkStmt
    exact checkReturn_accounts info value honest
  case nil =>
    intro _ state _
    unfold checkStmts
    exact .nothing _ _
  case cons =>
    intro stmt rest ihStmt ihRest all state honest
    obtain ⟨raw, others⟩ := List.forall_mem_cons.mp all
    have first := ihStmt raw state honest
    have forgot : state.Forgot (checkStmt stmt state).2 :=
      @Has.ran _ _ (checkStmt stmt) (checkStmt_forgot.1 stmt) state
    obtain ⟨honestLater, narrows⟩ := forgot.narrows honest
    unfold checkStmts
    exact first.append (.behind _) (ihRest others _ honestLater) (by simp [Step.Says]) rfl narrows
      (narrows_of_forgot (checkStmts rest) honestLater).2

end Check
end ChocoLang
