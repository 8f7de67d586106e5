import ChocoLang.Checking.Program
import ChocoLang.Proofs.Typing.Scopes

/-!
# What checking changes

Checking an expression changes nothing but the list of problems, which grows.  A statement may,
besides, end what is known about variables in the branches around it.  A declaration whose heading
has been looked at changes nothing but the list of problems, as it leaves every frame it enters.
-/

namespace ChocoLang

namespace CheckState

/-- Problems are found between the states, and nothing else changes. -/
def Reported (before after : CheckState) : Prop :=
  ∃ found, after = { before with problems := before.problems ++ found }

/-- Problems are found and narrowings are forgotten between the states. -/
def Forgot (before after : CheckState) : Prop :=
  ∃ (names : List String) (found : List (Located CheckError)), after =
    { before with
      scope := names.foldl Scope.forget before.scope
      problems := before.problems ++ found }

/-- Problems are found and names are bound between the states. -/
def Defined (before after : CheckState) : Prop :=
  ∃ (bindings : List Binding) (found : List (Located CheckError)), after =
    { before with
      scope := bindings.foldl Scope.define before.scope
      problems := before.problems ++ found }

/-- Problems are found between the states, and the frame on top of the scope may be another one. -/
def OnTop (kind : FrameKind) (before after : CheckState) : Prop :=
  ∃ (scope : Scope) (found : List (Located CheckError)),
    after = { before with scope, problems := before.problems ++ found } ∧
      ∀ {outer : Scope}, Scope.Inside kind outer before.scope → Scope.Inside kind outer scope

/-- Problems are found between the states. -/
def Grown (before after : CheckState) : Prop := before.problems <+: after.problems

end CheckState

/-- A relation between states that may hold across several steps, some of which report problems. -/
class Effect (effect : CheckState → CheckState → Prop) : Prop where
  /-- Reporting has the effect. -/
  ofReported : ∀ {before after}, before.Reported after → effect before after
  /-- Two steps with the effect have it together. -/
  trans : ∀ {first second third}, effect first second → effect second third → effect first third

theorem Effect.refl {effect : CheckState → CheckState → Prop} [Effect effect]
    (state : CheckState) : effect state state :=
  ofReported ⟨[], by simp⟩

instance : Effect CheckState.Reported where
  ofReported reported := reported
  trans := by
    rintro _ _ _ ⟨found, rfl⟩ ⟨more, rfl⟩
    exact ⟨found ++ more, by simp⟩

instance : Effect CheckState.Forgot where
  ofReported := fun ⟨found, same⟩ => ⟨[], found, same⟩
  trans := by
    rintro _ _ _ ⟨names, found, rfl⟩ ⟨others, more, rfl⟩
    exact ⟨names ++ others, found ++ more, by simp⟩

instance : Effect CheckState.Defined where
  ofReported := fun ⟨found, same⟩ => ⟨[], found, same⟩
  trans := by
    rintro _ _ _ ⟨bindings, found, rfl⟩ ⟨others, more, rfl⟩
    exact ⟨bindings ++ others, found ++ more, by simp⟩

instance : Effect CheckState.Grown where
  ofReported := by
    rintro _ _ ⟨found, rfl⟩
    exact List.prefix_append _ _
  trans first second := List.IsPrefix.trans first second

instance (kind : FrameKind) : Effect (CheckState.OnTop kind) where
  ofReported := fun ⟨found, same⟩ => ⟨_, found, same, id⟩
  trans := by
    rintro _ _ _ ⟨_, found, rfl, kept⟩ ⟨scope, more, rfl, keptLater⟩
    exact ⟨scope, found ++ more, by simp, fun inside => keptLater (kept inside)⟩

theorem CheckState.Defined.onTop {before after : CheckState} (defined : before.Defined after)
    (kind : FrameKind) : CheckState.OnTop kind before after := by
  obtain ⟨bindings, found, rfl⟩ := defined
  exact ⟨_, found, rfl, fun inside => inside.defineAll bindings⟩

theorem CheckState.Forgot.onTop {before after : CheckState} (forgot : before.Forgot after) :
    CheckState.OnTop .function before after := by
  obtain ⟨names, found, rfl⟩ := forgot
  refine ⟨_, found, rfl, fun inside => ?_⟩
  rw [inside.forgetAll_eq (by decide)]
  exact inside

theorem CheckState.Forgot.grown {before after : CheckState} (forgot : before.Forgot after) :
    before.Grown after := by
  obtain ⟨_, _, rfl⟩ := forgot
  exact List.prefix_append _ _

theorem CheckState.Defined.grown {before after : CheckState} (defined : before.Defined after) :
    before.Grown after := by
  obtain ⟨_, _, rfl⟩ := defined
  exact List.prefix_append _ _

theorem CheckState.unbound_of_clash? {state : CheckState} {name : String} {kind : BindingKind}
    (free : state.clash? name kind = none) : state.scope.current.find? name = none := by
  unfold clash? at free
  dsimp only at free
  split at free
  · split at free <;> cases free
  · assumption

namespace Check

variable {α β : Type} {effect : CheckState → CheckState → Prop}

/-- The action has the effect on every state. -/
class Has (effect : CheckState → CheckState → Prop) (action : Check α) : Prop where
  /-- The state before is related to the state after. -/
  run : ∀ state, effect state (action state).2

theorem bind_apply (action : Check α) (next : α → Check β) (state : CheckState) :
    (action >>= next) state = next (action state).1 (action state).2 := rfl

theorem get_apply (state : CheckState) : (get : Check CheckState) state = (state, state) := rfl

theorem view_apply (read : CheckState → α) (state : CheckState) :
    view read state = (read state, state) := rfl

theorem pure_apply (value : α) (state : CheckState) :
    (pure value : Check α) state = (value, state) := rfl

theorem modifyScope_apply (change : Scope → Scope) (state : CheckState) :
    modifyScope change state = ((), { state with scope := change state.scope }) := rfl

theorem settleExpr_apply (verdict : Verdict) (expr : Expr) (state : CheckState) :
    settleExpr verdict expr state =
      (expr.withInfo (settle verdict expr.info state).1, (settle verdict expr.info state).2) := rfl

/-- The effect that an action has. -/
theorem Has.ran (action : Check α) [Has effect action] (state : CheckState) :
    effect state (action state).2 :=
  Has.run state

/-- What only reports problems leaves the scope as it is. -/
theorem scope_apply (action : Check α) [Has CheckState.Reported action] (state : CheckState) :
    (action state).2.scope = state.scope := by
  obtain ⟨found, same⟩ : state.Reported (action state).2 := Has.ran action state
  rw [same]

instance [Effect effect] (value : α) : Has effect (pure value : Check α) where
  run := Effect.refl

instance (priority := low) bind [Effect effect] (action : Check α) (next : α → Check β)
    [Has effect action] [∀ value, Has effect (next value)] : Has effect (action >>= next) where
  run state := Effect.trans (Has.ran action state)
    (Has.ran (next (action state).1) (action state).2)

theorem Has.ofReported [Effect effect] (action : Check α) [Has CheckState.Reported action] :
    Has effect action where
  run state := Effect.ofReported (Has.ran action state)

instance (priority := low) (kind : FrameKind) (action : Check α)
    [Has CheckState.Defined action] : Has (CheckState.OnTop kind) action where
  run state := CheckState.Defined.onTop (Has.ran action state) kind

instance (priority := low) (action : Check α) [Has CheckState.Forgot action] :
    Has (CheckState.OnTop .function) action where
  run state := CheckState.Forgot.onTop (Has.ran action state)

instance (priority := low) (action : Check α) [Has CheckState.Defined action] :
    Has CheckState.Grown action where
  run state := CheckState.Defined.grown (Has.ran action state)

instance (priority := low) (action : Check α) [Has CheckState.Forgot action] :
    Has CheckState.Grown action where
  run state := CheckState.Forgot.grown (Has.ran action state)

instance [Effect effect] (look : CheckState → α) : Has effect (view look) where
  run := Effect.refl

instance [Effect effect] : Has effect (get : Check CheckState) where
  run := Effect.refl

instance [Effect effect] (condition : Prop) [Decidable condition] (yes no : Check α)
    [Has effect yes] [Has effect no] : Has effect (if condition then yes else no) where
  run state := by
    split
    · exact Has.run state
    · exact Has.run state

/-! ## Reports -/

theorem report_apply (error : CheckError) (info : NodeInfo) (state : CheckState) :
    report error info state =
      if info.error.isSome then (info, state)
      else ({ info with error := some error.message },
        { state with problems := state.problems ++ [⟨error, info.span⟩] }) := by
  unfold report
  split <;> rfl

/-- A node keeps the error that it has, and has the one that is reported otherwise. -/
theorem reportExpr_error_eq (error : CheckError) (info : ExprInfo) (state : CheckState) :
    (reportExpr error info state).1.error = some (info.error.getD error.message) := by
  change (report error info.toNodeInfo state).1.error = _
  rw [report_apply]
  cases known : info.error <;> simp [known]

theorem reportExpr_error {error : CheckError} {info : ExprInfo} (fresh : info.error = none)
    (state : CheckState) : (reportExpr error info state).1.error = some error.message := by
  rw [reportExpr_error_eq, fresh]
  rfl

theorem reportName_error {error : CheckError} {name : Identifier} (fresh : name.info.error = none)
    (state : CheckState) :
    (reportName error name state).1.info.error = some error.message :=
  reportExpr_error fresh state

instance [Effect effect] (error : CheckError) (info : NodeInfo) :
    Has effect (report error info) where
  run state := by
    rw [report_apply]
    split
    · exact Effect.refl state
    · exact Effect.ofReported ⟨_, rfl⟩

instance [Effect effect] (error : CheckError) (info : ExprInfo) :
    Has effect (reportExpr error info) := by
  unfold reportExpr; infer_instance

instance [Effect effect] (error : CheckError) (name : Identifier) :
    Has effect (reportName error name) := by
  unfold reportName; infer_instance

instance [Effect effect] (verdict : Verdict) (info : ExprInfo) :
    Has effect (settle verdict info) := by
  unfold settle
  split <;> infer_instance

instance [Effect effect] (verdict : Verdict) (expr : Expr) :
    Has effect (settleExpr verdict expr) := by
  unfold settleExpr; infer_instance

/-! ## Expressions -/

theorem within_apply (kind : FrameKind) (name : String) (inner : Check α) (state : CheckState) :
    within kind name inner state =
      let ran := inner { state with scope := state.scope.enter kind name }
      (ran.1, { ran.2 with scope := ran.2.scope.leave }) := rfl

theorem assuming_of_none {condition : Expr} {state : CheckState} (inner : Check α)
    (nothing : state.absentVariable? condition = none) :
    assuming condition inner state = inner state := by
  simp only [assuming, bind_apply, get_apply, nothing]

theorem assuming_of_some {condition : Expr} {state : CheckState} {name : String} (inner : Check α)
    (absent : state.absentVariable? condition = some name) :
    assuming condition inner state =
      let ran := inner { state with scope := state.scope.assumeAbsent name }
      (ran.1, { ran.2 with scope := ran.2.scope.leave }) := by
  simp only [assuming, bind_apply, get_apply, absent]
  rfl

instance (condition : Expr) (inner : Check α) [Has CheckState.Reported inner] :
    Has CheckState.Reported (assuming condition inner) where
  run state := by
    cases absent : state.absentVariable? condition with
    | none =>
        rw [assuming_of_none inner absent]
        exact Has.run state
    | some name =>
        rw [assuming_of_some inner absent]
        obtain ⟨found, after⟩ : CheckState.Reported _ _ :=
          Has.ran inner { state with scope := state.scope.assumeAbsent name }
        exact ⟨found, by simp [after, (state.scope.inside_assumeAbsent name).leave]⟩

instance (condition : Expr) (inner : Check α) [Has CheckState.Forgot inner] :
    Has CheckState.Forgot (assuming condition inner) where
  run state := by
    cases absent : state.absentVariable? condition with
    | none =>
        rw [assuming_of_none inner absent]
        exact Has.run state
    | some name =>
        rw [assuming_of_some inner absent]
        obtain ⟨names, found, after⟩ : CheckState.Forgot _ _ :=
          Has.ran inner { state with scope := state.scope.assumeAbsent name }
        refine ⟨names, found, ?_⟩
        simp [after, ((state.scope.inside_assumeAbsent name).forgetAll_branch names).leave]

instance [Effect effect] (wanted : ValueType) (error : ValueType → CheckError) (expr : Expr) :
    Has effect (demand wanted error expr) := by
  unfold demand; infer_instance

instance [Effect effect] (expr : Expr) : Has effect (demandCondition expr) := by
  unfold demandCondition; infer_instance

instance [Effect effect] (expr : Expr) : Has effect (demandPosition expr) := by
  unfold demandPosition; infer_instance

/-- Checking expressions reports problems and changes nothing else. -/
theorem infer_reported :
    (∀ expr, Has CheckState.Reported (infer expr)) ∧
      ∀ exprs, Has CheckState.Reported (inferAll exprs) := by
  apply Expr.mutual_induction
  all_goals intros
  all_goals first | unfold infer | unfold inferAll
  all_goals infer_instance

instance [Effect effect] (expr : Expr) : Has effect (infer expr) :=
  @Has.ofReported _ _ _ _ (infer_reported.1 expr)

instance [Effect effect] (exprs : List Expr) : Has effect (inferAll exprs) :=
  @Has.ofReported _ _ _ _ (infer_reported.2 exprs)

/-- A member that is checked is a member still. -/
theorem infer_member_shape (recorded : ExprInfo) (inner : Expr) (name : Identifier)
    (state : CheckState) :
    ∃ info object field, (infer (.member recorded inner name) state).1 =
      .member info object field := by
  unfold infer
  simp only [bind_apply, settleExpr_apply]
  exact ⟨_, (infer inner state).1, name, rfl⟩

instance [Effect effect] (condition : Expr) : Has effect (inferCondition condition) := by
  unfold inferCondition; infer_instance

/-! ## Statements -/

instance [Effect effect] (source target : ValueType) : Has effect (fits source target) := by
  unfold fits; infer_instance

instance [Effect effect] (expected actual : ValueType) (info : NodeInfo) :
    Has effect (demandFit expected actual info) := by
  unfold demandFit; infer_instance

instance (name : String) : Has CheckState.Forgot (modifyScope (·.forget name)) where
  run state := ⟨[name], [], by simp [modifyScope_apply]⟩

instance (name : Identifier) : Has CheckState.Forgot (assignName name) := by
  unfold assignName
  refine @bind _ _ _ _ _ _ inferInstance fun found => ?_
  split <;> infer_instance

theorem assignName_of_none {name : Identifier} {state : CheckState}
    (nothing : (state.scope.lookupLocal name.name).filter (·.kind.isAssignable) = none) :
    assignName name state =
      let settled := settle (.wrong (.notAssignable name.name)) name.info state
      (({ name with info := settled.1 }, none), settled.2) := by
  simp only [assignName, bind_apply, view_apply, nothing]
  rfl

theorem assignName_of_some {name : Identifier} {state : CheckState} {binding : Binding}
    (found : (state.scope.lookupLocal name.name).filter (·.kind.isAssignable) = some binding) :
    assignName name state =
      let settled := settle { type := binding.type } name.info
        { state with scope := state.scope.forget name.name }
      (({ name with info := settled.1 }, some binding.type), settled.2) := by
  simp only [assignName, bind_apply, view_apply, found]
  rfl

instance [Effect effect] (info : ExprInfo) (container position : Expr) :
    Has effect (assignElement info container position) := by
  unfold assignElement; infer_instance

instance (target : Expr) : Has CheckState.Forgot (assignTarget target) := by
  unfold assignTarget
  split <;> infer_instance

/-- Reports an assignment whose value does not fit a target, if the type of the target is known. -/
def demandFits (value : ValueType) (target : Option ValueType) (info : NodeInfo) : Check NodeInfo :=
  match target with
  | none => return info
  | some type => demandFit type value info

/-- Targets are assigned one after the other. -/
theorem assignAll_cons (value : ValueType) (info : NodeInfo) (target : Expr) (rest : List Expr) :
    assignAll value info (target :: rest) = (do
      let assigned ← assignTarget target
      let info ← demandFits value assigned.2 info
      let later ← assignAll value info rest
      return (assigned.1 :: later.1, later.2)) := by
  unfold demandFits
  rw [assignAll]
  congr
  funext (_, type)
  cases type <;> rfl

instance [Effect effect] (value : ValueType) (target : Option ValueType) (info : NodeInfo) :
    Has effect (demandFits value target info) := by
  unfold demandFits
  split <;> infer_instance

instance (value : ValueType) (info : NodeInfo) (targets : List Expr) :
    Has CheckState.Forgot (assignAll value info targets) := by
  induction targets generalizing info with
  | nil => unfold assignAll; infer_instance
  | cons target rest ih => rw [assignAll_cons]; infer_instance

/-- Reports a list of absent values that is assigned to several targets. -/
def demandSingle (targets : List Expr) (value : ValueType) (info : NodeInfo) : Check NodeInfo :=
  if targets.length > 1 && value = .list .none then report .listOfNoneToMany info else return info

/-- The value of an assignment comes before its targets. -/
theorem checkAssignment_eq (info : NodeInfo) (targets : List Expr) (value : Expr) :
    checkAssignment info targets value = (do
      let value ← infer value
      let info ← demandSingle targets value.type info
      let assigned ← assignAll value.type info targets
      return .assign assigned.2 assigned.1 value) := by
  unfold checkAssignment demandSingle
  congr
  funext value
  dsimp only
  split <;> rfl

instance [Effect effect] (targets : List Expr) (value : ValueType) (info : NodeInfo) :
    Has effect (demandSingle targets value info) := by
  unfold demandSingle; infer_instance

instance (info : NodeInfo) (targets : List Expr) (value : Expr) :
    Has CheckState.Forgot (checkAssignment info targets value) := by
  rw [checkAssignment_eq]; infer_instance

/-- Reports something that a loop cannot run through. -/
def demandIterable (iterable : Expr) : Check Expr := do
  if Iteration.ofType iterable.type = .impossible then
    return iterable.withInfo (← reportExpr (.notIterable iterable.type) iterable.info)
  else return iterable

/-- Checks the variable that takes the values that a loop runs through. -/
def takeElement (iteration : Iteration) (element : Identifier) (iterable : Expr) :
    Check (Identifier × Expr) := do
  let (element, type) ← assignName element
  match type, iteration.type? with
  | some expected, some actual =>
    let info ← demandFit expected actual element.info.toNodeInfo
    return ({ element with info := { element.info with toNodeInfo := info } }, iterable)
  | _, _ => return (element, iterable)

/-- At the head of a loop its iterable comes before its variable. -/
theorem snd_takeElement (iteration : Iteration) (element : Identifier) (iterable : Expr)
    (state : CheckState) : (takeElement iteration element iterable state).1.2 = iterable := by
  unfold takeElement
  rw [bind_apply]
  generalize iteration.type? = value
  obtain ⟨⟨element, type⟩, after⟩ := assignName element state
  cases type with
  | none => rfl
  | some expected => cases value <;> rfl

theorem checkLoopHead_eq (element : Identifier) (iterable : Expr) :
    checkLoopHead element iterable = (do
      let iterable ← infer iterable
      let checked ← demandIterable iterable
      takeElement (.ofType iterable.type) element checked) := by
  unfold checkLoopHead demandIterable
  congr
  funext iterable
  dsimp only
  split <;> rfl

instance [Effect effect] (iterable : Expr) : Has effect (demandIterable iterable) := by
  unfold demandIterable; infer_instance

instance (iteration : Iteration) (element : Identifier) (iterable : Expr) :
    Has CheckState.Forgot (takeElement iteration element iterable) := by
  unfold takeElement
  refine @bind _ _ _ _ _ _ inferInstance fun (element, type) => ?_
  dsimp only
  split <;> infer_instance

instance (element : Identifier) (iterable : Expr) :
    Has CheckState.Forgot (checkLoopHead element iterable) := by
  rw [checkLoopHead_eq]; infer_instance

instance [Effect effect] (value : Option Expr) : Has effect (inferOptional value) := by
  unfold inferOptional
  split <;> infer_instance

instance [Effect effect] (expected : ValueType) (info : NodeInfo) (value : Option Expr) :
    Has effect (checkResult expected info value) := by
  unfold checkResult
  refine @bind _ _ _ _ _ _ inferInstance fun value => ?_
  split <;> infer_instance

instance [Effect effect] (info : NodeInfo) (value : Option Expr) :
    Has effect (checkReturn info value) := by
  unfold checkReturn
  refine @bind _ _ _ _ _ _ inferInstance fun state => ?_
  split <;> infer_instance

/-- The end of a function returns its value, whatever problems there are. -/
theorem checkReturn_shape (info : NodeInfo) (value : Option Expr) (state : CheckState) :
    ∃ info', (checkReturn info value state).1 = .ret info' (inferOptional value state).1 := by
  unfold checkReturn
  rw [bind_apply, get_apply]
  dsimp only
  cases state.results with
  | nil => exact ⟨_, rfl⟩
  | cons expected outer =>
      cases value with
      | some value => exact ⟨_, rfl⟩
      | none =>
          change ∃ info', ((do
            let info ←
              if ← fits .none expected then pure info else report (.missingResult expected) info
            return .ret info none : Check Stmt) state).1 = _
          rw [bind_apply]
          split <;> exact ⟨_, rfl⟩

/-- Checking statements reports problems, forgets narrowings and changes nothing else. -/
theorem checkStmt_forgot :
    (∀ stmt, Has CheckState.Forgot (checkStmt stmt)) ∧
      ∀ stmts, Has CheckState.Forgot (checkStmts stmts) := by
  apply Stmt.mutual_induction
  all_goals intros
  all_goals first | unfold checkStmt | unfold checkStmts
  all_goals infer_instance

instance (stmts : List Stmt) : Has CheckState.Forgot (checkStmts stmts) := checkStmt_forgot.2 stmts

/-! ## Declarations -/

instance [Effect effect] (written : WrittenType) : Has effect (resolve written) := by
  induction written with
  | named info name =>
      unfold resolve
      refine @bind _ _ _ _ _ _ inferInstance fun state => ?_
      split <;> infer_instance
  | list info element ih => unfold resolve; infer_instance

instance [Effect effect] (var : TypedVar) : Has effect (resolveVar var) := by
  unfold resolveVar; infer_instance

instance [Effect effect] (vars : List TypedVar) : Has effect (resolveVars vars) := by
  induction vars with
  | nil => unfold resolveVars; infer_instance
  | cons var rest ih => unfold resolveVars; infer_instance

instance [Effect effect] (heading : FunctionHeading) : Has effect (resolveSignature heading) := by
  unfold resolveSignature; infer_instance

theorem declare_of_clash {name : Identifier} {kind : BindingKind} {state : CheckState}
    {error : CheckError} (type : ValueType) (clash : state.clash? name.name kind = some error) :
    declare name type kind state =
      (((reportName error name state).1, false), (reportName error name state).2) := by
  simp only [declare, bind_apply, get_apply, clash]
  rfl

theorem declare_of_free {name : Identifier} {kind : BindingKind} {state : CheckState}
    (type : ValueType) (free : state.clash? name.name kind = none) :
    declare name type kind state =
      ((name, true),
        { state with
          scope := state.scope.define
            { name := name.name, type, kind, span := some name.info.span } }) := by
  simp only [declare, bind_apply, get_apply, free]
  rfl

instance (binding : Binding) : Has CheckState.Defined (modifyScope (·.define binding)) where
  run state := ⟨[binding], [], by simp [modifyScope_apply]⟩

instance (name : Identifier) (type : ValueType) (kind : BindingKind) :
    Has CheckState.Defined (declare name type kind) := by
  unfold declare
  refine @bind _ _ _ _ _ _ inferInstance fun state => ?_
  split <;> infer_instance

instance (var : TypedVar) : Has CheckState.Defined (declareVar var) := by
  unfold declareVar; infer_instance

instance (heading : FunctionHeading) : Has CheckState.Defined (declareFunction heading) := by
  unfold declareFunction; infer_instance

instance (found : Option Binding) (allowed : List BindingKind) (kind : BindingKind)
    (error : CheckError) (info : NodeInfo) (name : Identifier) :
    Has CheckState.Defined (declareOuter found allowed kind error info name) := by
  unfold declareOuter
  split <;> infer_instance

instance (decl : Decl) : Has CheckState.Defined (declareLocal decl) := by
  unfold declareLocal
  split <;> infer_instance

instance (decls : List Decl) : Has CheckState.Defined (declareLocals decls) := by
  induction decls with
  | nil => unfold declareLocals; infer_instance
  | cons decl rest ih => unfold declareLocals; infer_instance

instance (vars : List TypedVar) (types : List ValueType) :
    Has CheckState.Defined (declareParams vars types) := by
  induction vars generalizing types with
  | nil => unfold declareParams; infer_instance
  | cons var rest ih =>
      cases types with
      | nil => unfold declareParams; infer_instance
      | cons type types => unfold declareParams; infer_instance

instance [Effect effect] (result : ValueType) (statements : List Stmt) (recovered : Bool)
    (name : Identifier) : Has effect (demandReturn result statements recovered name) := by
  unfold demandReturn; infer_instance

instance [Effect effect] (info : NodeInfo) (var : TypedVar) (value : Expr) :
    Has effect (checkVarDef info var value) := by
  unfold checkVarDef; infer_instance

instance (result : ValueType) (inner : Check α) [Has CheckState.Forgot inner] :
    Has CheckState.Forgot (returning result inner) where
  run state := by
    obtain ⟨names, found, after⟩ : CheckState.Forgot _ _ :=
      Has.ran inner { state with results := result :: state.results }
    change CheckState.Forgot state
      { (inner { state with results := result :: state.results }).2 with
        results := (inner { state with results := result :: state.results }).2.results.tail }
    exact ⟨names, found, by rw [after]; rfl⟩

/-- What is done in the frame on top of a scope is gone when the frame is left. -/
instance [Effect effect] (kind : FrameKind) (name : String) (inner : Check α)
    [Has (CheckState.OnTop kind) inner] : Has effect (within kind name inner) where
  run state := by
    refine Effect.ofReported ?_
    obtain ⟨scope, found, after, kept⟩ : CheckState.OnTop kind _ _ :=
      Has.ran inner { state with scope := state.scope.enter kind name }
    rw [within_apply]
    exact ⟨found, by simp [after, (kept (state.scope.inside_enter kind name)).leave]⟩

/-- Checks the body of a function. -/
def checkBody (heading : FunctionHeading) (signature : Signature) (declarations : List Decl)
    (statements : List Stmt) : Check (List TypedVar × List Decl × List Stmt) :=
  within .function heading.name.name do
    let params ← declareParams heading.params signature.params
    let headings ← declareLocals declarations
    returning signature.result do
      let declarations ← checkDecls declarations headings
      let statements ← checkStmts statements
      pure (params, declarations, statements)

/-- In the body of a function its parameters come first, then what it declares. -/
theorem checkBody_apply (heading : FunctionHeading) (signature : Signature)
    (declarations : List Decl) (statements : List Stmt) (state : CheckState) :
    (checkBody heading signature declarations statements state).1 =
      let params := declareParams heading.params signature.params
        { state with scope := state.scope.enter .function heading.name.name }
      let headings := declareLocals declarations params.2
      let decls := checkDecls declarations headings.1
        { headings.2 with results := signature.result :: headings.2.results }
      (params.1, decls.1, (checkStmts statements decls.2).1) := rfl

/-- A function is checked in its signature, in its body and at its end. -/
theorem checkDecl_function (info : NodeInfo) (heading looked : FunctionHeading)
    (declarations : List Decl) (statements : List Stmt) (recovered : Bool) :
    checkDecl (.funcDef info heading declarations statements recovered) (.function looked) = (do
      let resolved ← resolveSignature looked
      let body ← checkBody resolved.1 resolved.2 declarations statements
      let name ← demandReturn resolved.2.result body.2.2 recovered resolved.1.name
      return .funcDef info { resolved.1 with name, params := body.1 } body.2.1 body.2.2
        recovered) := by
  unfold checkDecl
  rfl

/--
Induction over declarations with headings.  A declaration whose heading is of another sort is left
as it is, and so are declarations that have no headings.
-/
theorem checkDecl_induction {one : Decl → Heading → Prop}
    {all : List Decl → List Heading → Prop}
    (varDef : ∀ info var value looked, one (.varDef info var value) (.variable looked))
    (funcDef : ∀ info heading declarations statements recovered looked,
      (∀ headings, all declarations headings) →
        one (.funcDef info heading declarations statements recovered) (.function looked))
    (classDef : ∀ info name superclass declarations called parent headings,
      all declarations headings →
        one (.classDef info name superclass declarations) (.ofClass called parent headings))
    (globalDecl : ∀ info name node looked, one (.globalDecl info name) (.outer node looked))
    (nonlocalDecl : ∀ info name node looked, one (.nonlocalDecl info name) (.outer node looked))
    (mismatch : ∀ decl heading, checkDecl decl heading = pure decl → one decl heading)
    (cons : ∀ decl rest heading headings, one decl heading → all rest headings →
      all (decl :: rest) (heading :: headings))
    (exhausted : ∀ decls headings, checkDecls decls headings = pure decls → all decls headings) :
    (∀ decl heading, one decl heading) ∧ ∀ decls headings, all decls headings := by
  refine checkDecl.mutual_induct one all varDef funcDef classDef globalDecl nonlocalDecl ?_ cons ?_
  · intro decl heading noVar noFunction noClass noGlobal noNonlocal
    refine mismatch decl heading ?_
    rw [checkDecl]
    all_goals assumption
  · intro decls headings notBoth
    refine exhausted decls headings ?_
    rw [checkDecls]
    assumption

attribute [local instance] Has.ofReported in
/-- Checking declarations whose headings have been looked at only reports problems. -/
theorem checkDecl_reported :
    (∀ decl heading, Has CheckState.Reported (checkDecl decl heading)) ∧
      ∀ decls headings, Has CheckState.Reported (checkDecls decls headings) := by
  apply checkDecl_induction
  case mismatch | exhausted =>
    intro _ _ same
    rw [same]
    infer_instance
  all_goals intros
  all_goals first | unfold checkDecl | unfold checkDecls
  all_goals infer_instance

instance [Effect effect] (decl : Decl) (heading : Heading) :
    Has effect (checkDecl decl heading) :=
  @Has.ofReported _ _ _ _ (checkDecl_reported.1 decl heading)

instance [Effect effect] (decls : List Decl) (headings : List Heading) :
    Has effect (checkDecls decls headings) :=
  @Has.ofReported _ _ _ _ (checkDecl_reported.2 decls headings)

instance [Effect effect] (heading : FunctionHeading) (signature : Signature)
    (declarations : List Decl) (statements : List Stmt) :
    Has effect (checkBody heading signature declarations statements) := by
  unfold checkBody; infer_instance

/-! ## Classes -/

instance (info : ClassInfo) (var : TypedVar) :
    Has CheckState.Defined (declareAttribute info var) := by
  unfold declareAttribute; infer_instance

/-- Reports a method that does not fit its class. -/
def demandMethod (info : ClassInfo) (signature : Signature) (name : Identifier) :
    Check Identifier := do
  match (← get).hierarchy.methodError? info name.name signature with
  | some error => reportName error name
  | none => return name

/-- A method is added to its class when its name is bound, even if it does not fit the class. -/
theorem declareMethod_eq (info : ClassInfo) (heading : FunctionHeading) :
    declareMethod info heading = (do
      let (heading, signature) ← resolveSignature heading
      let (name, bound) ← declare heading.name signature.type .function
      if !bound then return (info, { heading with name })
      else
        let name ← demandMethod info signature name
        return ({ info with methods := info.methods.insert name.name signature },
          { heading with name })) := by
  funext state
  simp only [declareMethod, demandMethod, bind_apply]
  generalize resolveSignature heading state = resolved
  obtain ⟨⟨heading, signature⟩, resolved⟩ := resolved
  dsimp only
  generalize declare heading.name signature.type .function resolved = declared
  obtain ⟨⟨name, bound⟩, declared⟩ := declared
  cases bound with
  | false => rfl
  | true =>
      simp only [bind_apply, get_apply, Bool.not_true, Bool.false_eq_true, if_false]
      cases declared.hierarchy.methodError? info name.name signature <;> rfl

instance [Effect effect] (info : ClassInfo) (signature : Signature) (name : Identifier) :
    Has effect (demandMethod info signature name) := by
  unfold demandMethod
  refine @bind _ _ _ _ _ _ inferInstance fun state => ?_
  split <;> infer_instance

instance (info : ClassInfo) (heading : FunctionHeading) :
    Has CheckState.Defined (declareMethod info heading) := by
  rw [declareMethod_eq]; infer_instance

/-- Adds the member that a declaration declares to a class. -/
def declareMember (info : ClassInfo) : Decl → Check (ClassInfo × Heading)
  | .varDef _ var _ => do
    let (info, var) ← declareAttribute info var
    return (info, .variable var)
  | .funcDef _ heading _ _ _ => do
    let (info, heading) ← declareMethod info heading
    return (info, .function heading)
  | decl => return (info, decl.heading)

/-- Members are declared one after the other. -/
theorem declareMembers_cons (info : ClassInfo) (decl : Decl) (rest : List Decl) :
    declareMembers info (decl :: rest) = (do
      let (info, heading) ← declareMember info decl
      let (info, rest) ← declareMembers info rest
      return (info, heading :: rest)) := by
  cases decl <;> rfl

instance (info : ClassInfo) (decl : Decl) : Has CheckState.Defined (declareMember info decl) := by
  unfold declareMember
  split <;> infer_instance

instance (info : ClassInfo) (decls : List Decl) :
    Has CheckState.Defined (declareMembers info decls) := by
  induction decls generalizing info with
  | nil => unfold declareMembers; infer_instance
  | cons decl rest ih => rw [declareMembers_cons]; infer_instance

instance [Effect effect] (name : Identifier) : Has effect (resolveSuperclass name) := by
  unfold resolveSuperclass
  refine @bind _ _ _ _ _ _ inferInstance fun state => ?_
  split <;> infer_instance

instance (info : ClassInfo) :
    Has CheckState.Grown
      (modify fun state => { state with hierarchy := state.hierarchy.add info } : Check Unit) where
  run _ := List.prefix_rfl

instance (name superclass : Identifier) (members : List Decl) :
    Has CheckState.Grown (declareClass name superclass members) := by
  unfold declareClass
  refine @bind _ _ _ _ _ _ inferInstance fun (superclass, parent) => ?_
  refine @bind _ _ _ _ _ _ inferInstance fun (name, bound) => ?_
  refine @bind _ _ _ _ _ _ inferInstance fun (info, members) => ?_
  infer_instance

instance (decl : Decl) : Has CheckState.Grown (declareGlobal decl) := by
  unfold declareGlobal
  split <;> infer_instance

instance (decls : List Decl) : Has CheckState.Grown (declareGlobals decls) := by
  induction decls with
  | nil => unfold declareGlobals; infer_instance
  | cons decl rest ih => unfold declareGlobals; infer_instance

end Check

/-!
## The passes of checking a program

A program is checked in two passes.  The first declares what the declarations at the top level
declare; the classes that are known after it are those of the program.  The second checks bodies
and statements, and the classes do not change any more.
-/

namespace Check

/-- Makes known what is present in every program, and the names of the classes to come. -/
def announce (program : Program) : Check Unit := do
  declareBuiltins
  announceClasses (definedClasses program.declarations)
  settleTypeNames none

end Check

namespace Program

variable (program : Program)

/-- The names of the classes of every program and of those that the program defines. -/
def classNames : List String :=
  "object" :: ValueType.specialClasses ++ definedClasses program.declarations

/-- What is known before the declarations of the program. -/
def announced : CheckState := (Check.announce program {}).2

/-- What the first pass returns and what is known after it. -/
def declared : List Heading × CheckState :=
  Check.declareGlobals program.declarations program.announced

/-- The classes of the program, as they are known after the first pass. -/
def hierarchy : ClassHierarchy := program.declared.2.hierarchy

/-- What the second pass makes of the declarations, and what is known after them. -/
def checkedDeclarations : List Decl × CheckState :=
  Check.checkDecls program.declarations program.declared.1 program.declared.2

/-- What the second pass makes of the statements, and what is known at the end. -/
def checkedStatements : List Stmt × CheckState :=
  Check.checkStmts program.statements program.checkedDeclarations.2

theorem check_eq : program.check =
    { program with
      declarations := program.checkedDeclarations.1
      statements := program.checkedStatements.1
      errors := program.errors ++ program.checkedStatements.2.problems.map Located.toDiagnostic } :=
  rfl

/-- Before the declarations of a program no problem is found and no function is at hand. -/
theorem announced_eq : program.announced =
    { scope := ClassHierarchy.initial.builtinBindings.foldl Scope.define {}
      classNames := "object" :: ValueType.specialClasses ++ definedClasses program.declarations
      typeNames := "object" :: ValueType.specialClasses ++ definedClasses program.declarations } :=
  rfl

/-- A program is accepted if it was read without an error and neither pass finds a problem. -/
theorem errors_check_eq_nil_iff : program.check.errors = [] ↔
    program.errors = [] ∧ program.checkedStatements.2.problems = [] := by
  rw [check_eq]
  simp

/-- The first pass finds no problem in a program that is accepted. -/
theorem declared_clean {program : Program} (accepted : program.check.errors = []) :
    program.declared.2.problems = [] := by
  have clean := (program.errors_check_eq_nil_iff.mp accepted).2
  have first : program.declared.2.problems <+: program.checkedDeclarations.2.problems :=
    @Check.Has.ran _ CheckState.Grown (Check.checkDecls program.declarations program.declared.1) _ _
  have second : program.checkedDeclarations.2.problems <+: program.checkedStatements.2.problems :=
    @Check.Has.ran _ CheckState.Grown (Check.checkStmts program.statements) _ _
  exact List.prefix_nil.mp (clean ▸ first.trans second)

/-- The classes known after the first pass are those known at the end. -/
theorem hierarchy_checkedStatements :
    program.checkedStatements.2.hierarchy = program.hierarchy := by
  obtain ⟨found, declarations⟩ : program.declared.2.Reported program.checkedDeclarations.2 :=
    Check.Has.ran (Check.checkDecls program.declarations program.declared.1) _
  obtain ⟨names, more, statements⟩ :
      program.checkedDeclarations.2.Forgot program.checkedStatements.2 :=
    Check.Has.ran (Check.checkStmts program.statements) _
  rw [statements, declarations]
  rfl

end Program
end ChocoLang
