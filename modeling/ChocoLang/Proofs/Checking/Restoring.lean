import ChocoLang.Proofs.Checking.Bare.Statement
import ChocoLang.Proofs.Checking.Classes.Program
import ChocoLang.Proofs.Checking.Headings
import ChocoLang.Proofs.Checking.Overriding
import ChocoLang.Proofs.Typing.Lookups

/-!
# The scope after a visit

Whatever is checked, and whatever is found wrong with it, the scope afterwards is the scope before,
except that the narrowings of the variables that were assigned are dropped in the branches around
the place.  A function leaves no trace at all in the scope around it, as a declaration never stands
in a branch.
-/

namespace ChocoLang

/-! ## Names that may be assigned -/

namespace Scope

/-- A name may be assigned: the function or program around the place binds it to a variable. -/
def accepts (scope : Scope) (name : String) : Bool :=
  ((scope.lookupLocal name).filter (·.kind.isAssignable)).isSome

/-- Those of the names that may be assigned. -/
def accepted (scope : Scope) (names : List Identifier) : List String :=
  (names.map Identifier.name).filter scope.accepts

variable {scope other : Scope}

theorem accepts_forgetAll (scope : Scope) (names : List String) :
    (names.foldl forget scope).accepts = scope.accepts := by
  refine forgetAll_congr accepts (fun scope name => funext fun other => ?_) scope names
  rw [accepts, lookupLocal_forget, accepts]

theorem accepted_congr (same : other.accepts = scope.accepts) (names : List Identifier) :
    other.accepted names = scope.accepted names := by
  rw [accepted, same, accepted]

theorem accepted_append (scope : Scope) (names others : List Identifier) :
    scope.accepted (names ++ others) = scope.accepted names ++ scope.accepted others := by
  simp [accepted]

theorem mem_accepted {names : List Identifier} {name : String} :
    name ∈ scope.accepted names ↔ (∃ target ∈ names, target.name = name) ∧ scope.accepts name := by
  simp [accepted]

end Scope

namespace CheckState

/--
The scope is restored but for the narrowings, in the branches around the place, of variables that
were assigned.
-/
structure Restored (assigned : String → Prop) (before after : CheckState) : Prop where
  /-- The frames belong to the same, in the same order. -/
  owners : after.scope.owners = before.scope.owners
  /-- The functions around the place have the same results. -/
  results : after.results = before.results
  /-- The frame of the program is the same. -/
  outermost : after.scope.outermost = before.scope.outermost
  /-- What else is bound in a frame than a narrowing is the same. -/
  bindings : ∀ depth name binding, binding.kind ≠ .narrowed →
    (after.scope.boundAt? depth name = some binding ↔
      before.scope.boundAt? depth name = some binding)
  /-- A narrowing is dropped if it is in a branch around the place and the variable assigned. -/
  narrowings : ∀ depth name binding, binding.kind = .narrowed →
    (after.scope.boundAt? depth name = some binding ↔
      before.scope.boundAt? depth name = some binding ∧
        ¬ (depth < before.scope.branches.length ∧ assigned name))

theorem Restored.congr {assigned other : String → Prop} {before after : CheckState}
    (restored : before.Restored assigned after) (same : ∀ name, assigned name ↔ other name) :
    before.Restored other after := by
  obtain rfl : assigned = other := funext fun name => propext (same name)
  exact restored

/-- Problems are found, and those of the names that may be assigned are forgotten. -/
def Ended (names : List Identifier) (before after : CheckState) : Prop :=
  ∃ found, after =
    { before with
      scope := (before.scope.accepted names).foldl Scope.forget before.scope
      problems := before.problems ++ found }

theorem Ended.restored {names : List Identifier} {before after : CheckState}
    (ended : before.Ended names after) :
    before.Restored (fun name => (∃ target ∈ names, target.name = name) ∧
      before.scope.accepts name) after := by
  obtain ⟨found, rfl⟩ := ended
  refine ⟨Scope.forgetAll_congr Scope.owners Scope.owners_forget _ _, rfl,
    Scope.forgetAll_congr Scope.outermost (fun _ _ => rfl) _ _,
    fun depth name binding other => ?_, fun depth name binding narrowed => ?_⟩
  · rw [Scope.boundAt?_forgetAll]
    simp [other]
  · rw [Scope.boundAt?_forgetAll, Scope.mem_accepted]
    simp [narrowed]

theorem Reported.ended {before after : CheckState} (reported : before.Reported after) :
    before.Ended [] after := reported

theorem Ended.trans {names others : List Identifier} {first second third : CheckState}
    (before : first.Ended names second) (behind : second.Ended others third) :
    first.Ended (names ++ others) third := by
  obtain ⟨found, rfl⟩ := before
  obtain ⟨more, rfl⟩ := behind
  refine ⟨found ++ more, ?_⟩
  -- What was forgotten first does not matter for which names may be assigned.
  rw [Scope.accepted_append, List.foldl_append,
    Scope.accepted_congr (first.scope.accepts_forgetAll _) others, List.append_assoc]

/-- Outside all branches a visit that only reports problems restores everything. -/
theorem Reported.restored {before after : CheckState} (reported : before.Reported after)
    (outside : before.scope.branches = []) (assigned : String → Prop) :
    before.Restored assigned after := by
  obtain ⟨found, rfl⟩ := reported
  exact ⟨rfl, rfl, rfl, fun _ _ _ _ => Iff.rfl, fun _ _ _ _ => by simp [outside]⟩

end CheckState

namespace Check

variable {α β : Type} {names others : List Identifier}

/-! ## What visits forget -/

/-- In every state the action forgets those of the names that may be assigned. -/
def Ends (names : List Identifier) (action : Check α) : Prop :=
  ∀ state, CheckState.Ended names state (action state).2

namespace Ends

variable {action : Check α} {next : α → Check β}

theorem of_reported (action : Check α) [Has CheckState.Reported action] : Ends [] action :=
  fun state => CheckState.Reported.ended (Has.ran action state)

theorem bind (first : Ends names action) (second : ∀ value, Ends others (next value)) :
    Ends (names ++ others) (action >>= next) :=
  fun state => (first state).trans (second _ _)

/-- What only reports problems may come first. -/
theorem behind [Has CheckState.Reported action] (second : ∀ value, Ends names (next value)) :
    Ends names (action >>= next) :=
  bind (of_reported action) second

/-- What only reports problems may come last. -/
theorem before (first : Ends names action) (quiet : ∀ value, Has CheckState.Reported (next value)) :
    Ends names (action >>= next) := by
  have both := first.bind fun value => of_reported (next value)
  rwa [List.append_nil] at both

/-- What is forgotten in a branch is forgotten around it. -/
theorem assuming (condition : Expr) (inside : Ends names action) :
    Ends names (assuming condition action) := by
  intro state
  cases absent : state.absentVariable? condition with
  | none =>
      rw [assuming_of_none action absent]
      exact inside state
  | some name =>
      rw [assuming_of_some action absent]
      obtain ⟨found, after⟩ := inside { state with scope := state.scope.assumeAbsent name }
      -- A branch is seen through when a name is assigned.
      have same : (state.scope.assumeAbsent name).accepts = state.scope.accepts := rfl
      refine ⟨found, ?_⟩
      simp [after, Scope.accepted_congr same,
        ((state.scope.inside_assumeAbsent name).forgetAll_branch _).leave]

end Ends

theorem assignName_ends (name : Identifier) : Ends [name] (assignName name) := by
  intro state
  cases found : (state.scope.lookupLocal name.name).filter (·.kind.isAssignable) with
  | none =>
      have nothing : state.scope.accepted [name] = [] := by
        simp [Scope.accepted, Scope.accepts, found]
      obtain ⟨reports, after⟩ : CheckState.Reported _ _ :=
        Has.ran (settle (.wrong (.notAssignable name.name)) name.info) state
      rw [assignName_of_none found, CheckState.Ended, nothing]
      exact ⟨reports, after⟩
  | some binding =>
      have own : state.scope.accepted [name] = [name.name] := by
        simp [Scope.accepted, Scope.accepts, found]
      obtain ⟨reports, after⟩ : CheckState.Reported _ _ :=
        Has.ran (settle { type := binding.type } name.info)
          { state with scope := state.scope.forget name.name }
      rw [assignName_of_some found, CheckState.Ended, own]
      exact ⟨reports, after⟩

theorem assignTarget_ends (target : Expr) : Ends target.targetNames (assignTarget target) := by
  cases target with
  | name identifier => exact (assignName_ends identifier).before fun _ => inferInstance
  | index info container position => exact .of_reported (assignElement info container position)
  | _ => exact .behind fun _ => .of_reported _

theorem assignAll_ends (value : ValueType) (info : NodeInfo) (targets : List Expr) :
    Ends (targets.flatMap Expr.targetNames) (assignAll value info targets) := by
  induction targets generalizing info with
  | nil => exact .of_reported (pure ([], info))
  | cons target rest ih =>
      rw [assignAll_cons]
      exact (assignTarget_ends target).bind fun assigned => .behind fun info =>
        (ih info).before fun _ => inferInstance

theorem checkAssignment_ends (info : NodeInfo) (targets : List Expr) (value : Expr) :
    Ends (targets.flatMap Expr.targetNames) (checkAssignment info targets value) := by
  rw [checkAssignment_eq]
  exact .behind fun value => .behind fun info =>
    (assignAll_ends value.type info targets).before fun _ => inferInstance

theorem takeElement_ends (iteration : Iteration) (element : Identifier) (iterable : Expr) :
    Ends [element] (takeElement iteration element iterable) := by
  refine (assignName_ends element).before ?_
  rintro ⟨assigned, type⟩
  dsimp only
  split <;> infer_instance

theorem checkLoopHead_ends (element : Identifier) (iterable : Expr) :
    Ends [element] (checkLoopHead element iterable) := by
  rw [checkLoopHead_eq]
  exact .behind fun iterable => .behind fun checked => takeElement_ends _ element checked

/-- Checking statements forgets the variables that are assigned in them. -/
theorem checkStmt_ends :
    (∀ stmt : Stmt, Ends stmt.assigned (checkStmt stmt)) ∧
      ∀ stmts : List Stmt, Ends (Stmt.assignedIn stmts) (checkStmts stmts) := by
  apply Stmt.mutual_induction
  case expr =>
    intro info value
    unfold checkStmt
    exact .behind fun _ => .of_reported _
  case assign =>
    intro info targets value
    unfold checkStmt
    exact checkAssignment_ends info targets value
  case ifElse =>
    intro info condition thenBody elseBody ihThen ihElse
    unfold checkStmt
    exact .behind fun condition => (ihThen.assuming condition).bind fun _ =>
      ihElse.before fun _ => inferInstance
  case whileLoop =>
    intro info condition body ih
    unfold checkStmt
    exact .behind fun _ => ih.before fun _ => inferInstance
  case forLoop =>
    intro info element iterable body ih
    unfold checkStmt
    exact (checkLoopHead_ends element iterable).bind fun _ => ih.before fun _ => inferInstance
  case ret =>
    intro info value
    unfold checkStmt
    exact .of_reported (checkReturn info value)
  case nil =>
    unfold checkStmts
    exact .of_reported (pure [])
  case cons =>
    intro stmt rest ihStmt ihRest
    unfold checkStmts
    exact ihStmt.bind fun _ => ihRest.before fun _ => inferInstance

end Check

/-! ## Names that cannot be assigned -/

/--
The name has been checked where it is assigned: that it cannot be assigned is noted at it if, and
only if, it may not be assigned, provided that no other problem is known of it.
-/
structure Identifier.TriedAs (accepts : String → Bool) (name checked : Identifier) : Prop where
  /-- It is the same name. -/
  same : checked.name = name.name
  /-- A name that may be assigned is not newly refused. -/
  accepted : accepts name.name = true → checked.Refused → name.Refused
  /-- A name that may not be assigned is refused unless another problem is known of it. -/
  refused : accepts name.name = false → checked.info.error =
    some (name.info.error.getD (CheckError.notAssignable name.name).message)

theorem Identifier.TriedAs.refused_iff {accepts : String → Bool} {name checked : Identifier}
    (tried : name.TriedAs accepts checked) (fresh : name.info.error = none) :
    checked.Refused ↔ accepts name.name = false := by
  refine ⟨fun refused => ?_, fun declined => ?_⟩
  · by_contra accepted
    have before := tried.accepted (by simpa using accepted) refused
    rw [Identifier.Refused, fresh] at before
    cases before
  · rw [Identifier.Refused, tried.refused declined, fresh, tried.same]
    rfl

/-- The same names may be assigned as before. -/
def CheckState.Accepting (accepts : String → Bool) (state : CheckState) : Prop :=
  state.scope.accepts = accepts

theorem CheckState.Accepting.forgot {accepts : String → Bool} {before after : CheckState}
    (accepting : before.Accepting accepts) (forgot : before.Forgot after) :
    after.Accepting accepts := by
  obtain ⟨names, found, rfl⟩ := forgot
  exact (before.scope.accepts_forgetAll names).trans accepting

namespace Check

variable {accepts : String → Bool}

theorem message_mismatch_ne (expected actual : ValueType) (name : String) :
    (CheckError.mismatch expected actual).message ≠ (CheckError.notAssignable name).message := by
  have misfit : (CheckError.mismatch expected actual).message.toList.head? = some 'T' :=
    head?_append (head?_append (head?_append (by decide +kernel) _) _) _
  have refusal : (CheckError.notAssignable name).message.toList.head? = some 'C' :=
    head?_append (head?_append (by decide +kernel) _) _
  exact ne_of_head? (by simp [misfit, refusal])

theorem assignName_tried (name : Identifier) (state : CheckState) :
    name.TriedAs state.scope.accepts (assignName name state).1.1 ∧
      (assignName name state).1.2.isSome = state.scope.accepts name.name := by
  cases found : (state.scope.lookupLocal name.name).filter (·.kind.isAssignable) with
  | none =>
      have declined : state.scope.accepts name.name = false := by simp [Scope.accepts, found]
      rw [assignName_of_none found]
      refine ⟨⟨rfl, fun accepted => ?_, fun _ => reportExpr_error_eq _ name.info state⟩, declined.symm⟩
      cases declined.symm.trans accepted
  | some binding =>
      have accepted : state.scope.accepts name.name = true := by simp [Scope.accepts, found]
      rw [assignName_of_some found]
      refine ⟨⟨rfl, fun _ => id, fun declined => ?_⟩, accepted.symm⟩
      cases accepted.symm.trans declined

/-- A misfit is not a refusal. -/
theorem refused_of_demandFit {expected actual : ValueType} {info : NodeInfo} {state : CheckState}
    {name : String} (refused : (demandFit expected actual info state).1.error =
      some (CheckError.notAssignable name).message) :
    info.error = some (CheckError.notAssignable name).message := by
  rw [demandFit, bind_apply] at refused
  split at refused
  · exact refused
  · rw [report_apply] at refused
    split at refused
    · exact refused
    · exact absurd (Option.some.inj refused) (message_mismatch_ne expected actual name)

theorem takeElement_tried (iteration : Iteration) (element : Identifier) (iterable : Expr)
    (state : CheckState) : element.TriedAs state.scope.accepts
      (takeElement iteration element iterable state).1.1 := by
  obtain ⟨tried, typed⟩ := assignName_tried element state
  unfold takeElement
  rw [bind_apply]
  generalize assignName element state = assigned at tried typed ⊢
  obtain ⟨⟨assigned, type⟩, after⟩ := assigned
  cases type with
  | none => exact tried
  | some expected =>
      cases iteration.type? with
      | none => exact tried
      | some actual =>
          refine ⟨tried.same, fun accepted refused => ?_, fun declined => ?_⟩
          · exact tried.accepted accepted (refused_of_demandFit refused)
          · cases typed.trans declined

/-- An action that ends narrowings at most leaves the same names assignable. -/
theorem accepting_of_forgot {α : Type} {good : α → Prop} {action : Check α}
    [Has CheckState.Forgot action]
    (holds : ∀ state : CheckState, state.Accepting accepts → good (action state).1) :
    Maintains (CheckState.Accepting accepts) action good :=
  .of_forgot CheckState.Accepting.forgot holds

theorem accepting_any {α : Type} {action : Check α} [Has CheckState.Forgot action] :
    Maintains (CheckState.Accepting accepts) action fun _ => True :=
  accepting_of_forgot fun _ _ => trivial

theorem assignTarget_tried (target : Expr) :
    Maintains (CheckState.Accepting accepts) (assignTarget target) fun assigned =>
      List.Forall₂ (Identifier.TriedAs accepts) target.targetNames assigned.1.targetNames := by
  refine accepting_of_forgot fun state accepting => ?_
  cases target with
  | name identifier =>
      obtain rfl := accepting
      exact .cons (assignName_tried identifier state).1 .nil
  | _ =>
      rw [targetNames_of_bare (assignTarget_bare _ state)]
      · exact .nil
      · exact fun _ => nofun

theorem assignAll_tried (value : ValueType) (info : NodeInfo) (targets : List Expr) :
    Maintains (CheckState.Accepting accepts) (assignAll value info targets) fun assigned =>
      List.Forall₂ (Identifier.TriedAs accepts) (targets.flatMap Expr.targetNames)
        (assigned.1.flatMap Expr.targetNames) := by
  induction targets generalizing info with
  | nil => exact .pure .nil
  | cons target rest ih =>
      rw [assignAll_cons]
      exact (assignTarget_tried target).bind fun assigned first => accepting_any.bind fun info _ =>
        (ih info).bind fun later others => .pure (List.rel_append first others)

theorem checkAssignment_tried (info : NodeInfo) (targets : List Expr) (value : Expr) :
    Maintains (CheckState.Accepting accepts) (checkAssignment info targets value) fun checked =>
      List.Forall₂ (Identifier.TriedAs accepts) (targets.flatMap Expr.targetNames)
        checked.assigned := by
  rw [checkAssignment_eq]
  exact accepting_any.bind fun value _ => accepting_any.bind fun info _ =>
    (assignAll_tried value.type info targets).bind fun assigned tried => .pure tried

theorem checkLoopHead_tried (element : Identifier) (iterable : Expr) :
    Maintains (CheckState.Accepting accepts) (checkLoopHead element iterable) fun head =>
      element.TriedAs accepts head.1 := by
  rw [checkLoopHead_eq]
  refine accepting_any.bind fun iterable _ => accepting_any.bind fun checked _ =>
    accepting_of_forgot fun state accepting => ?_
  obtain rfl := accepting
  exact takeElement_tried _ element checked state

/-- The names that are assigned in statements are refused where they may not be assigned. -/
theorem checkStmt_tried :
    (∀ stmt : Stmt, Maintains (CheckState.Accepting accepts) (checkStmt stmt) fun checked =>
      List.Forall₂ (Identifier.TriedAs accepts) stmt.assigned checked.assigned) ∧
    ∀ stmts : List Stmt, Maintains (CheckState.Accepting accepts) (checkStmts stmts) fun checked =>
      List.Forall₂ (Identifier.TriedAs accepts) (Stmt.assignedIn stmts)
        (Stmt.assignedIn checked) := by
  apply Stmt.mutual_induction
  case expr =>
    intro info value
    unfold checkStmt
    exact accepting_any.bind fun value _ => .pure .nil
  case assign =>
    intro info targets value
    unfold checkStmt
    exact checkAssignment_tried info targets value
  case ifElse =>
    intro info condition thenBody elseBody ihThen ihElse
    unfold checkStmt
    exact accepting_any.bind fun condition _ =>
      (ihThen.assuming CheckState.Accepting.forgot fun _ _ => id).bind fun thenBody first =>
        ihElse.bind fun elseBody second => .pure (List.rel_append first second)
  case whileLoop =>
    intro info condition body ih
    unfold checkStmt
    exact accepting_any.bind fun condition _ => ih.bind fun body inner => .pure inner
  case forLoop =>
    intro info element iterable body ih
    unfold checkStmt
    exact (checkLoopHead_tried element iterable).bind fun head own =>
      ih.bind fun body inner => .pure (.cons own inner)
  case ret =>
    intro info value
    unfold checkStmt
    refine accepting_of_forgot fun state _ => ?_
    obtain ⟨info', shape⟩ := checkReturn_shape info value state
    rw [shape]
    exact .nil
  case nil =>
    unfold checkStmts
    exact .pure .nil
  case cons =>
    intro stmt rest ihStmt ihRest
    unfold checkStmts
    exact ihStmt.bind fun stmt first => ihRest.bind fun rest others =>
      .pure (List.rel_append first others)

/-- The names that are assigned and not refused are those that may be assigned. -/
theorem exists_unrefused_iff {names checked : List Identifier}
    (tried : List.Forall₂ (Identifier.TriedAs accepts) names checked)
    (fresh : ∀ target ∈ names, target.info.error = none) (name : String) :
    (∃ target ∈ checked, target.name = name ∧ ¬ target.Refused) ↔
      (∃ target ∈ names, target.name = name) ∧ accepts name = true := by
  induction tried with
  | nil => simp
  | cons first _ ih =>
      obtain ⟨freshFirst, others⟩ := List.forall_mem_cons.mp fresh
      simp only [List.exists_mem_cons_iff, ih others, first.same, first.refused_iff freshFirst,
        or_and_right, Bool.not_eq_false]
      refine or_congr_left (and_congr_right ?_)
      rintro rfl
      rfl

end Check

/-! ## Visits of declarations -/

/-- A visit of a declaration. -/
structure Visit where
  /-- The declaration. -/
  decl : Decl
  /-- Its heading, which has been looked at. -/
  heading : Heading
  /-- What is known when the visit begins. -/
  state : CheckState

namespace Check

/-- Opens the frame of a function, and binds in it what the function declares. -/
def openBody (looked : FunctionHeading) (declarations : List Decl) : Check (List Heading) := do
  let (heading, signature) ← resolveSignature looked
  modifyScope (·.enter .function heading.name.name)
  let _ ← declareParams heading.params signature.params
  let headings ← declareLocals declarations
  modify fun state => { state with results := signature.result :: state.results }
  return headings

mutual

/-- The visits that are made in the course of a visit. -/
def visitsWithin : Decl → Heading → CheckState → List Visit
  | .funcDef _ _ declarations _ _, .function looked, state =>
    let opened := openBody looked declarations state
    visits declarations opened.1 opened.2
  | .classDef _ _ _ members, .ofClass _ _ headings, state => visits members headings state
  | _, _, _ => []

/-- The visits of declarations, one after the other, and those made in their course. -/
def visits : List Decl → List Heading → CheckState → List Visit
  | decl :: rest, heading :: headings, state =>
    ⟨decl, heading, state⟩ :: visitsWithin decl heading state ++
      visits rest headings (checkDecl decl heading state).2
  | _, _, _ => []

end

/-- A function is checked in the frame that is opened for it; at the end the frame is left. -/
theorem checkDecl_openBody (info : NodeInfo) (heading looked : FunctionHeading)
    (declarations : List Decl) (statements : List Stmt) (recovered : Bool) (state : CheckState) :
    let resolved := (resolveSignature looked state).1
    let opened := openBody looked declarations state
    let body := checkStmts statements (checkDecls declarations opened.1 opened.2).2
    (checkDecl (.funcDef info heading declarations statements recovered) (.function looked)
        state).2 =
      (demandReturn resolved.2.result body.1 recovered resolved.1.name
        { body.2 with scope := body.2.scope.leave, results := body.2.results.tail }).2 := by
  rw [checkDecl_function]
  rfl

/-- In the frame that is opened for a function there are no branches yet. -/
theorem branches_openBody (looked : FunctionHeading) (declarations : List Decl)
    (state : CheckState) : (openBody looked declarations state).2.scope.branches = [] := by
  let resolved := resolveSignature looked state
  let entered : CheckState :=
    { resolved.2 with scope := resolved.2.scope.enter .function resolved.1.1.name.name }
  let declared : Check (List Heading) := do
    let _ ← declareParams resolved.1.1.params resolved.1.2.params
    declareLocals declarations
  have inside : Scope.Inside .function resolved.2.scope (declared entered).2.scope := by
    obtain ⟨bindings, found, after⟩ : CheckState.Defined entered (declared entered).2 :=
      Has.ran declared entered
    rw [after]
    exact (resolved.2.scope.inside_enter .function _).defineAll bindings
  obtain ⟨⟨frame, kind, inner⟩, -⟩ := inside
  change (declared entered).2.scope.branches = []
  rw [Scope.branches, inner, List.takeWhile_cons_of_neg (by simp [kind])]

/-- Declarations are only visited outside all branches. -/
theorem branches_of_mem_visits :
    (∀ decl heading state, state.scope.branches = [] →
      ∀ visit ∈ visitsWithin decl heading state, visit.state.scope.branches = []) ∧
    ∀ decls headings state, state.scope.branches = [] →
      ∀ visit ∈ visits decls headings state, visit.state.scope.branches = [] := by
  apply Decl.mutual_induction
  case varDef | globalDecl | nonlocalDecl =>
    intros
    rename_i among
    unfold visitsWithin at among
    cases among
  case funcDef =>
    intro info heading declarations statements recovered ih heading' state _
    match heading' with
    | .function looked =>
        unfold visitsWithin
        exact ih _ _ (branches_openBody looked declarations state)
    | .variable _ | .ofClass _ _ _ | .outer _ _ => simp [visitsWithin]
  case classDef =>
    intro info name superclass members ih heading state outside
    match heading with
    | .ofClass called parent headings =>
        unfold visitsWithin
        -- The members of a class are visited in the frame around it.
        exact ih headings state outside
    | .variable _ | .function _ | .outer _ _ => simp [visitsWithin]
  case nil => simp [visits]
  case cons =>
    intro decl rest ihDecl ihRest headings state outside
    cases headings with
    | nil => simp [visits]
    | cons heading headings =>
        unfold visits
        have later : (checkDecl decl heading state).2.scope.branches = [] := by
          rwa [scope_apply (checkDecl decl heading)]
        exact List.forall_mem_append.mpr
          ⟨List.forall_mem_cons.mpr ⟨outside, ihDecl heading state outside⟩,
            ihRest headings _ later⟩

end Check

namespace Checker

/-- The visits of declarations in the second pass over a program that is put to a checker. -/
def visits (checker : Checker) (submission : Submission) : List Visit :=
  let declared := Check.declareAll submission.typeNames submission.program checker.state
  Check.visits submission.program.declarations declared.1 declared.2

/--
Whatever is checked, in whatever state, and whatever is wrong with it, the scope is restored.
An expression leaves it as it was.  A statement takes from the branches around it the narrowings of
those variables that it assigns and that may be assigned; all others that it assigns are refused.
A declaration that is visited leaves the scope as it was, as there are no branches around it.
-/
theorem visits_restore (earlier : List Submission) (submission : Submission) :
    (∀ expr state, CheckState.Restored (fun _ => False) state (Check.infer expr state).2) ∧
    (∀ stmt state,
      let checked := Check.checkStmt stmt state
      List.Forall₂ (Identifier.TriedAs state.scope.accepts) stmt.assigned checked.1.assigned ∧
        state.Restored (fun name => (∃ target ∈ stmt.assigned, target.name = name) ∧
          state.scope.accepts name) checked.2 ∧
        ((∀ target ∈ stmt.assigned, target.info.error = none) →
          state.Restored (fun name => ∃ target ∈ checked.1.assigned, target.name = name ∧
            ¬ target.Refused) checked.2)) ∧
    ∀ visit ∈ (after earlier).visits submission, ∀ assigned,
      visit.state.Restored assigned (Check.checkDecl visit.decl visit.heading visit.state).2 := by
  refine ⟨fun expr state => ?_, fun stmt state => ?_, fun visit among assigned => ?_⟩
  · exact (Check.Ends.of_reported (Check.infer expr) state).restored.congr (by simp)
  · intro checked
    have restored := (Check.checkStmt_ends.1 stmt state).restored
    have tried := (Check.checkStmt_tried.1 stmt state rfl).1
    exact ⟨tried, restored, fun fresh =>
      restored.congr fun name => (Check.exists_unrefused_iff tried fresh name).symm⟩
  · have declared : (Check.declareAll submission.typeNames submission.program
        (after earlier).state).2.Tabled := Check.declareAll_tabled _ _ (after_resumable earlier)
    have outside : (Check.declareAll submission.typeNames submission.program
        (after earlier).state).2.scope.branches = [] := by
      rw [Scope.branches, declared.inner, List.takeWhile_nil]
    have reported : visit.state.Reported (Check.checkDecl visit.decl visit.heading visit.state).2 :=
      Check.Has.ran (Check.checkDecl visit.decl visit.heading) visit.state
    exact reported.restored (Check.branches_of_mem_visits.2 _ _ _ outside visit among) assigned

/-- A program with a function in a method. -/
def innerFunctionSource : String :=
  "class A(object):\n    def m(self: \"A\", y: object) -> object:\n        def g():\n" ++
    "            pass\n        if y is None:\n            y = self\n        return y\n"

/-- A place in a function in which two variables are narrowed, one of them twice. -/
def narrowedPlace : CheckState :=
  { scope := .ofOperations
      [.define { name := "z", type := .object, kind := .ownVariable }, .enter .function "f",
        .define { name := "x", type := .object, kind := .parameter },
        .define { name := "y", type := .object, kind := .ownVariable },
        .enter .branch "narrow x", .narrow "x" .none, .enter .branch "narrow y",
        .narrow "y" .none, .enter .branch "narrow x", .narrow "x" .none]
    results := [.none] }

/-- An assignment to a variable of the function and to one of the program. -/
def doubleAssignment : Stmt :=
  let info := ExprInfo.ofSpan (.onLine "" 1 1 2)
  .assign info.toNodeInfo [.name { info, name := "x" }, .name { info, name := "z" }]
    (.integer info 1)

/-- The function in the method leaves no trace, and the assignment ends both narrowings of `x`. -/
theorem visits_restore_innerFunctionSource : ∃ program,
    Program.ofSource "inner.choc" innerFunctionSource = .ok program ∧
      (∃ visit ∈ (after []).visits { program },
        visit.state.scope.frames.map Frame.kind = [.function, .program] ∧
          visit.state.Restored (fun _ => True)
            (Check.checkDecl visit.decl visit.heading visit.state).2) ∧
      let checked := Check.checkStmt doubleAssignment narrowedPlace
      (∀ target ∈ doubleAssignment.assigned, target.info.error = none) ∧
        checked.1.assigned.map (fun target => (target.name, target.info.error)) =
          [("x", none), ("z", some (CheckError.notAssignable "z").message)] ∧
        (List.range 5).map (fun depth => (checked.2.scope.boundAt? depth "x").map Binding.kind) =
          [none, none, none, some .parameter, none] ∧
        (checked.2.scope.boundAt? 1 "y").map Binding.kind = some .narrowed ∧
        narrowedPlace.Restored (fun name => ∃ target ∈ checked.1.assigned, target.name = name ∧
          ¬ target.Refused) checked.2 := by
  obtain ⟨program, read, told⟩ : ∃ program,
      Program.ofSource "inner.choc" innerFunctionSource = .ok program ∧
        (((after []).visits { program }).any fun visit =>
          visit.state.scope.frames.map Frame.kind = [.function, .program]) = true :=
    exists_ok_of_any (by decide +kernel)
  obtain ⟨visit, among, kinds⟩ := List.any_eq_true.mp told
  obtain ⟨-, statements, declarations⟩ := visits_restore [] { program }
  have fresh : ∀ target ∈ doubleAssignment.assigned, target.info.error = none := by decide
  exact ⟨program, read, ⟨visit, among, of_decide_eq_true kinds, declarations visit among _⟩,
    fresh, by decide +kernel, by decide +kernel, by decide +kernel,
    (statements doubleAssignment narrowedPlace).2.2 fresh⟩

end Checker
end ChocoLang
