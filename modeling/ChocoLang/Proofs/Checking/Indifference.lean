import ChocoLang.Proofs.Checking.Effects
import ChocoLang.Proofs.Typing.Scopes

/-!
# What checking does not depend on

Checking depends neither on the problems that have been found before nor on the order in which the
names of the program were bound.  From states that differ in nothing else every step returns the
same and finds the same problems.
-/

namespace ChocoLang

/-- The states differ at most in their problems and in the order of the bindings of the program. -/
structure CheckState.Alike (first second : CheckState) : Prop where
  /-- The scopes are alike. -/
  scope : first.scope.Alike second.scope
  /-- The classes are the same. -/
  hierarchy : first.hierarchy = second.hierarchy
  /-- The names of classes are the same. -/
  classNames : first.classNames = second.classNames
  /-- Written types consist of the same names. -/
  typeNames : first.typeNames = second.typeNames
  /-- The functions around have the same results. -/
  results : first.results = second.results

namespace CheckState.Alike

variable {first second : CheckState}

theorem refl (state : CheckState) : state.Alike state := ⟨.refl _, rfl, rfl, rfl, rfl⟩

theorem trans {third : CheckState} (alike : first.Alike second) (alike' : second.Alike third) :
    first.Alike third :=
  ⟨alike.scope.trans alike'.scope, alike.hierarchy.trans alike'.hierarchy,
    alike.classNames.trans alike'.classNames, alike.typeNames.trans alike'.typeNames,
    alike.results.trans alike'.results⟩

theorem withScope (alike : first.Alike second) {scope other : Scope} (scopes : scope.Alike other) :
    CheckState.Alike { first with scope } { second with scope := other } :=
  ⟨scopes, alike.hierarchy, alike.classNames, alike.typeNames, alike.results⟩

theorem withResults (alike : first.Alike second) (change : List ValueType → List ValueType) :
    CheckState.Alike { first with results := change first.results }
      { second with results := change second.results } :=
  ⟨alike.scope, alike.hierarchy, alike.classNames, alike.typeNames,
    congrArg change alike.results⟩

/-- Which problems are found makes no difference. -/
theorem withProblems (alike : first.Alike second) (found others : List (Located CheckError)) :
    CheckState.Alike { first with problems := found } { second with problems := others } :=
  ⟨alike.scope, alike.hierarchy, alike.classNames, alike.typeNames, alike.results⟩

theorem absentVariable? (alike : first.Alike second) (condition : Expr) :
    first.absentVariable? condition = second.absentVariable? condition :=
  CheckState.absentVariable?_congr alike.scope alike.hierarchy condition

theorem namedType? (alike : first.Alike second) (name : String) :
    first.namedType? name = second.namedType? name := by
  unfold CheckState.namedType?
  rw [alike.typeNames]

theorem clash? (alike : first.Alike second) (name : String) (kind : BindingKind) :
    first.clash? name kind = second.clash? name kind := by
  unfold CheckState.clash?
  dsimp only
  rw [alike.scope.current.find?, alike.scope.current.kind, alike.classNames]

theorem superclass (alike : first.Alike second) (name : String) :
    first.superclass name = second.superclass name := by
  unfold CheckState.superclass
  rw [alike.hierarchy, alike.scope.lookupGlobal]

end CheckState.Alike

namespace Check

variable {α β : Type}

/-- Two runs return the same and find the same problems, and the states after them are alike. -/
structure RunsAlike (action : Check α) (first second : CheckState) : Prop where
  /-- The runs return the same. -/
  value : (action first).1 = (action second).1
  /-- The states are alike. -/
  state : (action first).2.Alike (action second).2
  /-- The problems found are the same. -/
  problems : ∃ found, (action first).2.problems = first.problems ++ found ∧
    (action second).2.problems = second.problems ++ found

/-- From states that are alike, two runs of the action return the same and find the same. -/
class Indifferent (action : Check α) : Prop where
  /-- The runs are alike. -/
  run : ∀ {first second}, first.Alike second → RunsAlike action first second

namespace Indifferent

theorem runsAlike (action : Check α) [Indifferent action] {first second : CheckState}
    (alike : first.Alike second) : RunsAlike action first second := run alike

/-- An action that only changes the state, and no problem, is indifferent if the change is. -/
theorem of_silent {action : Check α}
    (same : ∀ {first second}, first.Alike second → (action first).1 = (action second).1 ∧
      (action first).2.Alike (action second).2)
    (silent : ∀ state, (action state).2.problems = state.problems) : Indifferent action where
  run alike := ⟨(same alike).1, (same alike).2, [], by simp [silent], by simp [silent]⟩

instance (value : α) : Indifferent (pure value : Check α) :=
  of_silent (fun alike => ⟨rfl, alike⟩) fun _ => rfl

instance (priority := low) bind (action : Check α) (next : α → Check β) [Indifferent action]
    [∀ value, Indifferent (next value)] : Indifferent (action >>= next) where
  run {first second} alike := by
    obtain ⟨value, between, found, before, before'⟩ := runsAlike action alike
    obtain ⟨value', after, more, behind, behind'⟩ := runsAlike (next (action first).1) between
    have same : (action >>= next) second = next (action first).1 (action second).2 := by
      rw [bind_apply, value]
    refine ⟨?_, ?_, found ++ more, ?_, ?_⟩
    · rw [same]
      exact value'
    · rw [same]
      exact after
    · rw [bind_apply, behind, before, List.append_assoc]
    · rw [same, behind', before', List.append_assoc]

instance (condition : Prop) [Decidable condition] (yes no : Check α) [Indifferent yes]
    [Indifferent no] : Indifferent (if condition then yes else no) where
  run alike := by
    split
    · exact run alike
    · exact run alike

theorem view {look : CheckState → α}
    (same : ∀ {first second}, first.Alike second → look first = look second) :
    Indifferent (view look) :=
  of_silent (fun alike => ⟨same alike, alike⟩) fun _ => rfl

/-- The state may be looked at if what is done then is the same for states that are alike. -/
theorem get {next : CheckState → Check β}
    (same : ∀ {first second}, first.Alike second → next first = next second)
    [∀ state, Indifferent (next state)] : Indifferent (get >>= next) where
  run {first second} alike := by
    have runs : (MonadState.get >>= next) second = next first second := by rw [same alike]; rfl
    obtain ⟨value, after, found, before, before'⟩ := runsAlike (next first) alike
    exact ⟨by rw [runs]; exact value, by rw [runs]; exact after, found, before, by rw [runs, before']⟩

/-! ## Frames -/

theorem modifyScope {change : Scope → Scope}
    (same : ∀ {first second : Scope}, first.Alike second → (change first).Alike (change second)) :
    Indifferent (modifyScope change) :=
  of_silent (fun alike => ⟨rfl, alike.withScope (same alike.scope)⟩) fun _ => rfl

instance (kind : FrameKind) (name : String) (inner : Check α) [Indifferent inner] :
    Indifferent (within kind name inner) := by
  unfold within
  refine @bind _ _ _ _ (modifyScope fun alike => alike.enter kind name) fun _ => ?_
  refine @bind _ _ _ _ inferInstance fun value => ?_
  exact @bind _ _ _ _ (modifyScope fun alike => alike.leave) fun _ => inferInstance

instance (condition : Expr) (inner : Check α) [Indifferent inner] :
    Indifferent (assuming condition inner) := by
  have narrowing (name : String) : Indifferent (Check.modifyScope (·.narrow name .none)) :=
    modifyScope fun alike => alike.define _
  unfold assuming
  refine @get _ _ (fun alike => by simp only [alike.absentVariable? condition]) fun state => ?_
  split <;> infer_instance

instance (result : ValueType) (inner : Check α) [Indifferent inner] :
    Indifferent (returning result inner) := by
  have push : Indifferent (modify fun state => { state with results := result :: state.results } :
      Check Unit) :=
    of_silent (fun alike => ⟨rfl, alike.withResults (result :: ·)⟩) fun _ => rfl
  have pop : Indifferent (modify fun state => { state with results := state.results.tail } :
      Check Unit) :=
    of_silent (fun alike => ⟨rfl, alike.withResults List.tail⟩) fun _ => rfl
  unfold returning
  infer_instance

/-! ## Reports -/

instance (error : CheckError) (info : NodeInfo) : Indifferent (report error info) where
  run {first second} alike := by
    by_cases known : info.error.isSome
    · refine ⟨?_, ?_, [], ?_, ?_⟩ <;> simp [report_apply, known, alike]
    · refine ⟨?_, ?_, [⟨error, info.span⟩], ?_, ?_⟩ <;> simp only [report_apply, known]
      · rfl
      · exact alike.withProblems _ _
      · rfl
      · rfl

instance (error : CheckError) (info : ExprInfo) : Indifferent (reportExpr error info) := by
  unfold reportExpr; infer_instance

instance (error : CheckError) (name : Identifier) : Indifferent (reportName error name) := by
  unfold reportName; infer_instance

instance (verdict : Verdict) (info : ExprInfo) : Indifferent (settle verdict info) := by
  unfold settle
  split <;> infer_instance

instance (verdict : Verdict) (expr : Expr) : Indifferent (settleExpr verdict expr) := by
  unfold settleExpr; infer_instance

/-! ## Expressions -/

instance (wanted : ValueType) (error : ValueType → CheckError) (expr : Expr) :
    Indifferent (demand wanted error expr) := by
  unfold demand; infer_instance

instance (expr : Expr) : Indifferent (demandCondition expr) := by
  unfold demandCondition; infer_instance

instance (expr : Expr) : Indifferent (demandPosition expr) := by
  unfold demandPosition; infer_instance

instance (types : List ValueType) : Indifferent (Check.view (·.hierarchy.displayType types)) :=
  view fun alike => by rw [alike.hierarchy]

instance (first second : ValueType) : Indifferent (Check.view (·.hierarchy.join first second)) :=
  view fun alike => by rw [alike.hierarchy]

instance (operator : BinaryOperator) (left right : ValueType) :
    Indifferent (Check.view (·.hierarchy.operationVerdict operator left right)) :=
  view fun alike => by rw [alike.hierarchy]

instance (object : ValueType) (name : String) :
    Indifferent (Check.view (·.hierarchy.attributeVerdict object name)) :=
  view fun alike => by rw [alike.hierarchy]

instance (object : ValueType) (name : String) (args : List ValueType) :
    Indifferent (Check.view (·.hierarchy.methodCallVerdict object name args)) :=
  view fun alike => by rw [alike.hierarchy]

instance (name : String) : Indifferent (Check.view (·.scope.readVerdict name)) :=
  view fun alike => alike.scope.readVerdict name

theorem infer_indifferent :
    (∀ expr, Indifferent (infer expr)) ∧ ∀ exprs, Indifferent (inferAll exprs) := by
  apply Expr.mutual_induction
  case call =>
    intro info function args _
    unfold infer
    refine @bind _ _ _ _ inferInstance fun args => ?_
    exact get fun alike => by simp only [alike.hierarchy, alike.scope.nameCallVerdict]
  all_goals intros
  all_goals first | unfold infer | unfold inferAll
  all_goals infer_instance

instance (expr : Expr) : Indifferent (infer expr) := infer_indifferent.1 expr

instance (exprs : List Expr) : Indifferent (inferAll exprs) := infer_indifferent.2 exprs

instance (condition : Expr) : Indifferent (inferCondition condition) := by
  unfold inferCondition; infer_instance

/-! ## Statements -/

instance (source target : ValueType) : Indifferent (fits source target) :=
  view fun alike => by rw [alike.hierarchy]

instance (expected actual : ValueType) (info : NodeInfo) :
    Indifferent (demandFit expected actual info) := by
  unfold demandFit; infer_instance

instance (name : Identifier) : Indifferent (assignName name) := by
  have forget (name : String) : Indifferent (Check.modifyScope (·.forget name)) :=
    modifyScope fun alike => alike.forget name
  unfold assignName
  refine @bind _ _ _ _ (view fun alike => alike.scope.lookupLocal _) fun found => ?_
  split <;> infer_instance

instance (info : ExprInfo) (container position : Expr) :
    Indifferent (assignElement info container position) := by
  unfold assignElement; infer_instance

instance (target : Expr) : Indifferent (assignTarget target) := by
  unfold assignTarget
  split <;> infer_instance

instance (value : ValueType) (target : Option ValueType) (info : NodeInfo) :
    Indifferent (demandFits value target info) := by
  unfold demandFits
  split <;> infer_instance

instance (value : ValueType) (info : NodeInfo) (targets : List Expr) :
    Indifferent (assignAll value info targets) := by
  induction targets generalizing info with
  | nil => unfold assignAll; infer_instance
  | cons target rest ih => rw [assignAll_cons]; infer_instance

instance (targets : List Expr) (value : ValueType) (info : NodeInfo) :
    Indifferent (demandSingle targets value info) := by
  unfold demandSingle; infer_instance

instance (info : NodeInfo) (targets : List Expr) (value : Expr) :
    Indifferent (checkAssignment info targets value) := by
  rw [checkAssignment_eq]; infer_instance

instance (iterable : Expr) : Indifferent (demandIterable iterable) := by
  unfold demandIterable; infer_instance

instance (iteration : Iteration) (element : Identifier) (iterable : Expr) :
    Indifferent (takeElement iteration element iterable) := by
  unfold takeElement
  refine @bind _ _ _ _ inferInstance fun (element, type) => ?_
  dsimp only
  split <;> infer_instance

instance (element : Identifier) (iterable : Expr) :
    Indifferent (checkLoopHead element iterable) := by
  rw [checkLoopHead_eq]; infer_instance

instance (value : Option Expr) : Indifferent (inferOptional value) := by
  unfold inferOptional
  split <;> infer_instance

instance (expected : ValueType) (info : NodeInfo) (value : Option Expr) :
    Indifferent (checkResult expected info value) := by
  unfold checkResult
  refine @bind _ _ _ _ inferInstance fun value => ?_
  split <;> infer_instance

instance (info : NodeInfo) (value : Option Expr) : Indifferent (checkReturn info value) := by
  unfold checkReturn
  refine @get _ _ (fun alike => by simp only [alike.results]) fun state => ?_
  split <;> infer_instance

theorem checkStmt_indifferent :
    (∀ stmt, Indifferent (checkStmt stmt)) ∧ ∀ stmts, Indifferent (checkStmts stmts) := by
  apply Stmt.mutual_induction
  all_goals intros
  all_goals first | unfold checkStmt | unfold checkStmts
  all_goals infer_instance

instance (stmts : List Stmt) : Indifferent (checkStmts stmts) := checkStmt_indifferent.2 stmts

/-! ## Declarations -/

instance (written : WrittenType) : Indifferent (resolve written) := by
  induction written with
  | named info name =>
      unfold resolve
      refine @get _ _ (fun alike => by simp only [alike.namedType? name]) fun state => ?_
      split <;> infer_instance
  | list info element ih => unfold resolve; infer_instance

instance (var : TypedVar) : Indifferent (resolveVar var) := by
  unfold resolveVar; infer_instance

instance (vars : List TypedVar) : Indifferent (resolveVars vars) := by
  induction vars with
  | nil => unfold resolveVars; infer_instance
  | cons var rest ih => unfold resolveVars; infer_instance

instance (heading : FunctionHeading) : Indifferent (resolveSignature heading) := by
  unfold resolveSignature; infer_instance

instance (name : Identifier) (type : ValueType) (kind : BindingKind) :
    Indifferent (declare name type kind) := by
  have define (binding : Binding) : Indifferent (Check.modifyScope (·.define binding)) :=
    modifyScope fun alike => alike.define binding
  unfold declare
  refine @get _ _ (fun alike => by simp only [alike.clash? name.name kind]) fun state => ?_
  split <;> infer_instance

instance (var : TypedVar) : Indifferent (declareVar var) := by
  unfold declareVar; infer_instance

instance (heading : FunctionHeading) : Indifferent (declareFunction heading) := by
  unfold declareFunction; infer_instance

instance (found : Option Binding) (allowed : List BindingKind) (kind : BindingKind)
    (error : CheckError) (info : NodeInfo) (name : Identifier) :
    Indifferent (declareOuter found allowed kind error info name) := by
  unfold declareOuter
  split <;> infer_instance

instance (decl : Decl) : Indifferent (declareLocal decl) := by
  unfold declareLocal
  split
  · infer_instance
  · infer_instance
  · exact @bind _ _ _ _ (view fun alike => alike.scope.lookupGlobal _) fun _ => inferInstance
  · exact @bind _ _ _ _ (view fun alike => alike.scope.lookupNonlocal _) fun _ => inferInstance
  · infer_instance

instance (decls : List Decl) : Indifferent (declareLocals decls) := by
  induction decls with
  | nil => unfold declareLocals; infer_instance
  | cons decl rest ih => unfold declareLocals; infer_instance

instance (vars : List TypedVar) (types : List ValueType) :
    Indifferent (declareParams vars types) := by
  induction vars generalizing types with
  | nil => unfold declareParams; infer_instance
  | cons var rest ih =>
      cases types with
      | nil => unfold declareParams; infer_instance
      | cons type types => unfold declareParams; infer_instance

instance (result : ValueType) (statements : List Stmt) (recovered : Bool) (name : Identifier) :
    Indifferent (demandReturn result statements recovered name) := by
  unfold demandReturn
  exact get fun alike => by simp only [alike.hierarchy]

instance (info : NodeInfo) (var : TypedVar) (value : Expr) :
    Indifferent (checkVarDef info var value) := by
  unfold checkVarDef; infer_instance

theorem checkDecl_indifferent :
    (∀ decl heading, Indifferent (checkDecl decl heading)) ∧
      ∀ decls headings, Indifferent (checkDecls decls headings) := by
  apply checkDecl_induction
  case mismatch | exhausted =>
    intro _ _ same
    rw [same]
    infer_instance
  all_goals intros
  all_goals first | unfold checkDecl | unfold checkDecls
  all_goals infer_instance

instance (decl : Decl) (heading : Heading) : Indifferent (checkDecl decl heading) :=
  checkDecl_indifferent.1 decl heading

instance (decls : List Decl) (headings : List Heading) : Indifferent (checkDecls decls headings) :=
  checkDecl_indifferent.2 decls headings

/-! ## Classes -/

instance (info : ClassInfo) (var : TypedVar) : Indifferent (declareAttribute info var) := by
  unfold declareAttribute; infer_instance

instance (info : ClassInfo) (signature : Signature) (name : Identifier) :
    Indifferent (demandMethod info signature name) := by
  unfold demandMethod
  refine @get _ _ (fun alike => by simp only [alike.hierarchy]) fun state => ?_
  split <;> infer_instance

instance (info : ClassInfo) (heading : FunctionHeading) :
    Indifferent (declareMethod info heading) := by
  rw [declareMethod_eq]; infer_instance

instance (info : ClassInfo) (decl : Decl) : Indifferent (declareMember info decl) := by
  unfold declareMember
  split <;> infer_instance

instance (info : ClassInfo) (decls : List Decl) : Indifferent (declareMembers info decls) := by
  induction decls generalizing info with
  | nil => unfold declareMembers; infer_instance
  | cons decl rest ih => rw [declareMembers_cons]; infer_instance

instance (name : Identifier) : Indifferent (resolveSuperclass name) := by
  unfold resolveSuperclass
  refine @get _ _ (fun alike => by
    simp only [alike.superclass name.name, alike.hierarchy]) fun state => ?_
  split <;> infer_instance

instance (name superclass : Identifier) (members : List Decl) :
    Indifferent (declareClass name superclass members) := by
  have add (info : ClassInfo) : Indifferent
      (modify fun state => { state with hierarchy := state.hierarchy.add info } : Check Unit) :=
    of_silent (fun alike => ⟨rfl, alike.scope, congrArg (ClassHierarchy.add · info) alike.hierarchy,
      alike.classNames, alike.typeNames, alike.results⟩) fun _ => rfl
  unfold declareClass
  infer_instance

instance (decl : Decl) : Indifferent (declareGlobal decl) := by
  unfold declareGlobal
  split <;> infer_instance

instance (decls : List Decl) : Indifferent (declareGlobals decls) := by
  induction decls with
  | nil => unfold declareGlobals; infer_instance
  | cons decl rest ih => unfold declareGlobals; infer_instance

end Indifferent
end Check
end ChocoLang
