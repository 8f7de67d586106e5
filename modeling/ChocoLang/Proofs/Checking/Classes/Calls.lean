import ChocoLang.Proofs.Checking.Classes.Declaring
import ChocoLang.Proofs.Checking.Reports.Rules
import ChocoLang.Proofs.Syntax.Height

/-!
# Calls of classes

A name that stands for a class can be called wherever it is in scope, as the class is listed and has
a constructor.  So no call is left undecided: where the type of what is called is not known, an
error is recorded at it or at the call.
-/

namespace ChocoLang

/-- If the type of what is called is not known, then there is an error at it or at the call. -/
def Outline.CallDecided (outline : Outline) : Prop :=
  outline.label.kind = .callExpr → ∀ callee ∈ outline.children.head?,
    callee.label.type = some .unknown → callee.label.error.isSome ∨ outline.label.error.isSome

/-- Every call in the outline is decided. -/
def Outline.Decided (outline : Outline) : Prop := ∀ one ∈ outline.preorder, one.CallDecided

@[simp]
theorem Outline.decided_node (label : Label) (children : List Outline) :
    (node label children).Decided ↔ (node label children).CallDecided ∧
      ∀ child ∈ children, child.Decided :=
  forall_preorder_node

@[simp]
theorem Outline.callDecided_of_node (kind : NodeKind) (plain : kind ≠ .callExpr) (info : NodeInfo)
    (children : List Outline) : (node (info.label kind) children).CallDecided :=
  fun call => absurd call plain

@[simp]
theorem Outline.callDecided_of_expr (kind : NodeKind) (plain : kind ≠ .callExpr) (info : ExprInfo)
    (children : List Outline) : (node (info.label kind) children).CallDecided :=
  fun call => absurd call plain

/-- What a call consists of is decided by what is recorded at it and at the name that is called. -/
theorem Outline.callDecided_call (info : ExprInfo) (function : Identifier)
    (args : List Outline) :
    (node (info.label .callExpr) (function.outline :: args)).CallDecided ↔
      (function.info.type = some .unknown → function.info.error.isSome ∨ info.error.isSome) := by
  simp [CallDecided, Outline.label, Outline.children, Identifier.outline, ExprInfo.label]

@[simp]
theorem Identifier.decided_outline (name : Identifier) : name.outline.Decided := by
  simp [outline, Outline.CallDecided, Outline.label]

@[simp]
theorem WrittenType.decided_outline (written : WrittenType) : written.outline.Decided := by
  induction written with
  | named info name => simp [outline]
  | list info element ih => simp [outline, ih]

@[simp]
theorem TypedVar.decided_outline (var : TypedVar) : var.outline.Decided := by
  simp [outline]

@[simp]
theorem FunctionHeading.decided_outlines (heading : FunctionHeading) :
    ∀ outline ∈ heading.outlines, outline.Decided := by
  simp [outlines, or_imp, forall_and]

section

attribute [local simp] Expr.outline Expr.outlines_eq_map Outline.callDecided_call

/-- An expression whose error is kept stays decided, whatever else is recorded at it. -/
theorem Expr.decided_withInfo {expr : Expr} (decided : expr.outline.Decided) {info : ExprInfo}
    (kept : expr.info.error.isSome → info.error.isSome) : (expr.withInfo info).outline.Decided := by
  cases expr with
  | call recorded function args =>
      simp only [withInfo, Expr.outline, Outline.decided_node,
        Outline.callDecided_call] at decided ⊢
      exact ⟨fun unknown => (decided.1 unknown).imp_right kept, decided.2⟩
  | name | integer | boolean | string | none => simp [withInfo]
  | list | binary | unary | conditional | member | index | methodCall =>
      simpa [withInfo] using decided

end

/-- A class in scope is listed and has a constructor. -/
def CheckState.Constructs (state : CheckState) : Prop :=
  state.scope.All fun name binding => binding.kind = .classDef →
    ∃ info, state.hierarchy.find? name = some info ∧ (info.methods.find? "__init__").isSome

/-- Outside all functions every class that is bound is listed. -/
theorem CheckState.Tabled.constructs {state : CheckState} (tabled : state.Tabled) :
    state.Constructs := by
  intro frame among name binding found ofClass
  obtain rfl : frame = state.scope.outermost := by
    simpa [Scope.frames, tabled.inner] using among
  have bound : state.scope.globalKind? name = some .classDef := by
    simp [Scope.globalKind?, Scope.lookupGlobal, found, ofClass]
  obtain ⟨info, listed⟩ := Option.isSome_iff_exists.mp ((tabled.bound name).mp bound)
  exact ⟨info, listed, tabled.rooted.constructor listed⟩

theorem CheckState.Constructs.forgot {state after : CheckState} (constructs : state.Constructs)
    (forgot : state.Forgot after) : after.Constructs := by
  obtain ⟨names, found, rfl⟩ := forgot
  unfold CheckState.Constructs at constructs ⊢
  exact List.foldlRecOn names Scope.forget constructs fun _ kept name _ => kept.forget name

/-- A call whose callee has the unknown type has an error, whatever class is called. -/
theorem CheckState.Constructs.nameCallVerdict {state : CheckState} (constructs : state.Constructs)
    (name : String) (args : List ValueType) :
    let verdict := state.hierarchy.nameCallVerdict state.scope name args
    verdict.callee.type = .unknown →
      verdict.callee.error.isSome ∨ verdict.call.error.isSome := by
  intro verdict
  simp only [verdict, ClassHierarchy.nameCallVerdict]
  split
  · exact fun _ => .inl rfl
  · next binding found =>
      split
      · next ofClass =>
          obtain ⟨info, listed, hasConstructor⟩ := constructs.lookup found ofClass
          obtain ⟨constructor, declared⟩ := Option.isSome_iff_exists.mp hasConstructor
          simp only [ClassHierarchy.constructionVerdict, listed, declared]
          nofun
      · next shape =>
          simp only [ClassHierarchy.callVerdict, shape]
          nofun
      · exact fun _ => .inr rfl

namespace Check

variable {α : Type}

theorem constructs_of_returns {action : Check α} [Has CheckState.Forgot action] {good : α → Prop}
    (returns : Returns action good) : Maintains CheckState.Constructs action good :=
  .of_forgot CheckState.Constructs.forgot fun state _ => returns state

theorem constructs_of_forgot (action : Check α) [Has CheckState.Forgot action] :
    Maintains CheckState.Constructs action fun _ => True :=
  constructs_of_returns fun _ => trivial

theorem within_constructs {inner : Check α} {good : α → Prop}
    (maintains : Maintains CheckState.Constructs inner good) (kind : FrameKind) (name : String) :
    Maintains CheckState.Constructs (within kind name inner) good :=
  Maintains.bind (.modifyScope fun _ constructs => constructs.enter kind name) fun _ _ =>
    maintains.bind fun _ holds =>
      Maintains.bind (.modifyScope fun _ constructs => constructs.leave) fun _ _ => .pure holds

theorem assuming_constructs {inner : Check α} [Has CheckState.Forgot inner] {good : α → Prop}
    (maintains : Maintains CheckState.Constructs inner good) (condition : Expr) :
    Maintains CheckState.Constructs (assuming condition inner) good :=
  maintains.assuming CheckState.Constructs.forgot fun _ _ constructs =>
    (constructs.enter .branch _).define nofun

/-! ## Expressions -/

theorem reportExpr_wrong (error : CheckError) (info : ExprInfo) :
    Returns (reportExpr error info) fun reported => reported.error.isSome := by
  intro state
  change (report error info.toNodeInfo state).1.error.isSome
  rw [report_apply]
  split
  · assumption
  · rfl

/-- Errors are recorded with the type, and none that was there before is lost. -/
theorem settle_records_error (verdict : Verdict) (info : ExprInfo) :
    Returns (settle verdict info) fun settled => settled.type = some verdict.type ∧
      (verdict.error.isSome ∨ info.error.isSome → settled.error.isSome) := by
  intro state
  refine ⟨type_settle verdict info state, ?_⟩
  unfold settle
  cases verdict.error with
  | none => simp [bind_apply, pure_apply]
  | some error => exact fun _ => reportExpr_wrong error info state

theorem settleExpr_decided (verdict : Verdict) {expr : Expr} (decided : expr.outline.Decided) :
    Returns (settleExpr verdict expr) fun settled => settled.outline.Decided :=
  (settle_records_error verdict expr.info).bind fun _ recorded =>
    .pure (Expr.decided_withInfo decided fun wrong => recorded.2 (.inr wrong))

theorem demand_decided (wanted : ValueType) (error : ValueType → CheckError) {expr : Expr}
    (decided : expr.outline.Decided) :
    Returns (demand wanted error expr) fun demanded => demanded.outline.Decided := by
  refine .ite (fun _ => .pure decided) fun _ => (reportExpr_wrong _ expr.info).bind ?_
  exact fun _ wrong => .pure (Expr.decided_withInfo decided fun _ => wrong)

section

attribute [local simp] Expr.outline Expr.outlines_eq_map

/-- While classes can be called, checking expressions leaves no call undecided. -/
theorem infer_decided :
    (∀ expr, Maintains CheckState.Constructs (infer expr)
      fun checked => checked.outline.Decided) ∧
    ∀ exprs, Maintains CheckState.Constructs (inferAll exprs)
      fun checked => ∀ expr ∈ checked, expr.outline.Decided := by
  apply Expr.mutual_induction
  case name =>
    intro name
    unfold infer
    exact Maintains.view.bind fun verdict _ =>
      constructs_of_returns (settleExpr_decided verdict (by simp))
  case integer | boolean | string | none =>
    intros
    unfold infer
    exact constructs_of_returns (settleExpr_decided _ (by simp))
  case list =>
    intro info elements ih
    unfold infer
    refine ih.bind fun checked decided => Maintains.view.bind fun type _ => ?_
    exact constructs_of_returns (settleExpr_decided _ (by simpa using decided))
  case binary =>
    intro info left operator right ihLeft ihRight
    unfold infer
    refine ihLeft.bind fun left' first => ihRight.bind fun right' second => ?_
    refine Maintains.view.bind fun verdict _ => ?_
    exact constructs_of_returns (settleExpr_decided _ (by simpa using ⟨first, second⟩))
  case unary =>
    intro info operator operand ih
    unfold infer
    refine ih.bind fun operand' decided => ?_
    exact constructs_of_returns (settleExpr_decided _ (by simpa using decided))
  case conditional =>
    intro info condition thenExpr elseExpr ihCondition ihThen ihElse
    unfold infer
    refine ihCondition.bind fun checked first => ?_
    refine (constructs_of_returns (demand_decided _ _ first)).bind fun tested first => ?_
    refine (assuming_constructs ihThen tested).bind fun then' second => ?_
    refine ihElse.bind fun else' third => Maintains.view.bind fun type _ => ?_
    exact constructs_of_returns (settleExpr_decided _ (by simpa using ⟨first, second, third⟩))
  case member =>
    intro info object field ih
    unfold infer
    refine ih.bind fun object' decided => Maintains.view.bind fun verdict _ => ?_
    exact constructs_of_returns (settleExpr_decided _ (by simpa using decided))
  case index =>
    intro info container position ihContainer ihPosition
    unfold infer
    refine ihContainer.bind fun container' first => ihPosition.bind fun position' second => ?_
    refine (constructs_of_returns (demand_decided _ _ second)).bind fun tested second => ?_
    exact constructs_of_returns (settleExpr_decided _ (by simpa using ⟨first, second⟩))
  case call =>
    intro info function args ih
    unfold infer
    refine ih.bind fun args' decided => Maintains.get.bind fun state constructs => ?_
    have known := constructs.nameCallVerdict function.name (args'.map Expr.type)
    generalize state.hierarchy.nameCallVerdict state.scope function.name (args'.map Expr.type) =
      verdict at known
    refine (constructs_of_returns (settle_records_error verdict.callee function.info)).bind
      fun callee called => ?_
    refine constructs_of_returns ((settle_records_error verdict.call info).bind
      fun recorded whole => .pure ?_)
    simp only [Expr.withInfo, Expr.outline, Expr.outlines_eq_map, Outline.decided_node,
      Outline.callDecided_call, List.forall_mem_cons, List.forall_mem_map]
    refine ⟨fun unknown => ?_, Identifier.decided_outline _, decided⟩
    rw [called.1, Option.some.injEq] at unknown
    exact (known unknown).imp (fun wrong => called.2 (.inl wrong)) fun wrong => whole.2 (.inl wrong)
  case methodCall =>
    intro info access object method args ihObject ihArgs
    unfold infer
    refine ihObject.bind fun object' first => ihArgs.bind fun args' second => ?_
    refine Maintains.view.bind fun verdict _ => ?_
    refine (constructs_of_forgot (settle verdict.callee access)).bind fun access' _ => ?_
    exact constructs_of_returns (settleExpr_decided _ (by simpa using ⟨first, second⟩))
  case nil =>
    unfold inferAll
    exact .pure (List.forall_mem_nil _)
  case cons =>
    intro expr rest ihExpr ihRest
    unfold inferAll
    refine ihExpr.bind fun expr' first => ihRest.bind fun rest' others => .pure ?_
    exact List.forall_mem_cons.mpr ⟨first, others⟩

end

theorem inferCondition_decided (condition : Expr) :
    Maintains CheckState.Constructs (inferCondition condition)
      fun checked => checked.outline.Decided :=
  (infer_decided.1 condition).bind fun _ decided =>
    constructs_of_returns (demand_decided _ _ decided)

/-! ## Statements -/

section

attribute [local simp] Expr.outline Stmt.outline Expr.outlines_eq_map Stmt.outlines_eq_map

theorem assignElement_decided (info : ExprInfo) (container position : Expr) :
    Maintains CheckState.Constructs (assignElement info container position)
      fun assigned => assigned.1.outline.Decided := by
  refine (infer_decided.1 container).bind fun container' first => ?_
  refine (infer_decided.1 position).bind fun position' second => ?_
  refine (constructs_of_returns (demand_decided _ _ second)).bind fun tested second => ?_
  refine (constructs_of_forgot (settle _ info)).bind fun info' _ => ?_
  have whole : (Expr.index info' container' tested).outline.Decided := by
    simpa using ⟨first, second⟩
  exact .ite (fun _ => .pure whole) fun _ => .pure whole

theorem assignTarget_decided (target : Expr) :
    Maintains CheckState.Constructs (assignTarget target)
      fun assigned => assigned.1.outline.Decided := by
  unfold assignTarget
  split
  · next name =>
      refine (constructs_of_forgot (assignName name)).bind fun assigned _ => .pure ?_
      simp
  · exact assignElement_decided _ _ _
  · exact (infer_decided.1 _).bind fun _ decided => .pure decided

theorem assignAll_decided (value : ValueType) (info : NodeInfo) (targets : List Expr) :
    Maintains CheckState.Constructs (assignAll value info targets)
      fun assigned => ∀ target ∈ assigned.1, target.outline.Decided := by
  induction targets generalizing info with
  | nil => exact .pure (List.forall_mem_nil _)
  | cons target rest ih =>
      rw [assignAll_cons]
      refine (assignTarget_decided target).bind fun assigned first => ?_
      refine (constructs_of_forgot (demandFits value assigned.2 info)).bind fun info' _ => ?_
      exact (ih info').bind fun later others => .pure (List.forall_mem_cons.mpr ⟨first, others⟩)

theorem checkAssignment_decided (info : NodeInfo) (targets : List Expr) (value : Expr) :
    Maintains CheckState.Constructs (checkAssignment info targets value)
      fun checked => checked.outline.Decided := by
  rw [checkAssignment_eq]
  refine (infer_decided.1 value).bind fun value' first => ?_
  refine (constructs_of_forgot (demandSingle targets value'.type info)).bind fun info' _ => ?_
  refine (assignAll_decided value'.type info' targets).bind fun assigned others => .pure ?_
  simpa [or_imp, forall_and] using ⟨others, first⟩

theorem checkLoopHead_decided (element : Identifier) (iterable : Expr) :
    Maintains CheckState.Constructs (checkLoopHead element iterable)
      fun head => head.2.outline.Decided := by
  rw [checkLoopHead_eq]
  refine (infer_decided.1 iterable).bind fun inferred decided => ?_
  have demanded : Returns (demandIterable inferred) fun demanded => demanded.outline.Decided := by
    refine .ite (fun _ => (reportExpr_wrong _ inferred.info).bind ?_) fun _ => .pure decided
    exact fun _ wrong => .pure (Expr.decided_withInfo decided fun _ => wrong)
  refine (constructs_of_returns demanded).bind fun demanded decided => ?_
  exact constructs_of_returns fun state => (snd_takeElement _ element demanded state).symm ▸ decided

theorem inferOptional_decided (value : Option Expr) :
    Maintains CheckState.Constructs (inferOptional value)
      fun checked => ∀ value ∈ checked, value.outline.Decided := by
  cases value with
  | none => exact .pure nofun
  | some value =>
      exact (infer_decided.1 value).bind fun _ decided => .pure (by simpa using decided)

theorem checkReturn_decided (info : NodeInfo) (value : Option Expr) :
    Maintains CheckState.Constructs (checkReturn info value)
      fun checked => checked.outline.Decided := by
  have whole {info : NodeInfo} {value : Option Expr}
      (decided : ∀ one : Expr, one ∈ value → one.outline.Decided) :
      (Stmt.ret info value).outline.Decided := by
    cases value with
    | none => simp
    | some value => simpa using decided
  refine Maintains.get.bind fun state _ => ?_
  split
  · refine (inferOptional_decided value).bind fun checked decided => ?_
    exact (constructs_of_forgot (report _ info)).bind fun _ _ => .pure (whole decided)
  · refine (inferOptional_decided value).bind fun checked decided => ?_
    cases checked with
    | none =>
        refine (constructs_of_forgot (fits _ _)).bind fun fits _ => .ite (fun _ => ?_) fun _ => ?_
        · exact .pure (whole decided)
        · exact (constructs_of_forgot (report _ info)).bind fun _ _ => .pure (whole decided)
    | some checked =>
        exact (constructs_of_forgot (demandFit _ _ info)).bind fun _ _ => .pure (whole decided)

/-- While classes can be called, checking statements leaves no call undecided. -/
theorem checkStmt_decided :
    (∀ stmt, Maintains CheckState.Constructs (checkStmt stmt)
      fun checked => checked.outline.Decided) ∧
    ∀ stmts, Maintains CheckState.Constructs (checkStmts stmts)
      fun checked => ∀ stmt ∈ checked, stmt.outline.Decided := by
  apply Stmt.mutual_induction
  case expr =>
    intro info value
    unfold checkStmt
    exact (infer_decided.1 value).bind fun _ decided => .pure (by simpa using decided)
  case assign =>
    intro info targets value
    unfold checkStmt
    exact checkAssignment_decided info targets value
  case ifElse =>
    intro info condition thenBody elseBody ihThen ihElse
    unfold checkStmt
    refine (inferCondition_decided condition).bind fun tested first => ?_
    refine (assuming_constructs ihThen tested).bind fun then' second => ?_
    refine ihElse.bind fun else' third => .pure ?_
    simpa [or_imp, forall_and] using ⟨first, second, third⟩
  case whileLoop =>
    intro info condition body ih
    unfold checkStmt
    refine (inferCondition_decided condition).bind fun tested first => ?_
    exact ih.bind fun body' second => .pure (by simpa using ⟨first, second⟩)
  case forLoop =>
    intro info element iterable body ih
    unfold checkStmt
    refine (checkLoopHead_decided element iterable).bind fun head first => ?_
    exact ih.bind fun body' second => .pure (by simpa using ⟨first, second⟩)
  case ret =>
    intro info value
    unfold checkStmt
    exact checkReturn_decided info value
  case nil =>
    unfold checkStmts
    exact .pure (List.forall_mem_nil _)
  case cons =>
    intro stmt rest ihStmt ihRest
    unfold checkStmts
    refine ihStmt.bind fun stmt' first => ihRest.bind fun rest' others => .pure ?_
    exact List.forall_mem_cons.mpr ⟨first, others⟩

end

/-! ## Declarations -/

theorem declare_constructs (name : Identifier) (type : ValueType) {kind : BindingKind}
    (noClass : kind ≠ .classDef) :
    Maintains CheckState.Constructs (declare name type kind) fun _ => True := by
  intro state constructs
  cases clash : state.clash? name.name kind with
  | some error =>
      rw [declare_of_clash type clash]
      exact ⟨trivial, constructs.forgot (Has.ran (reportName error name) state)⟩
  | none =>
      rw [declare_of_free type clash]
      exact ⟨trivial, constructs.define fun ofClass => absurd ofClass noClass⟩

theorem declareOuter_constructs (found : Option Binding) (allowed : List BindingKind)
    {kind : BindingKind} (noClass : kind ≠ .classDef) (error : CheckError) (info : NodeInfo)
    (name : Identifier) :
    Maintains CheckState.Constructs (declareOuter found allowed kind error info name)
      fun _ => True := by
  unfold declareOuter
  split
  · exact (constructs_of_forgot (report error info)).bind fun _ _ => .pure trivial
  · exact (declare_constructs name _ noClass).bind fun _ _ => .pure trivial

theorem declareLocal_constructs (decl : Decl) :
    Maintains CheckState.Constructs (declareLocal decl) fun _ => True := by
  cases decl with
  | varDef _ var _ =>
      refine ((constructs_of_forgot (resolveVar var)).bind ?_).bind
        fun _ (_ : True) => .pure trivial
      rintro ⟨var, type⟩ _
      exact (declare_constructs _ _ (by decide)).bind fun _ _ => .pure trivial
  | funcDef _ heading =>
      refine ((constructs_of_forgot (resolveSignature heading)).bind ?_).bind
        fun _ (_ : True) => .pure trivial
      rintro ⟨heading, signature⟩ _
      exact (declare_constructs _ _ (by decide)).bind fun _ _ => .pure trivial
  | classDef => exact .pure trivial
  | globalDecl info name | nonlocalDecl info name =>
      exact Maintains.view.bind fun found _ =>
        declareOuter_constructs found _ (by decide) _ info name

theorem declareLocals_constructs (decls : List Decl) :
    Maintains CheckState.Constructs (declareLocals decls) fun _ => True := by
  induction decls with
  | nil => exact .pure trivial
  | cons decl rest ih =>
      exact (declareLocal_constructs decl).bind fun _ _ => ih.bind fun _ _ => .pure trivial

theorem declareParams_constructs (vars : List TypedVar) (types : List ValueType) :
    Maintains CheckState.Constructs (declareParams vars types) fun _ => True := by
  induction vars generalizing types with
  | nil =>
      unfold declareParams
      exact .pure trivial
  | cons var rest ih =>
      cases types with
      | nil =>
          unfold declareParams
          exact .pure trivial
      | cons type types =>
          unfold declareParams
          exact (declare_constructs var.identifier type (by decide)).bind fun _ _ =>
            (ih types).bind fun _ _ => .pure trivial

theorem returning_constructs {inner : Check α} {good : α → Prop} (result : ValueType)
    (maintains : Maintains CheckState.Constructs inner good) :
    Maintains CheckState.Constructs (returning result inner) good :=
  fun state constructs =>
    maintains { state with results := result :: state.results } constructs

section

attribute [local simp] Decl.outline Decl.outlines_eq_map Stmt.outlines_eq_map

theorem checkBody_decided (heading : FunctionHeading) (signature : Signature)
    {declarations : List Decl} (statements : List Stmt)
    (inner : ∀ headings, Maintains CheckState.Constructs (checkDecls declarations headings)
      fun checked => ∀ decl ∈ checked, decl.outline.Decided) :
    Maintains CheckState.Constructs (checkBody heading signature declarations statements)
      fun body => (∀ decl ∈ body.2.1, decl.outline.Decided) ∧
        ∀ stmt ∈ body.2.2, stmt.outline.Decided := by
  refine within_constructs ((declareParams_constructs _ _).bind fun params _ => ?_) _ _
  refine (declareLocals_constructs declarations).bind fun headings _ => returning_constructs _ ?_
  refine (inner headings).bind fun declarations' first => ?_
  exact (checkStmt_decided.2 statements).bind fun statements' second => .pure ⟨first, second⟩

/-- While classes can be called, checking bodies leaves no call undecided. -/
theorem checkDecl_decided :
    (∀ decl heading, decl.outline.Decided →
      Maintains CheckState.Constructs (checkDecl decl heading)
        fun checked => checked.outline.Decided) ∧
    ∀ decls headings, (∀ decl ∈ decls, decl.outline.Decided) →
      Maintains CheckState.Constructs (checkDecls decls headings)
        fun checked => ∀ decl ∈ checked, decl.outline.Decided := by
  apply checkDecl_induction
  case varDef =>
    intro info var value looked _
    unfold checkDecl
    refine (constructs_of_forgot (resolveVar looked)).bind ?_
    rintro ⟨resolved, type⟩ _
    refine (infer_decided.1 value).bind fun value' decided => ?_
    refine (constructs_of_forgot (demandFit type value'.type info)).bind fun info' _ => .pure ?_
    simpa using decided
  case funcDef =>
    intro info heading declarations statements recovered looked ih decided
    simp only [Decl.outline, Decl.outlines_eq_map, Outline.decided_node, List.forall_mem_append,
      List.forall_mem_map] at decided
    rw [checkDecl_function]
    refine (constructs_of_forgot (resolveSignature looked)).bind ?_
    rintro ⟨resolved, signature⟩ _
    refine (checkBody_decided resolved signature statements fun headings =>
      ih headings decided.2.2.1).bind ?_
    rintro ⟨params, declarations', statements'⟩ ⟨first, second⟩
    refine (constructs_of_forgot (demandReturn signature.result statements' recovered
      resolved.name)).bind fun name _ => .pure ?_
    simp only [Decl.outline, Decl.outlines_eq_map, Stmt.outlines_eq_map, Outline.decided_node,
      List.forall_mem_append, List.forall_mem_map]
    exact ⟨by simp, FunctionHeading.decided_outlines _, first, second⟩
  case classDef =>
    intro info name superclass members called parent headings ih decided
    unfold checkDecl
    refine (ih (by simpa using decided)).bind fun members' inside => .pure ?_
    simpa using inside
  case globalDecl | nonlocalDecl =>
    intros
    unfold checkDecl
    exact .pure (by simp)
  case mismatch =>
    intro decl heading same decided
    rw [same]
    exact .pure decided
  case cons =>
    intro decl rest heading headings ihDecl ihRest decided
    obtain ⟨first, others⟩ := List.forall_mem_cons.mp decided
    unfold checkDecls
    refine (ihDecl first).bind fun decl' first => (ihRest others).bind fun rest' others => ?_
    exact .pure (List.forall_mem_cons.mpr ⟨first, others⟩)
  case exhausted =>
    intro decls headings same decided
    rw [same]
    exact .pure decided

end

end Check
end ChocoLang
