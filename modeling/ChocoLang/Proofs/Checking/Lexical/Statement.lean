import ChocoLang.Proofs.Checking.Lexical.Scope
import ChocoLang.Proofs.Checking.Narrowing.Expression
import ChocoLang.Proofs.Checking.Soundness.Expression
import ChocoLang.Proofs.Parsing.ReadTrees

/-!
# Lexical scoping in expressions and statements

If no problem is found in an expression, then every name that is read in it has the type that is
written where the name is declared, or it is said to be absent.  In a statement, a name that is
assigned has this type whatever the conditions around say of it.
-/

namespace ChocoLang

/-- The scope mirrors the tree around the place at hand. -/
def CheckState.Mirrors (around : Context) (state : CheckState) : Prop :=
  state.scope.Mirrors around

theorem CheckState.Mirrors.forgot {around : Context} {before after : CheckState}
    (mirrors : before.Mirrors around) (forgot : before.Forgot after) : after.Mirrors around := by
  obtain ⟨names, found, rfl⟩ := forgot
  unfold CheckState.Mirrors at mirrors ⊢
  exact List.foldlRecOn names Scope.forget mirrors fun _ kept name _ => kept.forget name

/-- A variable that is read has the type that is selected, unless it is said to be absent. -/
theorem Scope.Mirrors.readVerdict {around : Context} {scope : Scope}
    (mirrors : scope.Mirrors around) {name : String}
    (clean : (scope.readVerdict name).error = none) :
    around.SaysAbsent name ∧ (scope.readVerdict name).type = .none ∨
      ∃ written, selectedType? around.program name around.functions = some written ∧
        (scope.readVerdict name).type = written.denoted := by
  unfold Scope.readVerdict at clean ⊢
  cases found : scope.lookup name with
  | none =>
      rw [found] at clean
      cases clean
  | some binding =>
      simp only [found] at clean ⊢
      split at clean
      · next isVariable =>
          rw [if_pos isVariable]
          exact mirrors.lookup found isVariable
      · cases clean

/-- The expression has no error, and the names that are read in it have the types selected. -/
structure Expr.Resolved (around : Context) (expr : Expr) : Prop where
  /-- No error is recorded at the expression. -/
  error : expr.info.error = Option.none
  /-- The names have the types selected. -/
  uses : ∀ use ∈ expr.uses around, use.Lexical

namespace Check

variable {α : Type} {invariant : CheckState → Prop} {around : Context}

theorem settleExpr_resolves {verdict : Verdict} {expr : Expr} (fresh : expr.info.error = none)
    (uses : verdict.error = none →
      ∀ use ∈ (expr.withInfo { expr.info with type := some verdict.type }).uses around,
        use.Lexical) :
    Establishes invariant (settleExpr verdict expr) (Expr.Resolved around) := by
  refine (settleExpr_establishes fresh).mono ?_
  rintro _ ⟨clean, rfl⟩
  exact ⟨by simpa using fresh, uses clean⟩

theorem demand_resolves {wanted : ValueType} {error : ValueType → CheckError} {expr : Expr}
    (resolved : expr.Resolved around) :
    Establishes invariant (demand wanted error expr) (Expr.Resolved around) :=
  .ite (fun _ => .pure resolved) fun _ =>
    (reportExpr_establishes resolved.error).bind fun _ impossible => impossible.elim

/-- What is done where a condition holds is done in a context with the condition. -/
theorem assuming_resolves {condition : Expr} {inner : Check α} [Has CheckState.Forgot inner]
    {good : α → Prop}
    (establishes : Establishes (CheckState.Mirrors (around.holding condition)) inner good) :
    Establishes (CheckState.Mirrors around) (assuming condition inner) good := by
  intro state mirrors clean
  -- The branch is left again, so behind it the scope mirrors what it did before.
  refine ⟨?_, mirrors.forgot (Has.ran (assuming condition inner) state)⟩
  cases absent : state.absentVariable? condition with
  | none =>
      rw [assuming_of_none inner absent] at clean ⊢
      exact (establishes state (Scope.Mirrors.holding mirrors condition) clean).1
  | some name =>
      rw [assuming_of_some inner absent] at clean ⊢
      exact (establishes { state with scope := state.scope.assumeAbsent name }
        (Scope.Mirrors.assumeAbsent mirrors (saysAbsent_of_absentVariable? absent)) clean).1

/-- Checking an expression without finding a problem resolves the names in it. -/
theorem infer_resolves :
    (∀ expr : Expr, expr.outline.Fresh → ∀ around,
      Establishes (CheckState.Mirrors around) (infer expr) (Expr.Resolved around)) ∧
    ∀ exprs : List Expr, (∀ expr ∈ exprs, expr.outline.Fresh) → ∀ around,
      Establishes (CheckState.Mirrors around) (inferAll exprs) fun checked =>
        ∀ use ∈ Expr.usesIn around checked, use.Lexical := by
  apply Expr.mutual_induction
  case name =>
    intro identifier fresh around
    unfold infer
    refine .bind .view ?_
    rintro verdict ⟨state, mirrors, rfl⟩
    refine settleExpr_resolves (Expr.error_of_fresh fresh) fun clean => ?_
    simpa [Expr.withInfo, Expr.uses, Use.Lexical] using mirrors.readVerdict clean
  case integer | boolean | string =>
    intro info value fresh around
    unfold infer
    exact settleExpr_resolves (Expr.error_of_fresh fresh) fun _ => by
      simp [Expr.withInfo, Expr.uses]
  case none =>
    intro info fresh around
    unfold infer
    exact settleExpr_resolves (Expr.error_of_fresh fresh) fun _ => by
      simp [Expr.withInfo, Expr.uses]
  case list =>
    intro info elements ih fresh around
    simp only [Expr.outline, Outline.all_node, fresh_label_iff_expr, Expr.allIn_outlines] at fresh
    unfold infer
    exact (ih fresh.2 around).bind fun elements resolved => .bind .view fun type _ =>
      settleExpr_resolves fresh.1.1 fun _ => by simpa [Expr.withInfo, Expr.uses] using resolved
  case binary =>
    intro info left operator right ihLeft ihRight fresh around
    simp only [Expr.outline, Outline.all_node, fresh_label_iff_expr, Outline.allIn_cons,
      Outline.allIn_nil] at fresh
    unfold infer
    refine (ihLeft fresh.2.1 around).bind fun left first =>
      (ihRight fresh.2.2.1 around).bind fun right second => .bind .view fun verdict _ =>
        settleExpr_resolves fresh.1.1 fun _ => ?_
    simpa [Expr.withInfo, Expr.uses, or_imp, forall_and] using ⟨first.uses, second.uses⟩
  case unary =>
    intro info operator operand ih fresh around
    simp only [Expr.outline, Outline.all_node, fresh_label_iff_expr, Outline.allIn_cons,
      Outline.allIn_nil] at fresh
    unfold infer
    exact (ih fresh.2.1 around).bind fun operand resolved =>
      settleExpr_resolves fresh.1.1 fun _ => resolved.uses
  case conditional =>
    intro info condition thenExpr elseExpr ihCondition ihThen ihElse fresh around
    simp only [Expr.outline, Outline.all_node, fresh_label_iff_expr, Outline.allIn_cons,
      Outline.allIn_nil] at fresh
    unfold infer
    refine (ihCondition fresh.2.1 around).bind fun condition resolved =>
      (demand_resolves resolved).bind fun condition asked =>
      (assuming_resolves (ihThen fresh.2.2.1 _)).bind fun thenExpr first =>
      (ihElse fresh.2.2.2.1 around).bind fun elseExpr second => .bind .view fun type _ =>
        settleExpr_resolves fresh.1.1 fun _ => ?_
    simpa [Expr.withInfo, Expr.uses, or_imp, forall_and] using
      ⟨asked.uses, first.uses, second.uses⟩
  case member =>
    intro info object field ih fresh around
    simp only [Expr.outline, Outline.all_node, fresh_label_iff_expr, Outline.allIn_cons,
      Outline.allIn_nil] at fresh
    unfold infer
    exact (ih fresh.2.1 around).bind fun object resolved => .bind .view fun verdict _ =>
      settleExpr_resolves fresh.1.1 fun _ => resolved.uses
  case index =>
    intro info container position ihContainer ihPosition fresh around
    simp only [Expr.outline, Outline.all_node, fresh_label_iff_expr, Outline.allIn_cons,
      Outline.allIn_nil] at fresh
    unfold infer
    refine (ihContainer fresh.2.1 around).bind fun container first =>
      (ihPosition fresh.2.2.1 around).bind fun position resolved =>
      (demand_resolves resolved).bind fun position second =>
        settleExpr_resolves fresh.1.1 fun _ => ?_
    simpa [Expr.withInfo, Expr.uses, or_imp, forall_and] using ⟨first.uses, second.uses⟩
  case call =>
    intro info function args ih fresh around
    simp only [Expr.outline, Outline.all_node, fresh_label_iff_expr, Outline.allIn_cons,
      Expr.allIn_outlines, Identifier.fresh_outline_iff] at fresh
    unfold infer
    refine (ih fresh.2.2 around).bind fun args resolved => .bind .get fun state _ =>
      (settle_establishes fresh.2.1.1).bind fun callee _ =>
        settleExpr_resolves fresh.1.1 fun _ => ?_
    simpa [Expr.withInfo, Expr.uses] using resolved
  case methodCall =>
    intro info access object method args ihObject ihArgs fresh around
    simp only [Expr.outline, Outline.all_node, fresh_label_iff_expr, Outline.allIn_cons,
      Outline.allIn_nil, Expr.allIn_outlines, Identifier.fresh_outline_iff] at fresh
    obtain ⟨⟨infoFresh, -⟩, ⟨⟨accessFresh, -⟩, objectFresh, -⟩, argsFresh⟩ := fresh
    unfold infer
    refine (ihObject objectFresh around).bind fun object first =>
      (ihArgs argsFresh around).bind fun args others => .bind .view fun verdict _ =>
      (settle_establishes accessFresh).bind fun access _ =>
        settleExpr_resolves infoFresh fun _ => ?_
    simpa [Expr.withInfo, Expr.uses, or_imp, forall_and] using ⟨first.uses, others⟩
  case nil =>
    intro _ around
    unfold inferAll
    exact .pure (by simp [Expr.usesIn])
  case cons =>
    intro expr rest ihExpr ihRest fresh around
    obtain ⟨first, others⟩ := List.forall_mem_cons.mp fresh
    unfold inferAll
    refine (ihExpr first around).bind fun expr first => (ihRest others around).bind
      fun rest others => .pure ?_
    simpa [Expr.usesIn, or_imp, forall_and] using ⟨first.uses, others⟩

end Check

/-! ## Demands -/

theorem BindingKind.isVariable_of_isAssignable {kind : BindingKind}
    (assignable : kind.isAssignable) : kind.isVariable := by
  cases kind <;> first | rfl | cases assignable

namespace Check

variable {invariant : CheckState → Prop} {around : Context}

theorem demandFit_fits {expected actual : ValueType} {info : NodeInfo}
    (fresh : info.error = none) :
    Establishes invariant (demandFit expected actual info) fun recorded => recorded = info :=
  .bind .view fun _ _ => .ite (fun _ => .pure rfl) fun _ =>
    (report_establishes fresh).mono fun _ impossible => impossible.elim

/-! ## Targets -/

theorem forget_keeps (name : String) :
    Establishes (CheckState.Mirrors around) (modifyScope (·.forget name)) fun _ => True :=
  modifyScope_establishes fun _ mirrors => Scope.Mirrors.forget mirrors name

/-- A name that is assigned has the type that is selected. -/
theorem assignName_resolves {name : Identifier} (fresh : name.info.error = none) :
    Establishes (CheckState.Mirrors around) (assignName name) fun assigned =>
      assigned.1.info.error = none ∧ (around.assigned assigned.1).Lexical := by
  unfold assignName
  refine @Establishes.bind _ _ _ _ _ _ _ (fun found => by split <;> infer_instance) .view ?_
  rintro found ⟨state, mirrors, rfl⟩
  cases shape : (state.scope.lookupLocal name.name).filter (·.kind.isAssignable) with
  | none => exact (settle_establishes fresh).bind fun _ impossible => by cases impossible.1
  | some binding =>
      obtain ⟨bound, assignable⟩ := Option.filter_eq_some_iff.mp shape
      obtain ⟨written, selected, type⟩ := Scope.Mirrors.lookupLocal mirrors bound
        (BindingKind.isVariable_of_isAssignable assignable)
      refine (forget_keeps _).bind fun _ _ => (settle_establishes fresh).bind ?_
      rintro _ ⟨-, rfl⟩
      exact .pure ⟨fresh, .inr ⟨written, selected, congrArg some type⟩⟩

theorem assignElement_resolves {info : ExprInfo} {container position : Expr}
    (fresh : (Expr.index info container position).outline.Fresh) :
    Establishes (CheckState.Mirrors around) (assignElement info container position) fun assigned =>
      ∀ use ∈ assigned.1.targetUses around, use.Lexical := by
  simp only [Expr.outline, Outline.all_node, fresh_label_iff_expr, Outline.allIn_cons,
    Outline.allIn_nil] at fresh
  unfold assignElement
  refine (infer_resolves.1 container fresh.2.1 around).bind fun container first =>
    (infer_resolves.1 position fresh.2.2.1 around).bind fun position resolved =>
    (demand_resolves resolved).bind fun position second =>
    (settle_establishes fresh.1.1).bind fun info _ => ?_
  have uses : ∀ use ∈ (Expr.index info container position).targetUses around, use.Lexical := by
    simpa [Expr.targetUses, Expr.uses, or_imp, forall_and] using ⟨first.uses, second.uses⟩
  exact .ite (fun _ => .pure uses) fun _ => .pure uses

theorem assignTarget_resolves {target : Expr} (isTarget : target.isTarget = true)
    (fresh : target.outline.Fresh) :
    Establishes (CheckState.Mirrors around) (assignTarget target) fun assigned =>
      ∀ use ∈ assigned.1.targetUses around, use.Lexical := by
  cases target with
  | name identifier =>
      refine (assignName_resolves (Expr.error_of_fresh fresh)).bind fun assigned resolved => ?_
      exact .pure (List.forall_mem_singleton.mpr resolved.2)
  | index info container position => exact assignElement_resolves fresh
  | member info object field =>
      have shape : Establishes (CheckState.Mirrors around)
          (infer (.member info object field)) fun checked =>
            ∃ info object field, checked = .member info object field :=
        fun state mirrors clean => ⟨infer_member_shape info object field state,
          (infer_resolves.1 _ fresh around state mirrors clean).2⟩
      refine ((infer_resolves.1 _ fresh around).and shape).bind ?_
      rintro _ ⟨resolved, info, object, field, rfl⟩
      exact .pure resolved.uses
  | _ => cases isTarget

theorem assignAll_resolves (value : ValueType) {info : NodeInfo} (freshInfo : info.error = none)
    {targets : List Expr} (raw : ∀ target ∈ targets, target.isTarget ∧ target.outline.Fresh) :
    Establishes (CheckState.Mirrors around) (assignAll value info targets) fun assigned =>
      ∀ use ∈ assigned.1.flatMap (Expr.targetUses around), use.Lexical := by
  induction targets with
  | nil => exact .pure (by simp)
  | cons target rest ih =>
      obtain ⟨⟨isTarget, fresh⟩, others⟩ := List.forall_mem_cons.mp raw
      have fits (type : Option ValueType) :
          Establishes (CheckState.Mirrors around) (demandFits value type info)
            fun recorded => recorded = info := by
        cases type with
        | none => exact .pure rfl
        | some type => exact demandFit_fits freshInfo
      rw [assignAll_cons]
      refine (assignTarget_resolves isTarget fresh).bind fun assigned first =>
        (fits assigned.2).bind ?_
      rintro _ rfl
      refine (ih others).bind fun later others => .pure ?_
      rw [List.flatMap_cons, List.forall_mem_append]
      exact ⟨first, others⟩

/-! ## Statements -/

theorem checkAssignment_resolves {info : NodeInfo} {targets : List Expr} {value : Expr}
    (raw : (Stmt.assign info targets value).Raw) :
    Establishes (CheckState.Mirrors around) (checkAssignment info targets value) fun checked =>
      ∀ use ∈ checked.uses around, use.Lexical := by
  obtain ⟨freshInfo, targetsRaw, freshValue⟩ := raw.assign
  rw [checkAssignment_eq]
  refine (infer_resolves.1 value freshValue around).bind fun value second => ?_
  have single : Establishes (CheckState.Mirrors around) (demandSingle targets value.type info)
      fun recorded => recorded = info :=
    .ite (fun _ => (report_establishes freshInfo).mono fun _ impossible => impossible.elim)
      fun _ => .pure rfl
  refine single.bind ?_
  rintro _ rfl
  refine (assignAll_resolves value.type freshInfo targetsRaw).bind fun assigned first => .pure ?_
  rw [Stmt.uses, List.forall_mem_append]
  exact ⟨first, second.uses⟩

theorem takeElement_resolves (iteration : Iteration) {element : Identifier} {iterable : Expr}
    (fresh : element.info.error = none) (resolved : iterable.Resolved around) :
    Establishes (CheckState.Mirrors around) (takeElement iteration element iterable) fun head =>
      (around.assigned head.1).Lexical ∧ head.2.Resolved around := by
  refine @Establishes.bind _ _ _ _ _ _ _ (fun assigned => by dsimp only; split <;> infer_instance)
    (assignName_resolves fresh) ?_
  rintro ⟨assigned, type⟩ ⟨freshAssigned, lexical⟩
  cases type with
  | none => exact .pure ⟨lexical, resolved⟩
  | some expected =>
      cases iteration.type? with
      | none => exact .pure ⟨lexical, resolved⟩
      | some actual =>
          refine (demandFit_fits freshAssigned).bind ?_
          rintro _ rfl
          exact .pure ⟨lexical, resolved⟩

theorem checkLoopHead_resolves {element : Identifier} {iterable : Expr}
    (freshElement : element.info.error = none) (fresh : iterable.outline.Fresh) :
    Establishes (CheckState.Mirrors around) (checkLoopHead element iterable) fun head =>
      (around.assigned head.1).Lexical ∧ head.2.Resolved around := by
  rw [checkLoopHead_eq]
  refine (infer_resolves.1 iterable fresh around).bind fun iterable resolved => ?_
  have iterates : Establishes (CheckState.Mirrors around) (demandIterable iterable)
      (Expr.Resolved around) :=
    .ite (fun _ => (reportExpr_establishes resolved.error).bind fun _ impossible =>
      impossible.elim) fun _ => .pure resolved
  exact iterates.bind fun checked resolved => takeElement_resolves _ freshElement resolved

theorem inferOptional_resolves {value : Option Expr} (fresh : ∀ expr ∈ value, expr.outline.Fresh) :
    Establishes (CheckState.Mirrors around) (inferOptional value) fun checked =>
      ∀ use ∈ checked.elim [] (Expr.uses around), use.Lexical := by
  cases value with
  | none => exact .pure (by simp)
  | some value =>
      exact (infer_resolves.1 value (fresh value rfl) around).bind fun value resolved =>
        .pure resolved.uses

theorem checkReturn_resolves {info : NodeInfo} {value : Option Expr}
    (fresh : (Stmt.ret info value).outline.Fresh) :
    Establishes (CheckState.Mirrors around) (checkReturn info value) fun checked =>
      ∀ use ∈ checked.uses around, use.Lexical := by
  have freshInfo : info.error = none := by simpa [Stmt.outline] using fresh.1
  have freshValue : ∀ expr ∈ value, expr.outline.Fresh := by
    rintro expr rfl
    simpa [Stmt.outline, freshInfo] using fresh
  unfold checkReturn
  refine @Establishes.bind _ _ _ _ _ _ _ (fun state => by split <;> infer_instance) .get ?_
  intro state _
  cases state.results with
  | nil =>
      exact (inferOptional_resolves freshValue).bind fun value _ =>
        (report_establishes freshInfo).bind fun _ impossible => impossible.elim
  | cons wanted outer =>
      refine @Establishes.bind _ _ _ _ _ _ _ (fun checked => by split <;> infer_instance)
        (inferOptional_resolves freshValue) fun checked resolved => ?_
      cases checked with
      | none =>
          refine .bind .view fun fits _ => .ite (fun _ => .pure resolved) fun _ =>
            (report_establishes freshInfo).bind fun _ impossible => impossible.elim
      | some value => exact (demandFit_fits freshInfo).bind fun recorded _ => .pure resolved

theorem inferCondition_resolves {condition : Expr} (fresh : condition.outline.Fresh) :
    Establishes (CheckState.Mirrors around) (inferCondition condition) (Expr.Resolved around) :=
  (infer_resolves.1 condition fresh around).bind fun _ resolved => demand_resolves resolved

/-- Checking statements without finding a problem resolves the names in them. -/
theorem checkStmt_resolves :
    (∀ stmt : Stmt, stmt.Raw → ∀ around,
      Establishes (CheckState.Mirrors around) (checkStmt stmt) fun checked =>
        ∀ use ∈ checked.uses around, use.Lexical) ∧
    ∀ stmts : List Stmt, (∀ stmt ∈ stmts, stmt.Raw) → ∀ around,
      Establishes (CheckState.Mirrors around) (checkStmts stmts) fun checked =>
        ∀ use ∈ Stmt.usesIn around checked, use.Lexical := by
  apply Stmt.mutual_induction
  case expr =>
    rintro info value ⟨_, fresh⟩ around
    simp only [Stmt.outline, Outline.all_node, Outline.allIn_cons] at fresh
    unfold checkStmt
    exact (infer_resolves.1 value fresh.2.1 around).bind fun value resolved =>
      .pure resolved.uses
  case assign =>
    intro info targets value raw around
    unfold checkStmt
    exact checkAssignment_resolves raw
  case ifElse =>
    intro info condition thenBody elseBody ihThen ihElse raw around
    obtain ⟨fresh, rawThen, rawElse⟩ := raw.ifElse
    unfold checkStmt
    refine (inferCondition_resolves fresh).bind fun condition asked =>
      (assuming_resolves (ihThen rawThen _)).bind fun thenBody first =>
      (ihElse rawElse around).bind fun elseBody second => .pure ?_
    simpa [Stmt.uses, or_imp, forall_and] using ⟨asked.uses, first, second⟩
  case whileLoop =>
    intro info condition body ih raw around
    obtain ⟨fresh, rawBody⟩ := raw.whileLoop
    unfold checkStmt
    refine (inferCondition_resolves fresh).bind fun condition asked =>
      (ih rawBody around).bind fun body inner => .pure ?_
    simpa [Stmt.uses, or_imp, forall_and] using ⟨asked.uses, inner⟩
  case forLoop =>
    intro info element iterable body ih raw around
    obtain ⟨freshElement, fresh, rawBody⟩ := raw.forLoop
    unfold checkStmt
    refine (checkLoopHead_resolves freshElement fresh).bind ?_
    rintro ⟨element, iterable⟩ ⟨lexical, resolved⟩
    refine (ih rawBody around).bind fun body inner => .pure ?_
    simpa [Stmt.uses, or_imp, forall_and] using ⟨lexical, resolved.uses, inner⟩
  case ret =>
    rintro info value ⟨_, fresh⟩ around
    unfold checkStmt
    exact checkReturn_resolves fresh
  case nil =>
    intro _ around
    unfold checkStmts
    exact .pure (by simp [Stmt.usesIn])
  case cons =>
    intro stmt rest ihStmt ihRest all around
    obtain ⟨first, others⟩ := List.forall_mem_cons.mp all
    unfold checkStmts
    refine (ihStmt first around).bind fun stmt first => (ihRest others around).bind
      fun rest others => .pure ?_
    simpa [Stmt.usesIn, or_imp, forall_and] using ⟨first, others⟩

end Check

end ChocoLang
