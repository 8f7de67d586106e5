import ChocoLang.Proofs.Checking.Annotation.Program
import ChocoLang.Proofs.Checking.Annotation.Statement
import ChocoLang.Proofs.Syntax.Bare

/-!
# The bare trees of checked expressions and statements

Checking records types and errors at an expression and changes nothing else: what was read, and
where, is the same afterwards.  It leaves the bare tree of a statement as it is, too, whichever of
its parts are found in error.
-/

namespace ChocoLang
namespace Check

/-! ## Records -/

theorem report_span (error : CheckError) (info : NodeInfo) :
    Returns (report error info) fun reported => reported.span = info.span := by
  refine .ite (fun _ => .pure rfl) fun _ => .any fun _ => .pure rfl

theorem reportExpr_span (error : CheckError) (info : ExprInfo) :
    Returns (reportExpr error info) fun reported => reported.span = info.span :=
  (report_span error info.toNodeInfo).bind fun _ same => .pure same

theorem settle_span (verdict : Verdict) (info : ExprInfo) :
    Returns (settle verdict info) fun settled => settled.span = info.span := by
  intro state
  unfold settle
  cases verdict.error with
  | none => rfl
  | some error => exact reportExpr_span error info state

theorem settleExpr_bare (verdict : Verdict) (expr : Expr) :
    Returns (settleExpr verdict expr) fun settled => settled.bare = expr.bare :=
  (settle_span verdict expr.info).bind fun _ same => .pure (Expr.bare_withInfo same)

theorem demand_bare (wanted : ValueType) (error : ValueType → CheckError) (expr : Expr) :
    Returns (demand wanted error expr) fun demanded => demanded.bare = expr.bare := by
  refine .ite (fun _ => .pure rfl) fun _ => ?_
  exact (reportExpr_span _ expr.info).bind fun _ same => .pure (Expr.bare_withInfo same)

/-! ## Expressions -/

/-- What is recorded at an expression whose parts have been checked does not matter. -/
theorem settleExpr_bare_of (verdict : Verdict) {expr checked : Expr}
    (parts : checked.bare = expr.bare) :
    Returns (settleExpr verdict checked) fun settled => settled.bare = expr.bare :=
  fun state => (settleExpr_bare verdict checked state).trans parts

section

attribute [local simp] Expr.relabel

/-- Checking expressions leaves the bare trees as they are. -/
theorem infer_bare :
    (∀ expr : Expr, Returns (infer expr) fun checked => checked.bare = expr.bare) ∧
      ∀ exprs : List Expr,
        Returns (inferAll exprs) fun checked => checked.map Expr.bare = exprs.map Expr.bare := by
  apply Expr.mutual_induction
  case name =>
    intro name
    unfold infer
    exact .any fun verdict => settleExpr_bare _ _
  case integer | boolean | string | none =>
    intros
    unfold infer
    exact settleExpr_bare _ _
  case list =>
    intro info elements ih
    unfold infer
    refine ih.bind fun checked same => .any fun type => settleExpr_bare_of _ ?_
    simpa using same
  case binary =>
    intro info left operator right ihLeft ihRight
    unfold infer
    refine ihLeft.bind fun left' first => ihRight.bind fun right' second => .any fun verdict => ?_
    exact settleExpr_bare_of _ (by simpa using ⟨first, second⟩)
  case unary =>
    intro info operator operand ih
    unfold infer
    refine ih.bind fun operand' same => settleExpr_bare_of _ ?_
    simpa using same
  case conditional =>
    intro info condition thenExpr elseExpr ihCondition ihThen ihElse
    unfold infer
    refine ihCondition.bind fun checked first => ?_
    refine (demand_bare _ _ checked).bind fun tested same => ?_
    refine (assuming_returns ihThen tested).bind fun then' second => ?_
    refine ihElse.bind fun else' third => .any fun type => settleExpr_bare_of _ ?_
    simpa using ⟨same.trans first, second, third⟩
  case member =>
    intro info object field ih
    unfold infer
    refine ih.bind fun object' same => .any fun verdict => settleExpr_bare_of _ ?_
    simpa using same
  case index =>
    intro info container position ihContainer ihPosition
    unfold infer
    refine ihContainer.bind fun container' first => ihPosition.bind fun position' second => ?_
    refine (demand_bare _ _ position').bind fun tested same => settleExpr_bare_of _ ?_
    simpa using ⟨first, same.trans second⟩
  case call =>
    intro info function args ih
    unfold infer
    refine ih.bind fun args' same => .any fun state => ?_
    refine (settle_span _ function.info).bind fun callee place => settleExpr_bare_of _ ?_
    simpa [Identifier.relabel, place] using same
  case methodCall =>
    intro info access object method args ihObject ihArgs
    unfold infer
    refine ihObject.bind fun object' first => ihArgs.bind fun args' second => .any fun verdict => ?_
    refine (settle_span _ access).bind fun access' place => settleExpr_bare_of _ ?_
    simpa [place] using ⟨first, second⟩
  case nil =>
    unfold inferAll
    exact .pure rfl
  case cons =>
    intro expr rest ihExpr ihRest
    unfold inferAll
    refine ihExpr.bind fun expr' first => ihRest.bind fun rest' others => .pure ?_
    simpa using ⟨first, others⟩

end

theorem inferCondition_bare (condition : Expr) :
    Returns (inferCondition condition) fun checked => checked.bare = condition.bare :=
  (infer_bare.1 condition).bind fun checked first state =>
    (demand_bare _ _ checked state).trans first

/-! ## Targets -/

attribute [local simp] Expr.relabel Stmt.relabel

theorem demandFit_span (expected actual : ValueType) (info : NodeInfo) :
    Returns (demandFit expected actual info) fun demanded => demanded.span = info.span :=
  .any fun _ => .ite (fun _ => .pure rfl) fun _ => report_span _ info

theorem assignName_bare (name : Identifier) :
    Returns (assignName name) fun assigned => assigned.1.bare = name.bare := by
  unfold assignName
  refine .any fun found => ?_
  split
  · exact (settle_span _ name.info).bind fun info same =>
      .pure (Identifier.bare_eq_iff.mpr ⟨same, rfl⟩)
  · exact .any fun _ => (settle_span _ name.info).bind fun info same =>
      .pure (Identifier.bare_eq_iff.mpr ⟨same, rfl⟩)

/-- What is no name is none after it has been checked. -/
theorem targetNames_of_bare {target checked : Expr} (same : checked.bare = target.bare)
    (noName : ∀ name, target ≠ .name name) : checked.targetNames = [] := by
  cases checked with
  | name identifier =>
      cases target with
      | name other => exact absurd rfl (noName other)
      | _ => cases same
  | _ => rfl

theorem assignElement_bare (info : ExprInfo) (container position : Expr) :
    Returns (assignElement info container position)
      fun assigned => assigned.1.bare = (Expr.index info container position).bare := by
  refine (infer_bare.1 container).bind fun container' first => ?_
  refine (infer_bare.1 position).bind fun position' second => ?_
  refine (demand_bare _ _ position').bind fun tested same => ?_
  refine (settle_span _ info).bind fun info' place => ?_
  have whole : (Expr.index info' container' tested).bare =
      (Expr.index info container position).bare := by
    simpa [place] using ⟨first, same.trans second⟩
  exact .ite (fun _ => .pure whole) fun _ => .pure whole

theorem assignTarget_bare (target : Expr) :
    Returns (assignTarget target) fun assigned => assigned.1.bare = target.bare := by
  unfold assignTarget
  split
  · exact (assignName_bare _).bind fun assigned same => .pure (by simpa using same)
  · exact assignElement_bare _ _ _
  · exact (infer_bare.1 _).bind fun target' same => .pure same

theorem demandFits_span (value : ValueType) (target : Option ValueType) (info : NodeInfo) :
    Returns (demandFits value target info) fun demanded => demanded.span = info.span := by
  unfold demandFits
  split
  · exact .pure rfl
  · exact demandFit_span _ _ info

theorem assignAll_bare (value : ValueType) (info : NodeInfo) (targets : List Expr) :
    Returns (assignAll value info targets) fun assigned =>
      assigned.1.map Expr.bare = targets.map Expr.bare ∧ assigned.2.span = info.span := by
  induction targets generalizing info with
  | nil => exact .pure ⟨rfl, rfl⟩
  | cons target rest ih =>
      rw [assignAll_cons]
      refine (assignTarget_bare target).bind fun assigned first => ?_
      refine (demandFits_span value assigned.2 info).bind fun info' place => ?_
      refine (ih info').bind fun later others => .pure ⟨?_, others.2.trans place⟩
      simpa using ⟨first, others.1⟩

theorem checkAssignment_bare (info : NodeInfo) (targets : List Expr) (value : Expr) :
    Returns (checkAssignment info targets value)
      fun checked => checked.bare = (Stmt.assign info targets value).bare := by
  have single (type : ValueType) :
      Returns (demandSingle targets type info) fun demanded => demanded.span = info.span :=
    .ite (fun _ => report_span _ info) fun _ => .pure rfl
  rw [checkAssignment_eq]
  refine (infer_bare.1 value).bind fun value' first => ?_
  refine (single value'.type).bind fun info' place => ?_
  refine (assignAll_bare value'.type info' targets).bind fun assigned others => .pure ?_
  simpa [others.2, place] using ⟨others.1, first⟩

/-! ## Loops and returns -/

theorem demandIterable_bare (iterable : Expr) :
    Returns (demandIterable iterable) fun demanded => demanded.bare = iterable.bare := by
  refine .ite (fun _ => ?_) fun _ => .pure rfl
  exact (reportExpr_span _ iterable.info).bind fun info same => .pure (Expr.bare_withInfo same)

theorem takeElement_bare (iteration : Iteration) (element : Identifier) (iterable : Expr) :
    Returns (takeElement iteration element iterable) fun head =>
      head.1.bare = element.bare ∧ head.2.bare = iterable.bare := by
  refine (assignName_bare element).bind fun (assigned, type) same => ?_
  dsimp only
  split
  · refine (demandFit_span _ _ assigned.info.toNodeInfo).bind fun info place => .pure ⟨?_, rfl⟩
    have before := Identifier.bare_eq_iff.mp same
    exact Identifier.bare_eq_iff.mpr ⟨place.trans before.1, before.2⟩
  · exact .pure ⟨same, rfl⟩

theorem checkLoopHead_bare (element : Identifier) (iterable : Expr) :
    Returns (checkLoopHead element iterable) fun head =>
      head.1.bare = element.bare ∧ head.2.bare = iterable.bare := by
  rw [checkLoopHead_eq]
  refine (infer_bare.1 iterable).bind fun inferred first => ?_
  refine (demandIterable_bare inferred).bind fun demanded second => ?_
  intro state
  obtain ⟨own, third⟩ := takeElement_bare (.ofType inferred.type) element demanded state
  exact ⟨own, third.trans (second.trans first)⟩

theorem inferOptional_bare (value : Option Expr) :
    Returns (inferOptional value) fun inferred => inferred.map Expr.bare = value.map Expr.bare := by
  cases value with
  | none => exact .pure rfl
  | some value => exact (infer_bare.1 value).bind fun inferred same => .pure (by simpa using same)

theorem checkReturn_bare (info : NodeInfo) (value : Option Expr) :
    Returns (checkReturn info value) fun checked => checked.bare = (Stmt.ret info value).bare := by
  refine .any fun state => ?_
  split
  · refine (inferOptional_bare value).bind fun inferred same => ?_
    exact (report_span _ info).bind fun info' place => .pure (by simpa [place] using same)
  · refine (inferOptional_bare value).bind fun inferred same => ?_
    cases inferred with
    | none =>
        refine .any fun fits => .ite (fun _ => .pure (by simpa using same)) fun _ => ?_
        exact (report_span _ info).bind fun info' place => .pure (by simpa [place] using same)
    | some inferred =>
        exact (demandFit_span _ _ info).bind fun info' place =>
          .pure (by simpa [place] using same)

/-! ## Statements -/

/-- Checking statements leaves the bare trees as they are. -/
theorem checkStmt_bare :
    (∀ stmt : Stmt, Returns (checkStmt stmt) fun checked => checked.bare = stmt.bare) ∧
      ∀ stmts : List Stmt,
        Returns (checkStmts stmts) fun checked => checked.map Stmt.bare = stmts.map Stmt.bare := by
  apply Stmt.mutual_induction
  case expr =>
    intro info value
    unfold checkStmt
    exact (infer_bare.1 value).bind fun value' same => .pure (by simpa using same)
  case assign =>
    intro info targets value
    unfold checkStmt
    exact checkAssignment_bare info targets value
  case ifElse =>
    intro info condition thenBody elseBody ihThen ihElse
    unfold checkStmt
    refine (inferCondition_bare condition).bind fun tested first => ?_
    refine (assuming_returns ihThen tested).bind fun then' second => ?_
    refine ihElse.bind fun else' third => ?_
    exact .pure (by simpa using ⟨first, second, third⟩)
  case whileLoop =>
    intro info condition body ih
    unfold checkStmt
    refine (inferCondition_bare condition).bind fun tested first => ih.bind fun body' second => ?_
    exact .pure (by simpa using ⟨first, second⟩)
  case forLoop =>
    intro info element iterable body ih
    unfold checkStmt
    refine (checkLoopHead_bare element iterable).bind ?_
    rintro ⟨element', iterable'⟩ ⟨first, second⟩
    exact ih.bind fun body' third => .pure (by simpa using ⟨first, second, third⟩)
  case ret =>
    intro info value
    unfold checkStmt
    exact checkReturn_bare info value
  case nil =>
    unfold checkStmts
    exact .pure rfl
  case cons =>
    intro stmt rest ihStmt ihRest
    unfold checkStmts
    refine ihStmt.bind fun stmt' first => ihRest.bind fun rest' others => .pure ?_
    simpa using ⟨first, others⟩

end Check

end ChocoLang
