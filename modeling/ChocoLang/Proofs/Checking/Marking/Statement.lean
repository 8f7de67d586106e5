import ChocoLang.Proofs.Checking.Marking.Expression

/-!
# Problems and marks in statements

Every problem that is found in a statement is recorded at one of its nodes: at a target, at the
variable or the iterable of a loop, at an expression in it, or at the statement as a whole.
-/

namespace ChocoLang

namespace Check

variable (mark : Mark)

/-! ## Targets -/

theorem demandFit_records (expected actual : ValueType) (info : NodeInfo) :
    Records mark (demandFit expected actual info) (info.tally mark) (NodeInfo.tally mark) := by
  unfold demandFit fits
  refine .view fun fits => ?_
  split
  · exact .pure rfl
  · exact report_records mark _ info

theorem demandFits_records (value : ValueType) (target : Option ValueType) (info : NodeInfo) :
    Records mark (demandFits value target info) (info.tally mark) (NodeInfo.tally mark) := by
  cases target with
  | none => exact .pure rfl
  | some type => exact demandFit_records mark type value info

theorem assignName_records (name : Identifier) :
    Records mark (assignName name) (name.outline.tally mark)
      fun assigned => assigned.1.outline.tally mark := by
  unfold assignName
  refine .view fun found => ?_
  split
  · exact .map (settle_records mark _ name.info)
  · next binding _ =>
      intro state
      exact settle_records mark { type := binding.type } name.info
        { state with scope := state.scope.forget name.name }

theorem assignElement_records (info : ExprInfo) (container position : Expr) :
    Records mark (assignElement info container position)
      ((Expr.index info container position).outline.tally mark)
      fun assigned => assigned.1.outline.tally mark := by
  intro state
  have first := ((infer_records mark).1 container).ran state
  have second := ((infer_records mark).1 position).ran (infer container state).2
  unfold assignElement
  simp only [bind_apply]
  generalize infer position (infer container state).2 = ran at second ⊢
  have demanded := (demandPosition_records mark ran.1).ran ran.2
  generalize demandPosition ran.1 ran.2 = wanted at demanded ⊢
  have own := (settle_records mark (assignedElementVerdict (infer container state).1.type)
    info).ran wanted.2
  split <;> simp [pure_apply, Expr.outline] <;> omega

theorem assignTarget_records (target : Expr) :
    Records mark (assignTarget target) (target.outline.tally mark)
      fun assigned => assigned.1.outline.tally mark := by
  cases target with
  | name name => exact assignName_records mark name
  | index info container position => exact assignElement_records mark info container position
  | _ =>
      unfold assignTarget
      exact .map ((infer_records mark).1 _)

theorem assignAll_records (value : ValueType) (info : NodeInfo) (targets : List Expr) :
    Records mark (assignAll value info targets)
      (Outline.tallyAll mark (Expr.outlines targets) + info.tally mark)
      fun assigned => Outline.tallyAll mark (Expr.outlines assigned.1) + assigned.2.tally mark := by
  induction targets generalizing info with
  | nil => exact fun _ => rfl
  | cons target rest ih =>
      intro state
      have first := (assignTarget_records mark target).ran state
      rw [assignAll_cons]
      simp only [bind_apply, pure_apply, Expr.outlines, Outline.tallyAll_cons]
      generalize assignTarget target state = assigned at first ⊢
      have fit := (demandFits_records mark value assigned.1.2 info).ran assigned.2
      generalize demandFits value assigned.1.2 info assigned.2 = demanded at fit ⊢
      have others := (ih demanded.1).ran demanded.2
      omega

theorem demandSingle_records (targets : List Expr) (value : ValueType) (info : NodeInfo) :
    Records mark (demandSingle targets value info) (info.tally mark) (NodeInfo.tally mark) := by
  unfold demandSingle
  split
  · exact report_records mark _ info
  · exact .pure rfl

theorem checkAssignment_records (info : NodeInfo) (targets : List Expr) (value : Expr) :
    Records mark (checkAssignment info targets value)
      ((Stmt.assign info targets value).outline.tally mark)
      fun stmt => stmt.outline.tally mark := by
  intro state
  have inside := ((infer_records mark).1 value).ran state
  rw [checkAssignment_eq]
  simp only [bind_apply, pure_apply]
  generalize infer value state = ran at inside ⊢
  have single := (demandSingle_records mark targets ran.1.type info).ran ran.2
  generalize demandSingle targets ran.1.type info ran.2 = demanded at single ⊢
  have assigned := (assignAll_records mark ran.1.type demanded.1 targets).ran demanded.2
  simp [Stmt.outline]
  omega

/-! ## Loops and returns -/

theorem demandIterable_records (iterable : Expr) :
    Records mark (demandIterable iterable) (iterable.outline.tally mark)
      fun iterable => iterable.outline.tally mark := by
  intro state
  unfold demandIterable
  split
  · have own := (reportExpr_records mark (.notIterable iterable.type) iterable.info).ran state
    have whole := iterable.tally_withInfo mark
      (reportExpr (.notIterable iterable.type) iterable.info state).1
    simp only [bind_apply, pure_apply]
    omega
  · rfl

theorem takeElement_records (iteration : Iteration) (element : Identifier) (iterable : Expr) :
    Records mark (takeElement iteration element iterable)
      (element.outline.tally mark + iterable.outline.tally mark)
      fun head => head.1.outline.tally mark + head.2.outline.tally mark := by
  unfold takeElement
  refine ((assignName_records mark element).frame _).bind fun assigned => ?_
  dsimp only
  split
  · exact .map ((demandFit_records mark _ _ _).frame _)
  · exact .pure rfl

theorem checkLoopHead_records (element : Identifier) (iterable : Expr) :
    Records mark (checkLoopHead element iterable)
      (element.outline.tally mark + iterable.outline.tally mark)
      fun head => head.1.outline.tally mark + head.2.outline.tally mark := by
  intro state
  have inside := ((infer_records mark).1 iterable).ran state
  rw [checkLoopHead_eq]
  simp only [bind_apply]
  generalize infer iterable state = ran at inside ⊢
  have demanded := (demandIterable_records mark ran.1).ran ran.2
  refine (takeElement_records mark _ _ _).behind ?_
  omega

theorem inferOptional_records (value : Option Expr) :
    Records mark (inferOptional value)
      (Outline.tallyAll mark (value.map Expr.outline).toList)
      fun value => Outline.tallyAll mark (value.map Expr.outline).toList := by
  cases value with
  | none => exact fun _ => rfl
  | some value => exact (infer_records mark).1 value

theorem tally_ret (info : NodeInfo) (value : Option Expr) :
    (Stmt.ret info value).outline.tally mark =
      Outline.tallyAll mark (value.map Expr.outline).toList + info.tally mark := by
  rw [Stmt.outline, Outline.tally_node, NodeInfo.tally_label, Nat.add_comm]

variable {mark} in
/-- What is found at a return is recorded at its node. -/
theorem Records.ret {action : Check NodeInfo} {info : NodeInfo}
    (records : Records mark action (info.tally mark) (NodeInfo.tally mark)) (value : Option Expr) :
    Records mark (do return Stmt.ret (← action) value) ((Stmt.ret info value).outline.tally mark)
      fun stmt : Stmt => stmt.outline.tally mark := by
  intro state
  have own := records.ran state
  simp only [bind_apply, pure_apply, tally_ret]
  omega

theorem checkResult_records (expected : ValueType) (info : NodeInfo) (value : Option Expr) :
    Records mark (checkResult expected info value) ((Stmt.ret info value).outline.tally mark)
      fun stmt => stmt.outline.tally mark := by
  unfold checkResult
  rw [tally_ret]
  refine ((inferOptional_records mark value).frame _).bind fun value => ?_
  rw [← tally_ret]
  cases value with
  | none =>
      refine .view fun fits => ?_
      split
      · exact .pure rfl
      · exact (report_records mark _ info).ret none
  | some value => exact (demandFit_records mark _ _ info).ret (some value)

theorem checkReturn_records (info : NodeInfo) (value : Option Expr) :
    Records mark (checkReturn info value) ((Stmt.ret info value).outline.tally mark)
      fun stmt => stmt.outline.tally mark := by
  unfold checkReturn
  refine .get fun around => ?_
  split
  · rw [tally_ret]
    refine ((inferOptional_records mark value).frame _).bind fun value => ?_
    rw [← tally_ret]
    exact (report_records mark _ info).ret value
  · exact checkResult_records mark _ info value

/-! ## Statements -/

section

attribute [local simp] Stmt.outline Stmt.outlines

/-- Checking statements records every problem at one of their nodes. -/
theorem checkStmt_records :
    (∀ stmt, Records mark (checkStmt stmt) (stmt.outline.tally mark)
      fun stmt => stmt.outline.tally mark) ∧
    ∀ stmts, Records mark (checkStmts stmts) (Outline.tallyAll mark (Stmt.outlines stmts))
      fun stmts => Outline.tallyAll mark (Stmt.outlines stmts) := by
  apply Stmt.mutual_induction
  case expr =>
    intro info value state
    have inside := ((infer_records mark).1 value).ran state
    unfold checkStmt
    simp only [bind_apply, pure_apply]
    simp
    omega
  case assign =>
    intro info targets value
    unfold checkStmt
    exact checkAssignment_records mark info targets value
  case ifElse =>
    intro info condition thenBody elseBody ihThen ihElse state
    have tested := (inferCondition_records mark condition).ran state
    unfold checkStmt
    simp only [bind_apply, pure_apply]
    generalize inferCondition condition state = ran at tested ⊢
    have chosen := (assuming_records ihThen ran.1).ran ran.2
    have other := ihElse.ran (assuming ran.1 (checkStmts thenBody) ran.2).2
    simp
    omega
  case whileLoop =>
    intro info condition body ih state
    have tested := (inferCondition_records mark condition).ran state
    have inside := ih.ran (inferCondition condition state).2
    unfold checkStmt
    simp only [bind_apply, pure_apply]
    simp
    omega
  case forLoop =>
    intro info element iterable body ih state
    have head := (checkLoopHead_records mark element iterable).ran state
    have inside := ih.ran (checkLoopHead element iterable state).2
    unfold checkStmt
    simp only [bind_apply, pure_apply]
    simp at head ⊢
    omega
  case ret =>
    intro info value
    unfold checkStmt
    exact checkReturn_records mark info value
  case nil =>
    intro state
    unfold checkStmts
    rfl
  case cons =>
    intro stmt rest ihStmt ihRest state
    have first := ihStmt.ran state
    have others := ihRest.ran (checkStmt stmt state).2
    unfold checkStmts
    simp only [bind_apply, pure_apply]
    simp
    omega

end
end Check
end ChocoLang
