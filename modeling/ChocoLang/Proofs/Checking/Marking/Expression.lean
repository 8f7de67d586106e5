import ChocoLang.Proofs.Checking.Effects
import ChocoLang.Proofs.Syntax.Labels

/-!
# Problems and marks in expressions

A problem that is found is recorded twice: in the list of problems, and at the node it is found at.
So every step of checking adds as many problems of a message and a text as it adds marks.
-/

namespace ChocoLang

/-- How many of the problems found so far have the mark. -/
def CheckState.tally (mark : Mark) (state : CheckState) : Nat :=
  (state.problems.map fun problem => problem.toDiagnostic.mark).count mark

namespace Check

/--
The action is given something that bears the mark a number of times, and returns something that
bears it as often and once more for each problem with the mark that is found.
-/
def Records {α : Type} (mark : Mark) (action : Check α) (given : Nat) (returned : α → Nat) : Prop :=
  ∀ state, returned (action state).1 + state.tally mark = given + (action state).2.tally mark

namespace Records

variable {α : Type} {mark : Mark} {action : Check α} {given : Nat} {returned : α → Nat}

theorem ran (records : Records mark action given returned) (state : CheckState) :
    returned (action state).1 + state.tally mark = given + (action state).2.tally mark :=
  records state

/-- What is counted before the action is still there behind it. -/
theorem behind (records : Records mark action given returned) {state : CheckState}
    {start total : Nat} (before : given + start = total + state.tally mark) :
    returned (action state).1 + start = total + (action state).2.tally mark := by
  have after := records.ran state
  omega

theorem pure {value : α} (same : returned value = given) :
    Records mark (pure value) given returned := fun _ => congrArg (· + _) same

/-- What is given besides keeps its marks. -/
theorem frame (records : Records mark action given returned) (rest : Nat) :
    Records mark action (given + rest) fun value => returned value + rest := by
  intro state
  have after := records.ran state
  dsimp only
  omega

/-- What one action returns is given to the next one. -/
theorem bind {β : Type} {before : Check β} {between : β → Nat} {next : β → Check α}
    (first : Records mark before given between)
    (second : ∀ value, Records mark (next value) (between value) returned) :
    Records mark (before >>= next) given returned := fun state =>
  (second _).behind (first.ran state)

/-- What is returned may be put together with something that bears no marks. -/
theorem map {β : Type} {change : β → α} {action : Check β}
    (records : Records mark action given fun value => returned (change value)) :
    Records mark (do return change (← action)) given returned := records

/-- Looking at the state records nothing. -/
theorem view {β : Type} {look : CheckState → β} {next : β → Check α}
    (each : ∀ value, Records mark (next value) given returned) :
    Records mark (view look >>= next) given returned := fun state => each _ state

theorem get {next : CheckState → Check α}
    (each : ∀ state, Records mark (next state) given returned) :
    Records mark (get >>= next) given returned := fun state => each state state

end Records

variable (mark : Mark)

/-! ## Reports -/

theorem report_records (error : CheckError) (info : NodeInfo) :
    Records mark (report error info) (info.tally mark) (NodeInfo.tally mark) := by
  intro state
  rw [report_apply]
  split
  · rfl
  · next clean =>
      have before : info.tally mark = 0 := NodeInfo.tally_of_clean (by simpa using clean)
      have found : (⟨error, info.span⟩ : Located CheckError).toDiagnostic.mark =
        (error.message, some info.span) := rfl
      rw [before]
      simp only [NodeInfo.tally, CheckState.tally, List.map_append, List.count_append,
        List.map_cons, List.map_nil, found, List.count_singleton, Option.map_some,
        Option.some.injEq, beq_iff_eq]
      omega

theorem reportExpr_records (error : CheckError) (info : ExprInfo) :
    Records mark (reportExpr error info) (info.toNodeInfo.tally mark)
      fun info => info.toNodeInfo.tally mark :=
  report_records mark error info.toNodeInfo

theorem reportName_records (error : CheckError) (name : Identifier) :
    Records mark (reportName error name) (name.outline.tally mark)
      fun name => name.outline.tally mark :=
  reportExpr_records mark error name.info

theorem settle_records (verdict : Verdict) (info : ExprInfo) :
    Records mark (settle verdict info) (info.toNodeInfo.tally mark)
      fun info => info.toNodeInfo.tally mark := by
  intro state
  unfold settle
  cases verdict.error with
  | some error => exact reportExpr_records mark error info state
  | none => rfl

theorem settleExpr_records (verdict : Verdict) (expr : Expr) :
    Records mark (settleExpr verdict expr) (expr.outline.tally mark)
      fun expr => expr.outline.tally mark := by
  intro state
  have own := (settle_records mark verdict expr.info).ran state
  have whole := expr.tally_withInfo mark (settle verdict expr.info state).1
  rw [settleExpr_apply]
  dsimp only
  omega

/-! ## Expressions -/

theorem demand_records (wanted : ValueType) (error : ValueType → CheckError) (expr : Expr) :
    Records mark (demand wanted error expr) (expr.outline.tally mark)
      fun expr => expr.outline.tally mark := by
  intro state
  unfold demand
  split
  · rfl
  · have own := (reportExpr_records mark (error expr.type) expr.info).ran state
    have whole := expr.tally_withInfo mark (reportExpr (error expr.type) expr.info state).1
    dsimp only [bind_apply, pure_apply]
    omega

theorem demandCondition_records (expr : Expr) :
    Records mark (demandCondition expr) (expr.outline.tally mark)
      fun expr => expr.outline.tally mark :=
  demand_records mark .bool .conditionType expr

theorem demandPosition_records (expr : Expr) :
    Records mark (demandPosition expr) (expr.outline.tally mark)
      fun expr => expr.outline.tally mark :=
  demand_records mark .int .positionType expr

variable {mark} in
theorem assuming_records {α : Type} {inner : Check α} {given : Nat} {returned : α → Nat}
    (records : Records mark inner given returned) (condition : Expr) :
    Records mark (assuming condition inner) given returned := by
  intro state
  cases absent : state.absentVariable? condition with
  | none =>
      rw [assuming_of_none inner absent]
      exact records state
  | some name =>
      rw [assuming_of_some inner absent]
      exact records { state with scope := state.scope.assumeAbsent name }

section

attribute [local simp] Expr.outline Expr.outlines

/-- Checking expressions records every problem at one of their nodes. -/
theorem infer_records :
    (∀ expr, Records mark (infer expr) (expr.outline.tally mark)
      fun expr => expr.outline.tally mark) ∧
    ∀ exprs, Records mark (inferAll exprs) (Outline.tallyAll mark (Expr.outlines exprs))
      fun exprs => Outline.tallyAll mark (Expr.outlines exprs) := by
  apply Expr.mutual_induction
  case name =>
    intro name state
    unfold infer
    exact settleExpr_records mark (state.scope.readVerdict name.name) (.name name) state
  case integer | boolean | string | none =>
    intros
    unfold infer
    exact settleExpr_records mark _ _
  case list =>
    intro info elements ih state
    have inside := ih.ran state
    unfold infer
    simp only [bind_apply, view_apply]
    refine (settleExpr_records mark _ _).behind ?_
    simp only [Expr.outline, Outline.tally_node]
    omega
  case binary =>
    intro info left operator right ihLeft ihRight state
    have first := ihLeft.ran state
    have second := ihRight.ran (infer left state).2
    unfold infer
    simp only [bind_apply, view_apply]
    refine (settleExpr_records mark _ _).behind ?_
    simp
    omega
  case unary =>
    intro info operator operand ih state
    have inside := ih.ran state
    unfold infer
    simp only [bind_apply]
    refine (settleExpr_records mark _ _).behind ?_
    simp
    omega
  case conditional =>
    intro info condition thenExpr elseExpr ihCondition ihThen ihElse state
    have tested := ihCondition.ran state
    unfold infer
    simp only [bind_apply, view_apply]
    generalize infer condition state = ran at tested ⊢
    have demanded := (demandCondition_records mark ran.1).ran ran.2
    generalize demandCondition ran.1 ran.2 = wanted at demanded ⊢
    have chosen := (assuming_records ihThen wanted.1).ran wanted.2
    have other := ihElse.ran (assuming wanted.1 (infer thenExpr) wanted.2).2
    refine (settleExpr_records mark _ _).behind ?_
    simp
    omega
  case member =>
    intro info object field ih state
    have inside := ih.ran state
    unfold infer
    simp only [bind_apply, view_apply]
    refine (settleExpr_records mark _ _).behind ?_
    simp
    omega
  case index =>
    intro info container position ihContainer ihPosition state
    have first := ihContainer.ran state
    have second := ihPosition.ran (infer container state).2
    unfold infer
    simp only [bind_apply]
    generalize infer position (infer container state).2 = ran at second ⊢
    have demanded := (demandPosition_records mark ran.1).ran ran.2
    refine (settleExpr_records mark _ _).behind ?_
    simp
    omega
  case call =>
    intro info function args ih state
    have inside := ih.ran state
    unfold infer
    simp only [bind_apply, get_apply]
    generalize inferAll args state = ran at inside ⊢
    generalize ran.2.hierarchy.nameCallVerdict _ _ _ = verdict
    have own := (settle_records mark verdict.callee function.info).ran ran.2
    refine (settleExpr_records mark _ _).behind ?_
    simp
    omega
  case methodCall =>
    intro info access object method args ihObject ihArgs state
    have first := ihObject.ran state
    have second := ihArgs.ran (infer object state).2
    unfold infer
    simp only [bind_apply, view_apply]
    generalize inferAll args (infer object state).2 = ran at second ⊢
    generalize ran.2.hierarchy.methodCallVerdict _ _ _ = verdict
    have own := (settle_records mark verdict.callee access).ran ran.2
    refine (settleExpr_records mark _ _).behind ?_
    simp
    omega
  case nil =>
    intro state
    unfold inferAll
    rfl
  case cons =>
    intro expr rest ihExpr ihRest state
    have first := ihExpr.ran state
    have others := ihRest.ran (infer expr state).2
    unfold inferAll
    simp only [bind_apply, pure_apply, Expr.outlines, Outline.tallyAll_cons]
    omega

end

theorem inferCondition_records (condition : Expr) :
    Records mark (inferCondition condition) (condition.outline.tally mark)
      fun condition => condition.outline.tally mark := by
  intro state
  have inside := ((infer_records mark).1 condition).ran state
  exact (demandCondition_records mark _).behind inside

end Check
end ChocoLang
