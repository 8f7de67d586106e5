import ChocoLang.Proofs.Checking.Effects
import ChocoLang.Proofs.Syntax.Paths
import ChocoLang.Proofs.Typing.Narrowing

/-!
# Narrowing in expressions

A name that is read with the type of the absent value is explained by the way to it: a condition on
the way says that the variable is absent, and from there on nothing is done about the variable.  Or
else nothing is done about it on the whole way, and the variable is narrowed where the way begins.
-/

namespace ChocoLang

/-- The name has been assigned where it cannot be assigned. -/
def Identifier.Refused (name : Identifier) : Prop :=
  name.info.error = some (CheckError.notAssignable name.name).message

/-- The step says that a variable is absent. -/
def Step.Says (step : Step) (target : String) : Prop :=
  ∃ condition, step = .holding condition ∧ condition.SaysAbsent target

/-- At the step a variable is only assigned where it cannot be, and not said to be absent. -/
structure Step.Spares (step : Step) (target : String) : Prop where
  /-- The variable is only assigned where it cannot be. -/
  refused : ∀ name ∈ step.names, name.name = target → name.Refused
  /-- The step does not say that the variable is absent. -/
  silent : ¬ step.Says target

/-- Every step spares the variable. -/
def Untouched (way : List Step) (target : String) : Prop := ∀ step ∈ way, step.Spares target

/-- A condition on the way says that the variable is absent, and the steps behind it spare it. -/
def Justified (way : List Step) (target : String) : Prop :=
  ∃ outer condition inner, way = outer ++ .holding condition :: inner ∧
    condition.SaysAbsent target ∧ Untouched inner target

theorem Justified.inside {way : List Step} {target : String} (justified : Justified way target)
    (step : Step) : Justified (step :: way) target := by
  obtain ⟨outer, condition, inner, rfl, stated, untouched⟩ := justified
  exact ⟨step :: outer, condition, inner, rfl, stated, untouched⟩

/-- If the read has the type of the absent value, then it is justified or the variable narrowed. -/
def Scope.Explains (scope : Scope) (read : Read) : Prop :=
  read.name.info.type = some .none → Justified read.way read.name.name ∨
    scope.Narrows read.name.name ∧ Untouched read.way read.name.name

/-- What is narrowed behind a step is said there, or spared and narrowed before. -/
def Step.Leads (step : Step) (outer inner : Scope) : Prop :=
  ∀ target, inner.Narrows target → step.Says target ∨ outer.Narrows target ∧ step.Spares target

theorem Scope.Explains.inside {outer inner : Scope} {read : Read} (explains : inner.Explains read)
    {step : Step} (leads : step.Leads outer inner) : outer.Explains (read.inside step) := by
  intro absent
  rcases explains absent with justified | ⟨narrows, untouched⟩
  · exact .inl (justified.inside step)
  · rcases leads _ narrows with ⟨condition, rfl, stated⟩ | ⟨before, spares⟩
    · exact .inl ⟨[], condition, read.way, rfl, stated, untouched⟩
    · exact .inr ⟨before, List.forall_mem_cons.mpr ⟨spares, untouched⟩⟩

theorem Scope.explains_map_inside {outer inner : Scope} {reads : List Read} {step : Step}
    (explained : ∀ read ∈ reads, inner.Explains read) (leads : step.Leads outer inner) :
    ∀ read ∈ reads.map (Read.inside step), outer.Explains read :=
  List.forall_mem_map.mpr fun read among => (explained read among).inside leads

/-- A condition that narrows a variable says that it is absent. -/
theorem saysAbsent_of_saidAbsent? {condition : Expr} {target : String}
    (said : saidAbsent? condition = some target) : condition.SaysAbsent target := by
  unfold saidAbsent? at said
  split at said
  · next info left right =>
      split at said
      · next identifier compared =>
          cases said
          unfold comparedWithNone? at compared
          split at compared
          · cases compared
            exact .left _ _ _
          · cases compared
            exact .right _ _ _
          · cases compared
      · cases said
  · cases said

theorem saysAbsent_of_absentVariable? {state : CheckState} {condition : Expr} {target : String}
    (absent : state.absentVariable? condition = some target) : condition.SaysAbsent target := by
  refine saysAbsent_of_saidAbsent? ?_
  unfold CheckState.absentVariable? at absent
  obtain ⟨name, said, rest⟩ := Option.bind_eq_some_iff.mp absent
  obtain ⟨binding, -, same⟩ := Option.bind_eq_some_iff.mp rest
  split at same
  · cases same
    exact said
  · cases same

namespace Check

variable {α : Type}

/-- What is done under a condition is done behind the step that the condition holds. -/
theorem assuming_leads (condition : Expr) (inner : Check α) [Has CheckState.Forgot inner]
    {state : CheckState} (honest : state.scope.Honest) :
    ∃ before : CheckState, before.scope.Honest ∧
      (assuming condition inner state).1 = (inner before).1 ∧
      (Step.holding condition).Leads state.scope before.scope ∧
      ∀ target, (assuming condition inner state).2.scope.Narrows target →
        (inner before).2.scope.Narrows target := by
  have spares {target : String} (silent : ¬ (Step.holding condition).Says target) :
      (Step.holding condition).Spares target := ⟨by simp [Step.names], silent⟩
  cases absent : state.absentVariable? condition with
  | none =>
      rw [assuming_of_none inner absent]
      refine ⟨state, honest, rfl, fun target narrows => ?_, fun target => id⟩
      by_cases stated : (Step.holding condition).Says target
      · exact .inl stated
      · exact .inr ⟨narrows, spares stated⟩
  | some name =>
      rw [assuming_of_some inner absent]
      refine ⟨{ state with scope := state.scope.assumeAbsent name }, honest.assumeAbsent name,
        rfl, fun target narrows => ?_, fun target narrows => ?_⟩
      · by_cases stated : (Step.holding condition).Says target
        · exact .inl stated
        · rcases Scope.narrows_of_assumeAbsent narrows with rfl | before
          · exact .inl ⟨condition, rfl, saysAbsent_of_absentVariable? absent⟩
          · exact .inr ⟨before, spares stated⟩
      · obtain ⟨names, found, after⟩ : CheckState.Forgot _ _ :=
          Has.ran inner { state with scope := state.scope.assumeAbsent name }
        dsimp only at narrows
        rw [after] at narrows ⊢
        have inside := (state.scope.inside_assumeAbsent name).forgetAll_branch names
        rw [inside.leave] at narrows
        exact inside.narrows narrows

/-! ## Recorded types -/

theorem type_settle (verdict : Verdict) (info : ExprInfo) (state : CheckState) :
    (settle verdict info state).1.type = some verdict.type := by
  unfold settle
  cases verdict.error <;> rfl

/-- Recording something else than a type changes no read. -/
theorem explains_withInfo {scope : Scope} {expr : Expr} {info : ExprInfo}
    (same : info.type = expr.info.type) (explained : ∀ read ∈ expr.reads, scope.Explains read) :
    ∀ read ∈ (expr.withInfo info).reads, scope.Explains read := by
  cases expr with
  | name identifier =>
      simp only [Expr.withInfo, Expr.reads, List.forall_mem_singleton] at explained ⊢
      exact fun absent => explained (same ▸ absent)
  | _ => exact explained

theorem explains_demand {scope : Scope} (wanted : ValueType) (error : ValueType → CheckError)
    {expr : Expr} (explained : ∀ read ∈ expr.reads, scope.Explains read) (state : CheckState) :
    ∀ read ∈ (demand wanted error expr state).1.reads, scope.Explains read := by
  unfold demand
  split
  · exact explained
  · exact explains_withInfo rfl explained

end Check

/-! ## Names -/

/-- A name that is read with the type of the absent value is narrowed. -/
theorem Scope.Honest.narrows_of_readVerdict {scope : Scope} (honest : scope.Honest) {name : String}
    (absent : (scope.readVerdict name).type = .none) : scope.Narrows name := by
  unfold readVerdict at absent
  split at absent
  · cases absent
  · next binding found =>
      split at absent
      · exact honest.narrows found absent
      · cases absent

/-- A name that is called with the type of the absent value is narrowed. -/
theorem Scope.Honest.narrows_of_nameCallVerdict {scope : Scope} (honest : scope.Honest)
    {hierarchy : ClassHierarchy} {name : String} {args : List ValueType}
    (absent : (hierarchy.nameCallVerdict scope name args).callee.type = .none) :
    scope.Narrows name := by
  unfold ClassHierarchy.nameCallVerdict at absent
  split at absent
  · cases absent
  · next binding found =>
      split at absent
      · unfold ClassHierarchy.constructionVerdict at absent
        split at absent
        · cases absent
        · split at absent <;> cases absent
      · next shape =>
          cases (shape.symm.trans absent : ValueType.function _ _ = .none)
      · exact honest.narrows found absent

namespace Check

/-- A name that has been looked up is explained by the scope. -/
theorem explains_name {scope : Scope} {name : Identifier}
    (narrows : name.info.type = some .none → scope.Narrows name.name) :
    scope.Explains ⟨[], name⟩ :=
  fun absent => .inr ⟨narrows absent, by simp [Untouched]⟩

/-- The names read in an expression are explained by the scope it is checked in. -/
theorem infer_explains :
    (∀ (expr : Expr) (state : CheckState), state.scope.Honest →
      ∀ read ∈ (infer expr state).1.reads, state.scope.Explains read) ∧
    ∀ (exprs : List Expr) (state : CheckState), state.scope.Honest →
      ∀ read ∈ Expr.readsIn (inferAll exprs state).1, state.scope.Explains read := by
  apply Expr.mutual_induction
  case name =>
    intro identifier state honest
    unfold infer
    simp only [bind_apply, settleExpr_apply, Expr.withInfo, Expr.reads, List.forall_mem_singleton]
    refine explains_name fun absent => honest.narrows_of_readVerdict ?_
    rw [type_settle] at absent
    exact Option.some.inj absent
  case integer | boolean | string =>
    intro info value state _ read among
    unfold infer at among
    cases among
  case none =>
    intro info state _ read among
    unfold infer at among
    cases among
  case list =>
    intro info elements ih state honest
    unfold infer
    simp only [bind_apply, settleExpr_apply, Expr.withInfo, Expr.reads]
    exact ih state honest
  case binary =>
    intro info left operator right ihLeft ihRight state honest
    unfold infer
    simp only [bind_apply, settleExpr_apply, Expr.withInfo, Expr.reads, List.forall_mem_append]
    refine ⟨ihLeft state honest, ?_⟩
    rw [← scope_apply (infer left) state] at honest ⊢
    exact ihRight _ honest
  case unary =>
    intro info operator operand ih state honest
    unfold infer
    simp only [bind_apply, settleExpr_apply, Expr.withInfo, Expr.reads]
    exact ih state honest
  case conditional =>
    intro info condition thenExpr elseExpr ihCondition ihThen ihElse state honest
    unfold infer
    simp only [bind_apply, settleExpr_apply, Expr.withInfo, Expr.reads, List.forall_mem_append]
    refine ⟨⟨explains_demand _ _ (ihCondition state honest) _, ?_⟩, ?_⟩
    · have asked := scope_apply (inferCondition condition) state
      obtain ⟨before, within, same, leads, -⟩ := assuming_leads (inferCondition condition state).1
        (infer thenExpr) (asked ▸ honest)
      change ∀ read ∈ (assuming (inferCondition condition state).1 (infer thenExpr)
        (inferCondition condition state).2).1.reads.map _, _
      rw [same, ← asked]
      exact Scope.explains_map_inside (ihThen before within) leads
    · have later := scope_apply (do
        let condition ← inferCondition condition
        assuming condition (infer thenExpr)) state
      rw [← later] at honest ⊢
      exact ihElse _ honest
  case member =>
    intro info object field ih state honest
    unfold infer
    simp only [bind_apply, settleExpr_apply, Expr.withInfo, Expr.reads]
    exact ih state honest
  case index =>
    intro info container position ihContainer ihPosition state honest
    unfold infer
    simp only [bind_apply, settleExpr_apply, Expr.withInfo, Expr.reads, List.forall_mem_append]
    refine ⟨ihContainer state honest, explains_demand _ _ ?_ _⟩
    rw [← scope_apply (infer container) state] at honest ⊢
    exact ihPosition _ honest
  case call =>
    intro info function args ih state honest
    unfold infer
    simp only [bind_apply, settleExpr_apply, Expr.withInfo, Expr.reads, List.forall_mem_cons]
    refine ⟨explains_name fun absent => ?_, ih state honest⟩
    rw [type_settle, get_apply] at absent
    rw [← scope_apply (inferAll args) state] at honest ⊢
    exact honest.narrows_of_nameCallVerdict (Option.some.inj absent)
  case methodCall =>
    intro info access object method args ihObject ihArgs state honest
    unfold infer
    simp only [bind_apply, settleExpr_apply, Expr.withInfo, Expr.reads, List.forall_mem_append]
    refine ⟨ihObject state honest, ?_⟩
    rw [← scope_apply (infer object) state] at honest ⊢
    exact ihArgs _ honest
  case nil =>
    intro state _
    unfold inferAll
    simp [Expr.readsIn, pure_apply]
  case cons =>
    intro expr rest ihExpr ihRest state honest
    unfold inferAll
    refine List.forall_mem_append.mpr ⟨ihExpr state honest, ?_⟩
    rw [← scope_apply (infer expr) state] at honest ⊢
    exact ihRest _ honest

end Check
end ChocoLang
