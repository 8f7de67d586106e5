import ChocoLang.Proofs.Checking.Narrowing.Expression
import ChocoLang.Proofs.Parsing.ReadTrees
import ChocoLang.Proofs.Syntax.Places

/-!
# Types in expressions and statements

Checking an expression records a type at every value in it, whatever problems are found; the names
of members are passed over.  Checking a statement does the same, and a variable that is assigned or
that takes the values of a loop has a type also if it cannot be assigned.
-/

namespace ChocoLang
namespace Check

/-- Whatever is known before, the action returns something good. -/
def Returns {α : Type} (action : Check α) (good : α → Prop) : Prop :=
  ∀ state, good (action state).1

namespace Returns

variable {α β : Type} {action : Check α} {next : α → Check β} {good : α → Prop}
  {good' : β → Prop}

theorem pure {value : α} (holds : good value) : Returns (pure value) good := fun _ => holds

theorem bind (first : Returns action good)
    (second : ∀ value, good value → Returns (next value) good') :
    Returns (action >>= next) good' := fun state => second _ (first state) _

theorem any (second : ∀ value, Returns (next value) good') : Returns (action >>= next) good' :=
  fun _ => second _ _

theorem ite {condition : Prop} [Decidable condition] {yes no : Check α}
    (ifTrue : condition → Returns yes good) (ifFalse : ¬ condition → Returns no good) :
    Returns (if condition then yes else no) good := by
  split
  · next holds => exact ifTrue holds
  · next fails => exact ifFalse fails

end Returns

/-! ## Recorded types -/

/-- Reports change no type. -/
theorem reportExpr_type (error : CheckError) (info : ExprInfo) :
    Returns (reportExpr error info) fun reported => reported.type = info.type := fun _ => rfl

theorem reportName_type (error : CheckError) (name : Identifier) :
    Returns (reportName error name) fun reported => reported.info.type = name.info.type :=
  fun _ => rfl

theorem settle_typed (verdict : Verdict) (info : ExprInfo) :
    Returns (settle verdict info) fun settled => settled.type.isSome :=
  fun state => Option.isSome_iff_exists.mpr ⟨_, type_settle verdict info state⟩

theorem settleExpr_annotated (verdict : Verdict) {expr : Expr}
    (inside : ∀ info : ExprInfo, info.type.isSome → (expr.withInfo info).Annotated) :
    Returns (settleExpr verdict expr) Expr.Annotated :=
  (settle_typed verdict expr.info).bind fun info typed => .pure (inside info typed)

theorem demand_annotated (wanted : ValueType) (error : ValueType → CheckError) {expr : Expr}
    (annotated : expr.Annotated) : Returns (demand wanted error expr) Expr.Annotated := by
  refine .ite (fun _ => .pure annotated) fun _ => (reportExpr_type _ expr.info).bind ?_
  exact fun info same => .pure (annotated.withInfo (same ▸ annotated.typed))

theorem assuming_returns {α : Type} {inner : Check α} {good : α → Prop}
    (returns : Returns inner good) (condition : Expr) : Returns (assuming condition inner) good := by
  intro state
  cases absent : state.absentVariable? condition with
  | none =>
      rw [assuming_of_none inner absent]
      exact returns state
  | some name =>
      rw [assuming_of_some inner absent]
      exact returns { state with scope := state.scope.assumeAbsent name }

/-! ## Expressions -/

section

attribute [local simp] Expr.outline Identifier.outline

/-- Checking expressions records a type at every value in them. -/
theorem infer_annotated :
    (∀ expr : Expr, expr.outline.Fresh → Returns (infer expr) Expr.Annotated) ∧
      ∀ exprs : List Expr, (∀ expr ∈ exprs, expr.outline.Fresh) →
        Returns (inferAll exprs) fun exprs => ∀ expr ∈ exprs, expr.Annotated := by
  apply Expr.mutual_induction
  case name =>
    intro name _
    unfold infer
    exact .any fun verdict => settleExpr_annotated _ fun info typed =>
      Expr.annotated_name.mpr typed
  case integer | boolean | string | none =>
    intros
    unfold infer
    exact settleExpr_annotated _ fun info typed => by
      simpa [Expr.Annotated, Expr.withInfo, Label.Annotated, ExprInfo.label] using fun _ => typed
  case list =>
    intro info elements ih fresh
    simp at fresh
    unfold infer
    refine (ih fresh.2).bind fun elements annotated => .any fun type => ?_
    exact settleExpr_annotated _ fun info typed => Expr.annotated_list.mpr ⟨typed, annotated⟩
  case binary =>
    intro info left operator right ihLeft ihRight fresh
    simp at fresh
    unfold infer
    refine (ihLeft fresh.2.1).bind fun left first => ?_
    refine (ihRight fresh.2.2).bind fun right second => .any fun verdict => ?_
    exact settleExpr_annotated _ fun info typed =>
      Expr.annotated_binary.mpr ⟨typed, first, second⟩
  case unary =>
    intro info operator operand ih fresh
    simp at fresh
    unfold infer
    refine (ih fresh.2).bind fun operand annotated => ?_
    exact settleExpr_annotated _ fun info typed => Expr.annotated_unary.mpr ⟨typed, annotated⟩
  case conditional =>
    intro info condition thenExpr elseExpr ihCondition ihThen ihElse fresh
    simp at fresh
    unfold infer
    refine (ihCondition fresh.2.1).bind fun condition tested => ?_
    refine (demand_annotated _ _ tested).bind fun condition tested => ?_
    refine (assuming_returns (ihThen fresh.2.2.1) condition).bind fun thenExpr chosen => ?_
    refine (ihElse fresh.2.2.2).bind fun elseExpr other => .any fun type => ?_
    exact settleExpr_annotated _ fun info typed =>
      Expr.annotated_conditional.mpr ⟨typed, tested, chosen, other⟩
  case member =>
    intro info object field ih fresh
    simp [Label.Fresh, ExprInfo.label] at fresh
    unfold infer
    refine (ih fresh.2.1).bind fun object annotated => .any fun verdict => ?_
    exact settleExpr_annotated _ fun info typed =>
      Expr.annotated_member.mpr ⟨typed, annotated, fresh.2.2.2⟩
  case index =>
    intro info container position ihContainer ihPosition fresh
    simp at fresh
    unfold infer
    refine (ihContainer fresh.2.1).bind fun container first => ?_
    refine (ihPosition fresh.2.2).bind fun position second => ?_
    refine (demand_annotated _ _ second).bind fun position second => ?_
    exact settleExpr_annotated _ fun info typed =>
      Expr.annotated_index.mpr ⟨typed, first, second⟩
  case call =>
    intro info function args ih fresh
    simp at fresh
    unfold infer
    refine (ih fresh.2.2).bind fun args annotated => .any fun state => ?_
    refine (settle_typed _ function.info).bind fun callee known => ?_
    exact settleExpr_annotated _ fun info typed =>
      Expr.annotated_call.mpr ⟨typed, known, annotated⟩
  case methodCall =>
    intro info access object method args ihObject ihArgs fresh
    simp [Label.Fresh, ExprInfo.label] at fresh
    unfold infer
    refine (ihObject fresh.2.1.2.1).bind fun object first => ?_
    refine (ihArgs fresh.2.2).bind fun args second => .any fun verdict => ?_
    refine (settle_typed _ access).bind fun access known => ?_
    exact settleExpr_annotated _ fun info typed =>
      Expr.annotated_methodCall.mpr ⟨typed, ⟨known, first, fresh.2.1.2.2.2⟩, second⟩
  case nil =>
    intro _
    unfold inferAll
    exact .pure (List.forall_mem_nil _)
  case cons =>
    intro expr rest ihExpr ihRest fresh
    obtain ⟨first, others⟩ := List.forall_mem_cons.mp fresh
    unfold inferAll
    refine (ihExpr first).bind fun expr annotated => (ihRest others).bind fun rest after => ?_
    exact .pure (List.forall_mem_cons.mpr ⟨annotated, after⟩)

end

theorem inferCondition_annotated {condition : Expr} (fresh : condition.outline.Fresh) :
    Returns (inferCondition condition) Expr.Annotated :=
  (infer_annotated.1 condition fresh).bind fun _ annotated => demand_annotated _ _ annotated

/-! ## Targets -/

theorem assignName_typed (name : Identifier) :
    Returns (assignName name) fun assigned => assigned.1.info.type.isSome := by
  unfold assignName
  refine .any fun found => ?_
  split
  · exact (settle_typed _ name.info).bind fun info typed => .pure typed
  · exact .any fun _ => (settle_typed _ name.info).bind fun info typed => .pure typed

theorem assignElement_annotated (info : ExprInfo) {container position : Expr}
    (freshContainer : container.outline.Fresh) (freshPosition : position.outline.Fresh) :
    Returns (assignElement info container position) fun assigned => assigned.1.Annotated := by
  refine (infer_annotated.1 container freshContainer).bind fun container first => ?_
  refine (infer_annotated.1 position freshPosition).bind fun position second => ?_
  refine (demand_annotated _ _ second).bind fun position second => ?_
  refine (settle_typed _ info).bind fun info typed => ?_
  have whole : (Expr.index info container position).Annotated :=
    Expr.annotated_index.mpr ⟨typed, first, second⟩
  exact .ite (fun _ => .pure whole) fun _ => .pure whole

theorem assignTarget_annotated {target : Expr} (fresh : target.outline.Fresh) :
    Returns (assignTarget target) fun assigned => assigned.1.Annotated := by
  unfold assignTarget
  split
  · exact (assignName_typed _).bind fun assigned typed => .pure (Expr.annotated_name.mpr typed)
  · simp [Expr.outline] at fresh
    exact assignElement_annotated _ fresh.2.1 fresh.2.2
  · exact (infer_annotated.1 _ fresh).bind fun target annotated => .pure annotated

theorem assignAll_annotated (value : ValueType) (info : NodeInfo) {targets : List Expr}
    (fresh : ∀ target ∈ targets, target.outline.Fresh) :
    Returns (assignAll value info targets) fun assigned =>
      ∀ target ∈ assigned.1, target.Annotated := by
  induction targets generalizing info with
  | nil => exact .pure (List.forall_mem_nil _)
  | cons target rest ih =>
      obtain ⟨first, others⟩ := List.forall_mem_cons.mp fresh
      rw [assignAll_cons]
      refine (assignTarget_annotated first).bind fun assigned annotated => .any fun info => ?_
      refine (ih info others).bind fun later after => ?_
      exact .pure (List.forall_mem_cons.mpr ⟨annotated, after⟩)

theorem checkAssignment_annotated (info : NodeInfo) {targets : List Expr} {value : Expr}
    (freshTargets : ∀ target ∈ targets, target.outline.Fresh) (fresh : value.outline.Fresh) :
    Returns (checkAssignment info targets value) Stmt.Annotated := by
  rw [checkAssignment_eq]
  refine (infer_annotated.1 value fresh).bind fun value annotated => .any fun info => ?_
  refine (assignAll_annotated value.type info freshTargets).bind fun assigned after => ?_
  exact .pure (Stmt.annotated_assign.mpr ⟨after, annotated⟩)

/-! ## Loops and returns -/

theorem demandIterable_annotated {iterable : Expr} (annotated : iterable.Annotated) :
    Returns (demandIterable iterable) Expr.Annotated := by
  refine .ite (fun _ => (reportExpr_type _ iterable.info).bind fun info same => ?_)
    fun _ => .pure annotated
  exact .pure (annotated.withInfo (same ▸ annotated.typed))

theorem takeElement_annotated (iteration : Iteration) (element : Identifier) {iterable : Expr}
    (annotated : iterable.Annotated) :
    Returns (takeElement iteration element iterable) fun head =>
      head.1.info.type.isSome ∧ head.2.Annotated := by
  refine (assignName_typed element).bind fun (element, type) typed => ?_
  dsimp only
  split
  · exact .any fun info => .pure ⟨typed, annotated⟩
  · exact .pure ⟨typed, annotated⟩

theorem checkLoopHead_annotated (element : Identifier) {iterable : Expr}
    (fresh : iterable.outline.Fresh) :
    Returns (checkLoopHead element iterable) fun head =>
      head.1.info.type.isSome ∧ head.2.Annotated := by
  rw [checkLoopHead_eq]
  refine (infer_annotated.1 iterable fresh).bind fun iterable annotated => ?_
  refine (demandIterable_annotated annotated).bind fun checked annotated => ?_
  exact takeElement_annotated _ element annotated

theorem inferOptional_annotated {value : Option Expr}
    (fresh : ∀ result ∈ value, result.outline.Fresh) :
    Returns (inferOptional value) fun value => ∀ result ∈ value, result.Annotated := by
  cases value with
  | none => exact .pure (by simp)
  | some value =>
      exact (infer_annotated.1 value (fresh value rfl)).bind fun value annotated =>
        .pure (by simpa using annotated)

theorem checkReturn_annotated (info : NodeInfo) {value : Option Expr}
    (fresh : ∀ result ∈ value, result.outline.Fresh) :
    Returns (checkReturn info value) Stmt.Annotated := by
  refine .any fun state => ?_
  split
  · exact (inferOptional_annotated fresh).bind fun value annotated => .any fun info =>
      .pure (Stmt.annotated_ret.mpr annotated)
  · refine (inferOptional_annotated fresh).bind fun value annotated => ?_
    cases value with
    | none =>
        exact .any fun fits => .ite
          (fun _ => .any fun info => .pure (Stmt.annotated_ret.mpr annotated))
          fun _ => .any fun info => .pure (Stmt.annotated_ret.mpr annotated)
    | some value => exact .any fun info => .pure (Stmt.annotated_ret.mpr annotated)

/-! ## Statements -/

/-- Checking statements records a type at every value in them. -/
theorem checkStmt_annotated :
    (∀ stmt : Stmt, stmt.Raw → Returns (checkStmt stmt) Stmt.Annotated) ∧
      ∀ stmts : List Stmt, (∀ stmt ∈ stmts, stmt.Raw) →
        Returns (checkStmts stmts) fun stmts => ∀ stmt ∈ stmts, stmt.Annotated := by
  apply Stmt.mutual_induction
  case expr =>
    intro info value raw
    have fresh := raw.2
    simp [Stmt.outline] at fresh
    unfold checkStmt
    exact (infer_annotated.1 value fresh.2).bind fun value annotated =>
      .pure (Stmt.annotated_expr.mpr annotated)
  case assign =>
    intro info targets value raw
    obtain ⟨-, targets, fresh⟩ := raw.assign
    unfold checkStmt
    exact checkAssignment_annotated info (fun target among => (targets target among).2) fresh
  case ifElse =>
    intro info condition thenBody elseBody ihThen ihElse raw
    obtain ⟨fresh, rawThen, rawElse⟩ := raw.ifElse
    unfold checkStmt
    refine (inferCondition_annotated fresh).bind fun condition tested => ?_
    refine (assuming_returns (ihThen rawThen) condition).bind fun thenBody chosen => ?_
    refine (ihElse rawElse).bind fun elseBody other => ?_
    exact .pure (Stmt.annotated_ifElse.mpr ⟨tested, chosen, other⟩)
  case whileLoop =>
    intro info condition body ih raw
    obtain ⟨fresh, rawBody⟩ := raw.whileLoop
    unfold checkStmt
    refine (inferCondition_annotated fresh).bind fun condition tested => ?_
    refine (ih rawBody).bind fun body inside => ?_
    exact .pure (Stmt.annotated_whileLoop.mpr ⟨tested, inside⟩)
  case forLoop =>
    intro info element iterable body ih raw
    obtain ⟨-, fresh, rawBody⟩ := raw.forLoop
    unfold checkStmt
    refine (checkLoopHead_annotated element fresh).bind ?_
    rintro ⟨element, iterable⟩ head
    refine (ih rawBody).bind fun body inside => ?_
    exact .pure (Stmt.annotated_forLoop.mpr ⟨head.1, head.2, inside⟩)
  case ret =>
    intro info value raw
    have fresh := raw.2
    unfold checkStmt
    exact checkReturn_annotated info fun result found => by
      obtain rfl := Option.mem_def.mp found
      simp [Stmt.outline] at fresh
      exact fresh.2
  case nil =>
    intro _
    unfold checkStmts
    exact .pure (List.forall_mem_nil _)
  case cons =>
    intro stmt rest ihStmt ihRest raw
    obtain ⟨first, others⟩ := List.forall_mem_cons.mp raw
    unfold checkStmts
    refine (ihStmt first).bind fun stmt annotated => (ihRest others).bind fun rest after => ?_
    exact .pure (List.forall_mem_cons.mpr ⟨annotated, after⟩)

end Check

end ChocoLang
