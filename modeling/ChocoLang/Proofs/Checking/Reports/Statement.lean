import ChocoLang.Proofs.Checking.Establishes
import ChocoLang.Proofs.Checking.Reports.Rules

/-!
# Reports in statements

Whatever a statement consists of, the problems that are found in it are never about a type that is
unknown as a whole, and all types are those of values of certain classes.
-/

namespace ChocoLang

/-- All types known are of certain classes, and the problems found so far are definite. -/
structure CheckState.Among (classes : List String) (state : CheckState) : Prop where
  /-- Types consist of names of the classes. -/
  typeNames : ∀ name ∈ state.typeNames, name ∈ classes
  /-- The names in scope are bound to such types. -/
  scope : state.scope.Among classes
  /-- The classes known are among them. -/
  hierarchy : state.hierarchy.Among classes
  /-- The results of the functions around are such types. -/
  results : ∀ type ∈ state.results, type.Among classes
  /-- The problems are definite. -/
  problems : ∀ problem ∈ state.problems, problem.content.Definite classes

namespace Check

variable {α : Type} {classes : List String}

/-! ## Reports -/

theorem report_maintains {error : CheckError} (definite : error.Definite classes)
    (info : NodeInfo) :
    Maintains (CheckState.Among classes) (report error info) fun _ => True := by
  intro state kept
  rw [report_apply]
  split
  · exact ⟨trivial, kept⟩
  · refine ⟨trivial, kept.typeNames, kept.scope, kept.hierarchy, kept.results, ?_⟩
    intro problem among
    rcases List.mem_append.mp among with before | new
    · exact kept.problems problem before
    · obtain rfl := List.mem_singleton.mp new
      exact definite

theorem reportExpr_maintains {error : CheckError} (definite : error.Definite classes)
    (info : ExprInfo) :
    Maintains (CheckState.Among classes) (reportExpr error info)
      fun recorded => recorded.type = info.type :=
  (report_maintains definite info.toNodeInfo).bind fun _ _ => .pure rfl

theorem reportName_maintains {error : CheckError} (definite : error.Definite classes)
    (name : Identifier) :
    Maintains (CheckState.Among classes) (reportName error name)
      fun reported => reported.name = name.name :=
  (reportExpr_maintains definite name.info).bind fun _ _ => .pure rfl

theorem settle_maintains {verdict : Verdict}
    (definite : ∀ error ∈ verdict.error, error.Definite classes) (info : ExprInfo) :
    Maintains (CheckState.Among classes) (settle verdict info)
      fun recorded => recorded.type = some verdict.type := by
  unfold settle
  split
  · next error found =>
      exact (reportExpr_maintains (definite error found) info).bind fun _ _ => .pure rfl
  · exact Maintains.bind (.pure trivial) fun _ (_ : True) => .pure rfl

theorem settleExpr_maintains {verdict : Verdict} (among : verdict.Among classes) (expr : Expr) :
    Maintains (CheckState.Among classes) (settleExpr verdict expr)
      fun settled => settled.type.Among classes :=
  (settle_maintains among.error expr.info).bind fun recorded same =>
    .pure (by simpa [Expr.type, same] using among.type)

/-! ## Frames -/

theorem within_maintains {inner : Check α} {good : α → Prop}
    (maintains : Maintains (CheckState.Among classes) inner good) (kind : FrameKind)
    (name : String) : Maintains (CheckState.Among classes) (within kind name inner) good := by
  refine Maintains.bind (.modifyScope fun state kept => ?_) fun _ _ => maintains.bind
    fun value holds => Maintains.bind (.modifyScope fun state kept => ?_) fun _ _ => .pure holds
  · exact ⟨kept.typeNames, kept.scope.enter kind name, kept.hierarchy, kept.results, kept.problems⟩
  · exact ⟨kept.typeNames, kept.scope.leave, kept.hierarchy, kept.results, kept.problems⟩

theorem define_maintains {binding : Binding} (among : binding.Among classes) :
    Maintains (CheckState.Among classes) (modifyScope (·.define binding)) fun _ => True :=
  .modifyScope fun _ kept =>
    ⟨kept.typeNames, kept.scope.define among, kept.hierarchy, kept.results, kept.problems⟩

theorem assuming_maintains (condition : Expr) {inner : Check α} {good : α → Prop}
    (maintains : Maintains (CheckState.Among classes) inner good) :
    Maintains (CheckState.Among classes) (assuming condition inner) good := by
  unfold assuming
  refine Maintains.get.bind fun state _ => ?_
  split
  · exact maintains
  · next name _ =>
      have absent : Binding.Among classes { name, type := .none, kind := .narrowed } :=
        ⟨fun _ => ValueType.among_none classes, by rintro _ _ ⟨⟩,
          fun _ _ => ValueType.among_none classes⟩
      exact within_maintains ((define_maintains absent).bind fun _ _ => maintains) _ _

/-! ## Expressions -/

theorem demand_maintains {wanted : ValueType} {error : ValueType → CheckError}
    (shows : ∀ type, (error type).types = [type]) (noOperator : ∀ type, (error type).operator? = none)
    {expr : Expr} (among : expr.type.Among classes) :
    Maintains (CheckState.Among classes) (demand wanted error expr)
      fun demanded => demanded.type = expr.type := by
  unfold demand
  refine .ite (fun _ => .pure rfl) fun clear => ?_
  rw [Bool.or_eq_true, not_or] at clear
  have definite := ValueType.ne_unknown (Bool.eq_false_iff.mpr clear.1)
  refine (reportExpr_maintains (.ofTypes ?_ ?_) expr.info).bind fun recorded same => .pure ?_
  · simpa [shows] using ⟨among, definite⟩
  · simp [noOperator]
  · simp [Expr.type, same]

theorem demandCondition_maintains {expr : Expr} (among : expr.type.Among classes) :
    Maintains (CheckState.Among classes) (demandCondition expr)
      fun demanded => demanded.type = expr.type :=
  demand_maintains (fun _ => rfl) (fun _ => rfl) among

theorem demandPosition_maintains {expr : Expr} (among : expr.type.Among classes) :
    Maintains (CheckState.Among classes) (demandPosition expr)
      fun demanded => demanded.type = expr.type :=
  demand_maintains (fun _ => rfl) (fun _ => rfl) among

/-- Checking expressions finds definite problems only, and types of the classes. -/
theorem infer_maintains :
    (∀ expr, Maintains (CheckState.Among classes) (infer expr)
      fun checked => checked.type.Among classes) ∧
    ∀ exprs, Maintains (CheckState.Among classes) (inferAll exprs)
      fun checked => ∀ expr ∈ checked, expr.type.Among classes := by
  apply Expr.mutual_induction
  case name =>
    intro identifier
    unfold infer
    refine Maintains.view.bind ?_
    rintro verdict ⟨state, kept, rfl⟩
    exact settleExpr_maintains (kept.scope.readVerdict _) _
  case integer | boolean | string | none =>
    intros
    unfold infer
    refine .of_state fun state kept => settleExpr_maintains (Verdict.among_plain ?_) _
    first
      | exact kept.hierarchy.among_int
      | exact kept.hierarchy.among_bool
      | exact kept.hierarchy.among_str
      | exact ValueType.among_none classes
  case list =>
    intro info elements each
    unfold infer
    refine each.bind fun elements among => Maintains.view.bind ?_
    rintro type ⟨state, kept, rfl⟩
    refine settleExpr_maintains (Verdict.among_plain (kept.hierarchy.among_displayType ?_)) _
    simpa using among
  case binary =>
    intro info left operator right first second
    unfold infer
    refine first.bind fun left among => second.bind fun right among' => Maintains.view.bind ?_
    rintro verdict ⟨state, kept, rfl⟩
    exact settleExpr_maintains (kept.hierarchy.operationVerdict operator among among') _
  case unary =>
    intro info operator operand within
    unfold infer
    exact within.bind fun operand among => .of_state fun state kept =>
      settleExpr_maintains (kept.hierarchy.unaryVerdict operator among) _
  case conditional =>
    intro info condition thenExpr elseExpr asked first second
    unfold infer
    refine asked.bind fun condition among => (demandCondition_maintains among).bind
      fun condition _ => (assuming_maintains condition first).bind fun thenExpr among =>
      second.bind fun elseExpr among' => Maintains.view.bind ?_
    rintro type ⟨state, kept, rfl⟩
    exact settleExpr_maintains (Verdict.among_plain (kept.hierarchy.among_join among among')) _
  case member =>
    intro info object field within
    unfold infer
    refine within.bind fun object among => Maintains.view.bind ?_
    rintro verdict ⟨state, kept, rfl⟩
    exact settleExpr_maintains (kept.hierarchy.attributeVerdict among field.name) _
  case index =>
    intro info container position outer inner
    unfold infer
    exact outer.bind fun container among => inner.bind fun position among' =>
      (demandPosition_maintains among').bind fun position _ => .of_state fun state kept =>
        settleExpr_maintains (kept.hierarchy.indexVerdict among) _
  case call =>
    intro info function args each
    unfold infer
    refine each.bind fun args among => Maintains.get.bind fun state kept => ?_
    have each : ∀ type ∈ args.map Expr.type, type.Among classes := by simpa using among
    have verdict := kept.hierarchy.nameCallVerdict kept.scope function.name each
    exact (settle_maintains verdict.callee function.info).bind fun callee _ =>
      settleExpr_maintains verdict.call _
  case methodCall =>
    intro info access object method args within each
    unfold infer
    refine within.bind fun object among => each.bind fun args given => Maintains.view.bind ?_
    rintro verdict ⟨state, kept, rfl⟩
    have each : ∀ type ∈ args.map Expr.type, type.Among classes := by simpa using given
    have verdict := kept.hierarchy.methodCallVerdict among method.name each
    exact (settle_maintains verdict.callee access).bind fun access _ =>
      settleExpr_maintains verdict.call _
  case nil =>
    unfold inferAll
    exact .pure (by simp)
  case cons =>
    intro expr rest first others
    unfold inferAll
    exact first.bind fun expr among => others.bind fun rest more =>
      .pure (List.forall_mem_cons.mpr ⟨among, more⟩)

theorem inferCondition_maintains (condition : Expr) :
    Maintains (CheckState.Among classes) (inferCondition condition) fun _ => True :=
  (infer_maintains.1 condition).bind fun _ among =>
    (demandCondition_maintains among).mono fun _ _ => trivial

/-! ## Assignments -/

theorem demandFit_maintains {expected actual : ValueType} (among : expected.Among classes)
    (among' : actual.Among classes) (info : NodeInfo) :
    Maintains (CheckState.Among classes) (demandFit expected actual info) fun _ => True := by
  refine Maintains.view.bind ?_
  rintro _ ⟨state, kept, rfl⟩
  refine .ite (fun _ => .pure trivial) fun misfit => report_maintains (.ofTypes ?_ ?_) info
  · obtain ⟨clear, clear'⟩ := ClassHierarchy.ne_unknown_of_misfit misfit
    simpa [CheckError.types] using ⟨⟨among, clear'⟩, among', clear⟩
  · simp [CheckError.operator?]

/-- The type that an assigned name takes is one of values. -/
theorem assignName_maintains (name : Identifier) :
    Maintains (CheckState.Among classes) (assignName name)
      fun assigned => ∀ type ∈ assigned.2, type.Among classes := by
  unfold assignName
  refine Maintains.view.bind ?_
  rintro _ ⟨state, kept, rfl⟩
  split
  · have silent : (CheckError.notAssignable name.name).Definite classes := .silent rfl rfl
    refine (settle_maintains ?_ name.info).bind fun _ _ => .pure (by simp)
    simpa [Verdict.wrong] using silent
  · next binding found =>
      obtain ⟨bound, assignable⟩ := Option.filter_eq_some_iff.mp found
      have value : binding.type.Among classes := by
        refine (Scope.All.lookupLocal kept.scope bound).value ?_
        cases kind : binding.kind <;> simp [kind, BindingKind.isAssignable] at assignable <;> rfl
      refine Maintains.bind (.modifyScope fun state kept => ?_) fun _ _ =>
        (settle_maintains (Verdict.among_plain value).error name.info).bind fun _ _ =>
          .pure (by simpa using value)
      exact ⟨kept.typeNames, kept.scope.forget _, kept.hierarchy, kept.results, kept.problems⟩

theorem assignedElementVerdict_among {container : ValueType} (hierarchy : ClassHierarchy)
    (known : hierarchy.Among classes) (among : container.Among classes) :
    (assignedElementVerdict container).Among classes := by
  unfold assignedElementVerdict
  split
  · have silent : CheckError.characterAssigned.Definite classes := .silent rfl rfl
    exact ⟨known.among_str, by simpa using silent⟩
  · exact Verdict.among_element among

theorem assignElement_maintains (info : ExprInfo) (container position : Expr) :
    Maintains (CheckState.Among classes) (assignElement info container position)
      fun assigned => ∀ type ∈ assigned.2, type.Among classes := by
  unfold assignElement
  refine (infer_maintains.1 container).bind fun container among =>
    (infer_maintains.1 position).bind fun position among' =>
    (demandPosition_maintains among').bind fun position _ => .of_state fun state kept => ?_
  have verdict := assignedElementVerdict_among state.hierarchy kept.hierarchy among
  refine (settle_maintains verdict.error info).bind fun info same => ?_
  refine .ite (fun _ => .pure nofun) fun _ => .pure ?_
  simpa [Expr.type, Expr.info, same] using verdict.type

theorem assignTarget_maintains (target : Expr) :
    Maintains (CheckState.Among classes) (assignTarget target)
      fun assigned => ∀ type ∈ assigned.2, type.Among classes := by
  unfold assignTarget
  split
  · exact (assignName_maintains _).bind fun _ among => .pure among
  · exact assignElement_maintains _ _ _
  · refine (infer_maintains.1 _).bind fun target among => .pure fun type assigned => ?_
    dsimp only at assigned
    split at assigned
    · cases assigned
    · cases assigned
      exact among

theorem demandFits_maintains {value : ValueType} (among : value.Among classes)
    {target : Option ValueType} (takes : ∀ type ∈ target, type.Among classes) (info : NodeInfo) :
    Maintains (CheckState.Among classes) (demandFits value target info) fun _ => True := by
  unfold demandFits
  split
  · exact .pure trivial
  · next type => exact demandFit_maintains (takes type rfl) among info

theorem assignAll_maintains {value : ValueType} (among : value.Among classes) (info : NodeInfo)
    (targets : List Expr) :
    Maintains (CheckState.Among classes) (assignAll value info targets) fun _ => True := by
  induction targets generalizing info with
  | nil => exact .pure trivial
  | cons target rest ih =>
      rw [assignAll_cons]
      exact (assignTarget_maintains target).bind fun assigned takes =>
        (demandFits_maintains among takes info).bind fun info _ => (ih info).bind fun _ _ =>
          .pure trivial

theorem demandSingle_maintains (targets : List Expr) (value : ValueType) (info : NodeInfo) :
    Maintains (CheckState.Among classes) (demandSingle targets value info) fun _ => True := by
  unfold demandSingle
  exact .ite (fun _ => report_maintains (.silent rfl rfl) info) fun _ => .pure trivial

theorem checkAssignment_maintains (info : NodeInfo) (targets : List Expr) (value : Expr) :
    Maintains (CheckState.Among classes) (checkAssignment info targets value) fun _ => True := by
  rw [checkAssignment_eq]
  exact (infer_maintains.1 value).bind fun value among =>
    (demandSingle_maintains targets value.type info).bind fun info _ =>
      (assignAll_maintains among info targets).bind fun _ _ => .pure trivial

/-! ## Loops and returns -/

theorem demandIterable_maintains {iterable : Expr} (among : iterable.type.Among classes) :
    Maintains (CheckState.Among classes) (demandIterable iterable) fun _ => True := by
  unfold demandIterable
  refine .ite (fun impossible => ?_) fun _ => .pure trivial
  have definite : iterable.type ≠ .unknown := by
    intro unknown
    rw [unknown] at impossible
    cases impossible
  refine (reportExpr_maintains (.ofTypes ?_ ?_) iterable.info).bind fun _ _ => .pure trivial
  · simpa [CheckError.types] using ⟨among, definite⟩
  · simp [CheckError.operator?]

/-- What a loop runs through are values of the classes. -/
theorem among_iteration {hierarchy : ClassHierarchy} (known : hierarchy.Among classes)
    {type : ValueType} (among : type.Among classes) :
    ∀ element ∈ (Iteration.ofType type).type?, element.Among classes := by
  unfold Iteration.ofType
  split
  · simpa [Iteration.type?] using known.among_str
  split
  · exact nofun
  split
  · simpa [Iteration.type?] using ValueType.among_list.mp among
  · exact nofun
  · exact nofun

theorem takeElement_maintains {iteration : Iteration}
    (among : ∀ type ∈ iteration.type?, type.Among classes) (element : Identifier)
    (iterable : Expr) :
    Maintains (CheckState.Among classes) (takeElement iteration element iterable)
      fun _ => True := by
  unfold takeElement
  refine (assignName_maintains element).bind fun assigned takes => ?_
  obtain ⟨element, type⟩ := assigned
  dsimp only at takes ⊢
  split
  · next expected actual found =>
      exact (demandFit_maintains (takes expected rfl) (among actual found) _).bind fun _ _ =>
        .pure trivial
  · exact .pure trivial

theorem checkLoopHead_maintains (element : Identifier) (iterable : Expr) :
    Maintains (CheckState.Among classes) (checkLoopHead element iterable) fun _ => True := by
  rw [checkLoopHead_eq]
  exact (infer_maintains.1 iterable).bind fun iterable among =>
    (demandIterable_maintains among).bind fun checked _ => .of_state fun state kept =>
      takeElement_maintains (among_iteration kept.hierarchy among) element checked

theorem inferOptional_maintains (value : Option Expr) :
    Maintains (CheckState.Among classes) (inferOptional value)
      fun checked => ∀ expr ∈ checked, expr.type.Among classes := by
  unfold inferOptional
  split
  · exact .pure (by simp)
  · exact (infer_maintains.1 _).bind fun _ among => .pure (by simpa using among)

theorem checkResult_maintains {expected : ValueType} (among : expected.Among classes)
    (info : NodeInfo) (value : Option Expr) :
    Maintains (CheckState.Among classes) (checkResult expected info value) fun _ => True := by
  unfold checkResult
  refine (inferOptional_maintains value).bind fun value given => ?_
  split
  · refine Maintains.view.bind ?_
    rintro _ ⟨state, kept, rfl⟩
    refine .ite (fun _ => Maintains.bind (.pure trivial) fun _ (_ : True) => .pure trivial)
      fun misfit => (report_maintains (.ofTypes ?_ ?_) info).bind fun _ _ => .pure trivial
    · have definite := (ClassHierarchy.ne_unknown_of_misfit misfit).2
      simpa [CheckError.types] using ⟨among, definite⟩
    · simp [CheckError.operator?]
  · next value =>
      exact (demandFit_maintains among (given value rfl) info).bind fun _ _ => .pure trivial

theorem checkReturn_maintains (info : NodeInfo) (value : Option Expr) :
    Maintains (CheckState.Among classes) (checkReturn info value) fun _ => True := by
  unfold checkReturn
  refine Maintains.get.bind fun state kept => ?_
  split
  · exact (inferOptional_maintains value).bind fun _ _ =>
      (report_maintains (.silent rfl rfl) info).bind fun _ _ => .pure trivial
  · next expected outer shape =>
      exact checkResult_maintains (kept.results expected (by simp [shape])) info value

/-! ## Statements -/

/-- Checking statements finds definite problems only. -/
theorem checkStmt_maintains :
    (∀ stmt, Maintains (CheckState.Among classes) (checkStmt stmt) fun _ => True) ∧
      ∀ stmts, Maintains (CheckState.Among classes) (checkStmts stmts) fun _ => True := by
  apply Stmt.mutual_induction
  case expr =>
    intro info value
    unfold checkStmt
    exact (infer_maintains.1 value).bind fun _ _ => .pure trivial
  case assign =>
    intro info targets value
    unfold checkStmt
    exact checkAssignment_maintains info targets value
  case ifElse =>
    intro info condition thenBody elseBody first second
    unfold checkStmt
    exact (inferCondition_maintains condition).bind fun condition _ =>
      (assuming_maintains condition first).bind fun _ _ => second.bind fun _ _ => .pure trivial
  case whileLoop =>
    intro info condition body inner
    unfold checkStmt
    exact (inferCondition_maintains condition).bind fun _ _ => inner.bind fun _ _ => .pure trivial
  case forLoop =>
    intro info element iterable body inner
    unfold checkStmt
    exact (checkLoopHead_maintains element iterable).bind fun _ _ =>
      inner.bind fun _ _ => .pure trivial
  case ret =>
    intro info value
    unfold checkStmt
    exact checkReturn_maintains info value
  case nil =>
    unfold checkStmts
    exact .pure trivial
  case cons =>
    intro stmt rest first others
    unfold checkStmts
    exact first.bind fun _ _ => others.bind fun _ _ => .pure trivial

end Check
end ChocoLang
