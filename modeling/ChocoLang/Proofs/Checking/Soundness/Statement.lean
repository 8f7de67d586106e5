import ChocoLang.Proofs.Checking.Soundness.Expression
import ChocoLang.Proofs.Parsing.ReadTrees

/-!
# Soundness of checking statements

If no problem is found in a statement, then it obeys its rule, and every type recorded in it is
known.
-/

namespace ChocoLang

/-- The target has been checked without a problem, and takes values of the type. -/
structure Expr.AcceptedTarget (hierarchy : ClassHierarchy) (target : Expr) (type : ValueType) :
    Prop where
  /-- The target takes the type. -/
  takes : target.TakesType hierarchy type
  /-- The types in the target are known. -/
  known : target.outline.All Label.Known

/-- The statement has been checked without a problem. -/
structure Stmt.Accepted (hierarchy : ClassHierarchy) (result : Option ValueType) (stmt : Stmt) :
    Prop where
  /-- The statement obeys its rule. -/
  wellTyped : stmt.WellTyped hierarchy result
  /-- The types in the statement are known. -/
  known : stmt.outline.All Label.Known

namespace Check

variable {hierarchy : ClassHierarchy} {result : Option ValueType}

theorem demandFit_establishes {expected actual : ValueType} {info : NodeInfo}
    (fresh : info.error = none) :
    Establishes (CheckState.Sound hierarchy result) (demandFit expected actual info) fun recorded =>
      recorded = info ∧ hierarchy.isAssignable actual expected := by
  refine .bind .view ?_
  rintro fits ⟨state, sound, rfl⟩
  rw [sound.classes]
  exact .ite (fun fits => .pure ⟨rfl, fits⟩) fun _ =>
    (report_establishes fresh).mono fun _ impossible => impossible.elim

/-! ## Targets -/

theorem forget_establishes (name : String) :
    Establishes (CheckState.Sound hierarchy result) (modifyScope (·.forget name)) fun _ => True :=
  modifyScope_establishes fun _ sound => ⟨sound.classes, sound.result, sound.scope.forget name⟩

theorem assignName_establishes {name : Identifier} (fresh : name.info.error = none) :
    Establishes (CheckState.Sound hierarchy result) (assignName name) fun assigned =>
      ∃ type, type.Known ∧ assigned =
        ({ name with info := { name.info with type := some type } }, some type) := by
  unfold assignName
  refine @Establishes.bind _ _ _ _ _ _ _ (fun found => by split <;> infer_instance) .view ?_
  rintro found ⟨state, sound, rfl⟩
  split
  · exact (settle_establishes fresh).bind fun _ impossible => by cases impossible.1
  · next binding shape =>
      refine (forget_establishes _).bind fun _ _ => (settle_establishes fresh).bind ?_
      rintro _ ⟨-, rfl⟩
      have bound := (Option.filter_eq_some_iff.mp shape).1
      exact .pure ⟨binding.type, (sound.scope.lookupLocal bound).known, rfl⟩

theorem elements_of_assignedElementVerdict {container : ValueType} (known : container.Known)
    (clean : (assignedElementVerdict container).error = none) :
    container = .list (assignedElementVerdict container).type ∧ container ≠ .str := by
  unfold assignedElementVerdict elementVerdict at clean ⊢
  split at clean
  · cases clean
  split at clean
  · exact ⟨rfl, nofun⟩
  · exact absurd known ValueType.not_known_unknown
  · cases clean

theorem assignElement_establishes (classes : hierarchy.Sound) {info : ExprInfo}
    {container position : Expr} (fresh : (Expr.index info container position).outline.Fresh) :
    Establishes (CheckState.Sound hierarchy result) (assignElement info container position)
      fun assigned => ∃ type, assigned.2 = some type ∧
        assigned.1.AcceptedTarget hierarchy type := by
  simp only [Expr.outline, Outline.all_node, fresh_label_iff_expr, Outline.allIn_cons,
    Outline.allIn_nil] at fresh
  unfold assignElement
  refine (infer_establishes classes container fresh.2.1).bind fun container accepted =>
    (infer_establishes classes position fresh.2.2.1).bind fun position acceptedPosition =>
    (demand_establishes acceptedPosition).bind fun position place =>
    (settle_establishes fresh.1.1).bind ?_
  rintro _ ⟨clean, rfl⟩
  obtain ⟨list, noString⟩ := elements_of_assignedElementVerdict accepted.type_known clean
  have known : (assignedElementVerdict container.type).type.Known :=
    (ValueType.known_list _).mp (list ▸ accepted.type_known)
  refine .ite (fun wrong => ?_) fun _ => .pure ⟨_, rfl, ?_, ?_⟩
  · simp only [Bool.or_eq_true, decide_eq_true_eq, fresh.1.1, Option.isSome_none,
      Bool.false_eq_true, or_false, noString, false_or] at wrong
    cases known.isUnknown.symm.trans wrong
  · exact .element rfl (list ▸ accepted.typed) (place.2 ▸ place.1.typed)
  · simpa [Expr.outline, Expr.type, Expr.info] using ⟨known, accepted.known, place.1.known⟩

theorem assignTarget_establishes (classes : hierarchy.Sound) {target : Expr}
    (isTarget : target.isTarget = true) (fresh : target.outline.Fresh) :
    Establishes (CheckState.Sound hierarchy result) (assignTarget target)
      fun assigned => ∃ type, assigned.2 = some type ∧
        assigned.1.AcceptedTarget hierarchy type := by
  cases target with
  | name identifier =>
      refine (assignName_establishes (Expr.error_of_fresh fresh)).bind ?_
      rintro _ ⟨type, known, rfl⟩
      exact .pure ⟨type, rfl, .name rfl, by simpa [Expr.outline] using known⟩
  | index info container position => exact assignElement_establishes classes fresh
  | member info object field =>
      have shape : Establishes (CheckState.Sound hierarchy result)
          (infer (.member info object field)) fun checked =>
            ∃ info object field, checked = .member info object field :=
        fun state sound clean => ⟨infer_member_shape info object field state,
          (infer_establishes classes _ fresh state sound clean).2⟩
      refine ((infer_establishes classes _ fresh).and shape).bind ?_
      rintro _ ⟨accepted, info, object, field, rfl⟩
      refine .pure ⟨_, ?_, .member accepted.typed, accepted.known⟩
      simp [accepted.error]
  | _ => cases isTarget

theorem assignAll_establishes (classes : hierarchy.Sound) (value : ValueType) {info : NodeInfo}
    (freshInfo : info.error = none) {targets : List Expr}
    (raw : ∀ target ∈ targets, target.isTarget ∧ target.outline.Fresh) :
    Establishes (CheckState.Sound hierarchy result) (assignAll value info targets) fun assigned =>
      assigned.1.length = targets.length ∧ ∀ target ∈ assigned.1,
        (∃ wanted, target.TakesType hierarchy wanted ∧ hierarchy.isAssignable value wanted) ∧
          target.outline.All Label.Known := by
  induction targets with
  | nil => exact .pure ⟨rfl, by simp⟩
  | cons target rest ih =>
      obtain ⟨⟨isTarget, fresh⟩, others⟩ := List.forall_mem_cons.mp raw
      unfold assignAll
      refine @Establishes.bind _ _ _ _ _ _ _
        (fun assigned => by dsimp only; split <;> infer_instance)
        (assignTarget_establishes classes isTarget fresh) ?_
      rintro ⟨target, _⟩ ⟨wanted, rfl, accepted⟩
      refine (demandFit_establishes freshInfo).bind ?_
      rintro _ ⟨rfl, fits⟩
      refine (ih others).bind ?_
      rintro ⟨assigned, recorded⟩ ⟨length, each⟩
      refine .pure ⟨?_, ?_⟩
      · simpa using length
      · exact List.forall_mem_cons.mpr ⟨⟨⟨wanted, accepted.takes, fits⟩, accepted.known⟩, each⟩

/-! ## Statements -/

theorem checkAssignment_establishes (classes : hierarchy.Sound) {info : NodeInfo}
    {targets : List Expr} {value : Expr} (raw : (Stmt.assign info targets value).Raw) :
    Establishes (CheckState.Sound hierarchy result) (checkAssignment info targets value)
      (Stmt.Accepted hierarchy result) := by
  obtain ⟨freshInfo, targetsRaw, freshValue⟩ := raw.assign
  unfold checkAssignment
  refine (infer_establishes classes value freshValue).bind fun value accepted => ?_
  refine .ite (fun _ => (report_establishes freshInfo).bind fun _ impossible => impossible.elim)
    fun single => .pure_bind ?_
  refine (assignAll_establishes classes value.type freshInfo targetsRaw).bind ?_
  rintro ⟨assigned, recorded⟩ ⟨length, each⟩
  refine .pure ⟨?_, ?_⟩
  · refine .assign accepted.typed (fun several same => single ?_) fun target among =>
      (each target among).1
    simpa [same, ← length] using several
  · simpa [Stmt.outline] using ⟨fun target among => (each target among).2, accepted.known⟩

theorem demandIterable_establishes {invariant : CheckState → Prop} {iterable : Expr}
    (accepted : iterable.Accepted hierarchy) :
    Establishes invariant (demandIterable iterable) fun checked =>
      checked = iterable ∧ Iteration.ofType iterable.type ≠ .impossible :=
  .ite (fun _ => (reportExpr_establishes accepted.error).bind fun _ impossible => impossible.elim)
    fun possible => .pure ⟨rfl, possible⟩

/-- A loop over something of a known type runs through it, if its values fit the variable. -/
theorem runsThrough_of_iteration {source type : ValueType} (known : source.Known)
    (possible : Iteration.ofType source ≠ .impossible)
    (fits : ∀ actual ∈ (Iteration.ofType source).type?, hierarchy.isAssignable actual type) :
    hierarchy.RunsThrough source type := by
  unfold Iteration.ofType at possible fits
  split at possible
  · next string =>
      subst string
      exact .characters (fits _ rfl)
  split at possible
  · next empty =>
      subst empty
      exact .nothing
  split at possible
  · exact .elements (fits _ rfl)
  · exact absurd known ValueType.not_known_unknown
  · contradiction

theorem checkLoopHead_establishes (classes : hierarchy.Sound) {element : Identifier}
    {iterable : Expr} (freshElement : element.info.error = none)
    (fresh : iterable.outline.Fresh) :
    Establishes (CheckState.Sound hierarchy result) (checkLoopHead element iterable) fun head =>
      head.2.Accepted hierarchy ∧ ∃ type, type.Known ∧ head.1.info.type = some type ∧
        hierarchy.RunsThrough head.2.type type := by
  rw [checkLoopHead_eq]
  refine (infer_establishes classes iterable fresh).bind fun iterable accepted =>
    (demandIterable_establishes accepted).bind ?_
  rintro iterable ⟨rfl, possible⟩
  unfold takeElement
  refine @Establishes.bind _ _ _ _ _ _ _
    (fun assigned => by dsimp only; split <;> infer_instance)
    (assignName_establishes freshElement) ?_
  rintro _ ⟨type, known, rfl⟩
  have runs : _ → hierarchy.RunsThrough _ type :=
    runsThrough_of_iteration accepted.type_known possible
  dsimp only
  cases steps : (Iteration.ofType iterable.type).type? with
  | none => exact .pure ⟨accepted, type, known, rfl, runs (by simp [steps])⟩
  | some actual =>
      refine (demandFit_establishes freshElement).bind ?_
      rintro _ ⟨rfl, fits⟩
      exact .pure ⟨accepted, type, known, rfl, runs (by simpa [steps] using fits)⟩

theorem inferOptional_establishes (classes : hierarchy.Sound) {value : Option Expr}
    (fresh : ∀ expr ∈ value, expr.outline.Fresh) :
    Establishes (CheckState.Sound hierarchy result) (inferOptional value) fun checked =>
      ∀ expr ∈ checked, expr.Accepted hierarchy := by
  cases value with
  | none => exact .pure (by simp)
  | some value =>
      exact (infer_establishes classes value (fresh value rfl)).bind fun value accepted =>
        .pure (by simpa using accepted)

theorem checkResult_establishes (classes : hierarchy.Sound) {wanted : ValueType}
    (inside : result = some wanted) {info : NodeInfo} (freshInfo : info.error = none)
    {value : Option Expr} (fresh : ∀ expr ∈ value, expr.outline.Fresh) :
    Establishes (CheckState.Sound hierarchy result) (checkResult wanted info value)
      (Stmt.Accepted hierarchy result) := by
  unfold checkResult
  refine @Establishes.bind _ _ _ _ _ _ _ (fun checked => by split <;> infer_instance)
    (inferOptional_establishes classes fresh) fun checked accepted => ?_
  split
  · refine .bind .view ?_
    rintro fits ⟨state, sound, rfl⟩
    rw [sound.classes]
    refine .ite (fun fits => .pure_bind (.pure ⟨.ret inside fits, ?_⟩))
      fun _ => (report_establishes freshInfo).bind fun _ impossible => impossible.elim
    simp [Stmt.outline]
  · next value =>
      have accepted := accepted value rfl
      refine (demandFit_establishes freshInfo).bind fun recorded fits =>
        .pure ⟨.retValue inside accepted.typed fits.2, ?_⟩
      simpa [Stmt.outline] using accepted.known

theorem checkReturn_establishes (classes : hierarchy.Sound) {info : NodeInfo}
    {value : Option Expr} (fresh : (Stmt.ret info value).outline.Fresh) :
    Establishes (CheckState.Sound hierarchy result) (checkReturn info value)
      (Stmt.Accepted hierarchy result) := by
  have freshInfo : info.error = none := by simpa [Stmt.outline] using fresh.1
  have freshValue : ∀ expr ∈ value, expr.outline.Fresh := by
    rintro expr rfl
    simpa [Stmt.outline, freshInfo] using fresh
  unfold checkReturn
  refine @Establishes.bind _ _ _ _ _ _ _ (fun state => by split <;> infer_instance) .get ?_
  intro state sound
  split
  · exact (inferOptional_establishes classes freshValue).bind fun value _ =>
      (report_establishes freshInfo).bind fun _ impossible => impossible.elim
  · next wanted outer shape =>
      exact checkResult_establishes classes (by simp [← sound.result, shape]) freshInfo freshValue

theorem inferCondition_establishes (classes : hierarchy.Sound) {condition : Expr}
    (fresh : condition.outline.Fresh) :
    Establishes (CheckState.Sound hierarchy result) (inferCondition condition) fun checked =>
      checked.Typed hierarchy .bool ∧ checked.outline.All Label.Known :=
  (infer_establishes classes condition fresh).bind fun _ accepted =>
    (demand_establishes accepted).mono fun _ decides =>
      ⟨decides.2 ▸ decides.1.typed, decides.1.known⟩

/-- Checking statements without finding a problem types them. -/
theorem checkStmt_establishes (classes : hierarchy.Sound) :
    (∀ stmt : Stmt, stmt.Raw → Establishes (CheckState.Sound hierarchy result) (checkStmt stmt)
      (Stmt.Accepted hierarchy result)) ∧
    ∀ stmts : List Stmt, (∀ stmt ∈ stmts, stmt.Raw) →
      Establishes (CheckState.Sound hierarchy result) (checkStmts stmts) fun checked =>
        ∀ stmt ∈ checked, stmt.Accepted hierarchy result := by
  apply Stmt.mutual_induction
  case expr =>
    rintro info value ⟨_, fresh⟩
    simp only [Stmt.outline, Outline.all_node, Outline.allIn_cons] at fresh
    unfold checkStmt
    refine (infer_establishes classes value fresh.2.1).bind fun value accepted =>
      .pure ⟨.expr accepted.typed, ?_⟩
    simpa [Stmt.outline] using accepted.known
  case assign =>
    intro info targets value raw
    unfold checkStmt
    exact checkAssignment_establishes classes raw
  case ifElse =>
    intro info condition thenBody elseBody ihThen ihElse raw
    obtain ⟨fresh, rawThen, rawElse⟩ := raw.ifElse
    unfold checkStmt
    refine (inferCondition_establishes classes fresh).bind fun condition decides =>
      (assuming_establishes (ihThen rawThen)).bind fun thenBody first =>
      (ihElse rawElse).bind fun elseBody second => .pure ⟨?_, ?_⟩
    · exact .ifElse decides.1 (fun stmt among => (first stmt among).wellTyped)
        fun stmt among => (second stmt among).wellTyped
    · simpa [Stmt.outline] using ⟨decides.2, fun stmt among => (first stmt among).known,
        fun stmt among => (second stmt among).known⟩
  case whileLoop =>
    intro info condition body ih raw
    obtain ⟨fresh, rawBody⟩ := raw.whileLoop
    unfold checkStmt
    refine (inferCondition_establishes classes fresh).bind fun condition decides =>
      (ih rawBody).bind fun body inner => .pure ⟨?_, ?_⟩
    · exact .whileLoop decides.1 fun stmt among => (inner stmt among).wellTyped
    · simpa [Stmt.outline] using ⟨decides.2, fun stmt among => (inner stmt among).known⟩
  case forLoop =>
    intro info element iterable body ih raw
    obtain ⟨freshElement, fresh, rawBody⟩ := raw.forLoop
    unfold checkStmt
    refine (checkLoopHead_establishes classes freshElement fresh).bind ?_
    rintro ⟨element, iterable⟩ ⟨accepted, type, known, recorded, runs⟩
    refine (ih rawBody).bind fun body inner => .pure ⟨?_, ?_⟩
    · exact .forLoop accepted.typed recorded runs fun stmt among => (inner stmt among).wellTyped
    · have knownElement : ∀ type, element.info.type = some type → type.Known := fun other same =>
        Option.some.inj (recorded.symm.trans same) ▸ known
      simpa [Stmt.outline] using
        ⟨knownElement, accepted.known, fun stmt among => (inner stmt among).known⟩
  case ret =>
    rintro info value ⟨_, fresh⟩
    unfold checkStmt
    exact checkReturn_establishes classes fresh
  case nil =>
    intro _
    unfold checkStmts
    exact .pure (by simp)
  case cons =>
    intro stmt rest ihStmt ihRest all
    obtain ⟨first, others⟩ := List.forall_mem_cons.mp all
    unfold checkStmts
    exact (ihStmt first).bind fun stmt accepted => (ihRest others).bind fun rest more =>
      .pure (List.forall_mem_cons.mpr ⟨accepted, more⟩)

end Check
end ChocoLang
