import ChocoLang.Proofs.Checking.Bare.Statement
import ChocoLang.Proofs.Checking.Establishes
import ChocoLang.Proofs.Checking.Lexical.Scope
import ChocoLang.Proofs.Checking.Narrowing.Statement
import ChocoLang.Proofs.Typing.Lookups

/-!
# Uses of a variable

Where the function at hand binds a name to a variable, the name has the type of the variable
wherever it is assigned.  Where it is read it may have the type of the absent value instead, in a
branch in which the variable is narrowed.
-/

namespace ChocoLang

/-! ## Scopes -/

/-- The function at hand binds the name to a variable of the type, which may be narrowed. -/
structure Scope.Offers (name : String) (type : ValueType) (scope : Scope) : Prop where
  /-- The place is in the body of a function. -/
  inFunction : scope.body.kind = .function
  /-- The function binds the name to a variable that can be assigned. -/
  bound : ∃ binding, scope.lookupLocal name = some binding ∧ binding.kind.isAssignable ∧
    binding.type = type
  /-- In branches a variable can only be narrowed to be absent. -/
  narrowed : ∀ frame ∈ scope.branches, ∀ binding, frame.find? name = some binding →
    binding.kind = .narrowed ∧ binding.type = .none

namespace Scope.Offers

variable {scope : Scope} {name : String} {type : ValueType}

/-- The variable is read with its type or as absent. -/
theorem lookup (offers : scope.Offers name type) : ∃ binding, scope.lookup name = some binding ∧
    binding.kind.isVariable ∧ (binding.type = type ∨ binding.type = .none) := by
  obtain ⟨inFunction, ⟨binding, found, assignable, typed⟩, narrowed⟩ := offers
  have isVariable : binding.kind.isVariable := by
    cases kind : binding.kind <;> simp_all [BindingKind.isAssignable, BindingKind.isVariable]
  unfold Scope.lookup Scope.frames
  rw [← scope.branches_append_enclosing, List.append_assoc, List.findSome?_append]
  cases inBranch : scope.branches.findSome? (readable? name) with
  | some narrow =>
      obtain ⟨frame, among, shape⟩ := List.exists_of_findSome?_eq_some inBranch
      obtain ⟨kind, absent⟩ := narrowed frame among narrow (find?_of_readable? shape)
      exact ⟨narrow, rfl, by rw [kind]; rfl, .inr absent⟩
  | none =>
      refine ⟨binding, ?_, isVariable, .inl typed⟩
      have readable : readable? name scope.body = some binding := by
        rw [readable?, if_neg (by simp [inFunction])]
        exact found
      unfold Scope.body at readable
      cases frames : scope.enclosing <;> simp_all

/-- Forgetting what is known in branches keeps the variable. -/
theorem forget (offers : scope.Offers name type) (other : String) :
    (scope.forget other).Offers name type := by
  obtain ⟨inFunction, bound, narrowed⟩ := offers
  refine ⟨by rwa [body_forget], by rwa [lookupLocal_forget], ?_⟩
  rw [(scope.forget_parts other).1, List.forall_mem_map]
  exact fun frame among binding found =>
    narrowed frame among binding (Frame.find?_of_forget found)

theorem assumeAbsent (offers : scope.Offers name type) (other : String) :
    (scope.assumeAbsent other).Offers name type := by
  obtain ⟨frame, branches, bound⟩ := scope.branches_assumeAbsent other
  refine ⟨offers.inFunction, offers.bound, ?_⟩
  rw [branches, List.forall_mem_cons]
  refine ⟨fun binding found => ?_, offers.narrowed⟩
  rw [bound] at found
  split at found
  · cases found
    exact ⟨rfl, rfl⟩
  · cases found

theorem readVerdict (offers : scope.Offers name type) :
    (scope.readVerdict name).type = type ∨ (scope.readVerdict name).type = .none := by
  obtain ⟨binding, found, isVariable, typed⟩ := offers.lookup
  simpa [Scope.readVerdict, found, isVariable] using typed

theorem nameCallVerdict (offers : scope.Offers name type) (hierarchy : ClassHierarchy)
    (args : List ValueType) :
    (hierarchy.nameCallVerdict scope name args).callee.type = type ∨
      (hierarchy.nameCallVerdict scope name args).callee.type = .none := by
  obtain ⟨binding, found, isVariable, typed⟩ := offers.lookup
  unfold ClassHierarchy.nameCallVerdict
  rw [found]
  -- What is called is a variable, so neither a class nor a function.
  cases kind : binding.kind <;> simp_all [BindingKind.isVariable]

end Scope.Offers

/-! ## Reads and assignments -/

section

variable (name : String) (type : ValueType)

/-- Where the name is read it has the type, or that of the absent value. -/
def ReadAs (reads : List Read) : Prop :=
  ∀ read ∈ reads, read.name.name = name →
    read.name.info.type = some type ∨ read.name.info.type = some .none

/-- Where the name is assigned it has the type. -/
def AssignedAs (names : List Identifier) : Prop :=
  ∀ target ∈ names, target.name = name → target.info.type = some type

/-- The name is used with the type. -/
def UsedAs (reads : List Read) (names : List Identifier) : Prop :=
  ReadAs name type reads ∧ AssignedAs name type names

/-- The function at hand binds the name to a variable of the type. -/
def CheckState.Offers (state : CheckState) : Prop := state.scope.Offers name type

end

section

variable {name : String} {type : ValueType} {reads later : List Read}
  {names others : List Identifier}

@[simp]
theorem readAs_nil : ReadAs name type [] := by simp [ReadAs]

@[simp]
theorem readAs_append :
    ReadAs name type (reads ++ later) ↔ ReadAs name type reads ∧ ReadAs name type later :=
  List.forall_mem_append

@[simp]
theorem readAs_inside {step : Step} :
    ReadAs name type (reads.map (Read.inside step)) ↔ ReadAs name type reads :=
  List.forall_mem_map

@[simp]
theorem assignedAs_nil : AssignedAs name type [] := by simp [AssignedAs]

@[simp]
theorem assignedAs_append :
    AssignedAs name type (names ++ others) ↔
      AssignedAs name type names ∧ AssignedAs name type others :=
  List.forall_mem_append

end

/-- What ends narrowings keeps the variable. -/
theorem CheckState.Offers.forgot {name : String} {type : ValueType} {before after : CheckState}
    (offers : before.Offers name type) (forgot : before.Forgot after) :
    after.Offers name type := by
  obtain ⟨names, found, rfl⟩ := forgot
  unfold CheckState.Offers at offers ⊢
  exact List.foldlRecOn names Scope.forget offers fun _ kept other _ => kept.forget other

namespace Check

variable {α : Type} {name : String} {type : ValueType} {good : α → Prop}

/-- An action that ends narrowings at most keeps the variable. -/
theorem offers_of_forgot {action : Check α} [Has CheckState.Forgot action]
    (holds : ∀ state : CheckState, state.Offers name type → good (action state).1) :
    Maintains (CheckState.Offers name type) action good :=
  .of_forgot CheckState.Offers.forgot holds

theorem offers_any {action : Check α} [Has CheckState.Forgot action] :
    Maintains (CheckState.Offers name type) action fun _ => True :=
  offers_of_forgot fun _ _ => trivial

theorem assuming_offers {condition : Expr} {inner : Check α} [Has CheckState.Forgot inner]
    (maintains : Maintains (CheckState.Offers name type) inner good) :
    Maintains (CheckState.Offers name type) (assuming condition inner) good :=
  maintains.assuming CheckState.Offers.forgot fun _ other offers =>
    Scope.Offers.assumeAbsent offers other

theorem settle_offers {verdict : Verdict} {info : ExprInfo} :
    Maintains (CheckState.Offers name type) (settle verdict info)
      fun recorded => recorded.type = some verdict.type :=
  offers_of_forgot fun state _ => type_settle verdict info state

/-! ## Expressions -/

/-- Recording something else than a type changes no read. -/
theorem readAs_withInfo {expr : Expr} {info : ExprInfo} (same : info.type = expr.info.type)
    (read : ReadAs name type expr.reads) : ReadAs name type (expr.withInfo info).reads := by
  cases expr with
  | name identifier =>
      simp only [ReadAs, Expr.withInfo, Expr.reads, List.forall_mem_singleton] at read ⊢
      rwa [same]
  | _ => exact read

theorem demand_offers {wanted : ValueType} {error : ValueType → CheckError} {expr : Expr}
    (read : ReadAs name type expr.reads) :
    Maintains (CheckState.Offers name type) (demand wanted error expr)
      fun checked => ReadAs name type checked.reads := by
  refine offers_of_forgot fun state _ => ?_
  unfold demand
  split
  · exact read
  · exact readAs_withInfo rfl read

/-- The names in an expression that is more than a name are those in its parts. -/
theorem settleExpr_offers {verdict : Verdict} {expr : Expr}
    (read : ∀ info, ReadAs name type (expr.withInfo info).reads) :
    Maintains (CheckState.Offers name type) (settleExpr verdict expr)
      fun checked => ReadAs name type checked.reads :=
  offers_of_forgot fun _ _ => read _

/-- Where an expression reads the variable it has its type. -/
theorem infer_offers :
    (∀ expr : Expr, Maintains (CheckState.Offers name type) (infer expr)
      fun checked => ReadAs name type checked.reads) ∧
    ∀ exprs : List Expr, Maintains (CheckState.Offers name type) (inferAll exprs)
      fun checked => ReadAs name type (Expr.readsIn checked) := by
  apply Expr.mutual_induction
  case name =>
    intro identifier
    refine offers_of_forgot fun state offers => ?_
    unfold infer
    simp only [ReadAs, bind_apply, settleExpr_apply, Expr.withInfo, Expr.reads,
      List.forall_mem_singleton]
    rintro rfl
    rw [type_settle]
    exact (Scope.Offers.readVerdict offers).imp (congrArg some) (congrArg some)
  case integer | boolean | string =>
    intro info value
    unfold infer
    exact settleExpr_offers fun _ => readAs_nil
  case none =>
    intro info
    unfold infer
    exact settleExpr_offers fun _ => readAs_nil
  case list =>
    intro info elements ih
    unfold infer
    exact ih.bind fun elements read => .bind .view fun verdict _ =>
      settleExpr_offers fun _ => read
  case binary =>
    intro info left operator right ihLeft ihRight
    unfold infer
    exact ihLeft.bind fun left first => ihRight.bind fun right second => .bind .view
      fun verdict _ => settleExpr_offers fun _ => readAs_append.mpr ⟨first, second⟩
  case unary =>
    intro info operator operand ih
    unfold infer
    exact ih.bind fun operand read => settleExpr_offers fun _ => read
  case conditional =>
    intro info condition thenExpr elseExpr ihCondition ihThen ihElse
    unfold infer
    refine ihCondition.bind fun condition read =>
      (demand_offers read).bind fun condition asked =>
      (assuming_offers ihThen).bind fun thenExpr first => ihElse.bind fun elseExpr second =>
      .bind .view fun verdict _ => settleExpr_offers fun _ => ?_
    simpa [Expr.withInfo, Expr.reads] using ⟨asked, first, second⟩
  case member =>
    intro info object field ih
    unfold infer
    exact ih.bind fun object read => .bind .view fun verdict _ => settleExpr_offers fun _ => read
  case index =>
    intro info container position ihContainer ihPosition
    unfold infer
    exact ihContainer.bind fun container first => ihPosition.bind fun position read =>
      (demand_offers read).bind fun position second =>
        settleExpr_offers fun _ => readAs_append.mpr ⟨first, second⟩
  case call =>
    intro info function args ih
    unfold infer
    refine ih.bind fun args read => .bind .get fun state offers => ?_
    refine settle_offers.bind fun callee recorded => settleExpr_offers fun _ => ?_
    refine List.forall_mem_cons.mpr ⟨?_, read⟩
    rintro rfl
    rw [recorded]
    exact (Scope.Offers.nameCallVerdict offers _ _).imp (congrArg some) (congrArg some)
  case methodCall =>
    intro info access object method args ihObject ihArgs
    unfold infer
    exact ihObject.bind fun object first => ihArgs.bind fun args others => .bind .view
      fun verdict _ => settle_offers.bind fun access _ =>
        settleExpr_offers fun _ => readAs_append.mpr ⟨first, others⟩
  case nil =>
    unfold inferAll
    exact .pure readAs_nil
  case cons =>
    intro expr rest ihExpr ihRest
    unfold inferAll
    exact ihExpr.bind fun expr first => ihRest.bind fun rest others =>
      .pure (readAs_append.mpr ⟨first, others⟩)

theorem inferCondition_offers (condition : Expr) :
    Maintains (CheckState.Offers name type) (inferCondition condition)
      fun checked => ReadAs name type checked.reads :=
  (infer_offers.1 condition).bind fun _ read => demand_offers read

/-! ## Targets -/

/-- The variable that is assigned has its type. -/
theorem assignName_offers (identifier : Identifier) :
    Maintains (CheckState.Offers name type) (assignName identifier)
      fun assigned => AssignedAs name type [assigned.1] := by
  refine offers_of_forgot fun state offers => List.forall_mem_singleton.mpr fun same => ?_
  rw [(Identifier.bare_eq_iff.mp (assignName_bare identifier state)).2] at same
  obtain ⟨binding, found, assignable, typed⟩ := offers.bound
  have taken : (state.scope.lookupLocal name).filter (·.kind.isAssignable) = some binding :=
    Option.filter_eq_some_iff.mpr ⟨found, assignable⟩
  rw [assignName_of_some (same ▸ taken), ← typed]
  exact type_settle _ _ _

theorem assignElement_offers (info : ExprInfo) (container position : Expr) :
    Maintains (CheckState.Offers name type) (assignElement info container position)
      fun assigned => UsedAs name type assigned.1.targetReads assigned.1.targetNames :=
  (infer_offers.1 container).bind fun container first =>
    (infer_offers.1 position).bind fun _ read =>
    (demand_offers read).bind fun position second => settle_offers.bind fun info _ =>
    have used : UsedAs name type (Expr.index info container position).targetReads
        (Expr.index info container position).targetNames :=
      ⟨readAs_append.mpr ⟨first, second⟩, assignedAs_nil⟩
    .ite (fun _ => .pure used) fun _ => .pure used

theorem readAs_targetReads {target : Expr} (read : ReadAs name type target.reads) :
    ReadAs name type target.targetReads := by
  cases target with
  | name identifier => exact readAs_nil
  | _ => exact read

theorem assignTarget_offers (target : Expr) :
    Maintains (CheckState.Offers name type) (assignTarget target)
      fun assigned => UsedAs name type assigned.1.targetReads assigned.1.targetNames := by
  unfold assignTarget
  split
  · exact (assignName_offers _).bind fun assigned typed => .pure ⟨readAs_nil, typed⟩
  · exact assignElement_offers _ _ _
  · next noName _ =>
      have checked : Maintains (CheckState.Offers name type) (infer target) fun checked =>
          UsedAs name type checked.targetReads checked.targetNames :=
        offers_of_forgot fun state offers =>
          ⟨readAs_targetReads (infer_offers.1 target state offers).1, by
            rw [targetNames_of_bare (infer_bare.1 target state) noName]
            exact assignedAs_nil⟩
      exact checked.bind fun target used => .pure used

theorem assignAll_offers (value : ValueType) (info : NodeInfo) (targets : List Expr) :
    Maintains (CheckState.Offers name type) (assignAll value info targets)
      fun assigned => UsedAs name type (targetReadsIn assigned.1)
        (assigned.1.flatMap Expr.targetNames) := by
  induction targets generalizing info with
  | nil => exact .pure ⟨readAs_nil, assignedAs_nil⟩
  | cons target rest ih =>
      rw [assignAll_cons]
      refine (assignTarget_offers target).bind fun assigned first =>
        offers_any.bind fun info _ =>
        (ih info).bind fun later others => .pure ?_
      exact ⟨readAs_append.mpr ⟨first.1, readAs_inside.mpr others.1⟩,
        assignedAs_append.mpr ⟨first.2, others.2⟩⟩

theorem checkAssignment_offers (info : NodeInfo) (targets : List Expr) (value : Expr) :
    Maintains (CheckState.Offers name type) (checkAssignment info targets value)
      fun checked => UsedAs name type checked.reads checked.assigned := by
  rw [checkAssignment_eq]
  refine (infer_offers.1 value).bind fun value read =>
    offers_any.bind fun info _ =>
    (assignAll_offers value.type info targets).bind fun assigned used => .pure ?_
  exact ⟨readAs_append.mpr ⟨read, used.1⟩, used.2⟩

/-! ## Loops and returns -/

theorem demandIterable_offers {iterable : Expr} (read : ReadAs name type iterable.reads) :
    Maintains (CheckState.Offers name type) (demandIterable iterable)
      fun checked => ReadAs name type checked.reads := by
  refine offers_of_forgot fun state _ => ?_
  unfold demandIterable
  split
  · exact readAs_withInfo rfl read
  · exact read

theorem takeElement_offers (iteration : Iteration) (element : Identifier) {iterable : Expr}
    (read : ReadAs name type iterable.reads) :
    Maintains (CheckState.Offers name type) (takeElement iteration element iterable)
      fun head => UsedAs name type head.2.reads [head.1] := by
  refine (assignName_offers element).bind fun (assigned, type) typed => ?_
  dsimp only
  split
  · exact offers_any.bind fun _ _ =>
      .pure ⟨read, List.forall_mem_singleton.mpr (List.forall_mem_singleton.mp typed)⟩
  · exact .pure ⟨read, typed⟩

theorem checkLoopHead_offers (element : Identifier) (iterable : Expr) :
    Maintains (CheckState.Offers name type) (checkLoopHead element iterable)
      fun head => UsedAs name type head.2.reads [head.1] := by
  rw [checkLoopHead_eq]
  exact (infer_offers.1 iterable).bind fun iterable read =>
    (demandIterable_offers read).bind fun checked read => takeElement_offers _ element read

theorem checkReturn_offers (info : NodeInfo) (value : Option Expr) :
    Maintains (CheckState.Offers name type) (checkReturn info value)
      fun checked => UsedAs name type checked.reads checked.assigned := by
  refine offers_of_forgot fun state offers => ?_
  obtain ⟨info', shape⟩ := checkReturn_shape info value state
  rw [shape]
  refine ⟨?_, assignedAs_nil⟩
  cases value with
  | none => exact readAs_nil
  | some value => exact (infer_offers.1 value state offers).1

/-! ## Statements -/

/-- Where statements use the variable it has its type. -/
theorem checkStmt_offers :
    (∀ stmt : Stmt, Maintains (CheckState.Offers name type) (checkStmt stmt)
      fun checked => UsedAs name type checked.reads checked.assigned) ∧
    ∀ stmts : List Stmt, Maintains (CheckState.Offers name type) (checkStmts stmts)
      fun checked => UsedAs name type (Stmt.readsIn checked) (Stmt.assignedIn checked) := by
  apply Stmt.mutual_induction
  case expr =>
    intro info value
    unfold checkStmt
    exact (infer_offers.1 value).bind fun value read => .pure ⟨read, assignedAs_nil⟩
  case assign =>
    intro info targets value
    unfold checkStmt
    exact checkAssignment_offers info targets value
  case ifElse =>
    intro info condition thenBody elseBody ihThen ihElse
    unfold checkStmt
    refine (inferCondition_offers condition).bind fun condition asked =>
      (assuming_offers ihThen).bind fun thenBody first => ihElse.bind fun elseBody second =>
        .pure ?_
    simpa [UsedAs, Stmt.reads, Stmt.assigned] using
      ⟨⟨asked, first.1, second.1⟩, first.2, second.2⟩
  case whileLoop =>
    intro info condition body ih
    unfold checkStmt
    refine (inferCondition_offers condition).bind fun condition asked =>
      ih.bind fun body inner => .pure ?_
    simpa [UsedAs, Stmt.reads, Stmt.assigned] using ⟨⟨asked, inner.1⟩, inner.2⟩
  case forLoop =>
    intro info element iterable body ih
    unfold checkStmt
    refine (checkLoopHead_offers element iterable).bind ?_
    rintro ⟨element, iterable⟩ head
    refine ih.bind fun body inner => .pure ?_
    exact ⟨readAs_append.mpr ⟨head.1, readAs_inside.mpr inner.1⟩,
      assignedAs_append.mpr ⟨head.2, inner.2⟩⟩
  case ret =>
    intro info value
    unfold checkStmt
    exact checkReturn_offers info value
  case nil =>
    unfold checkStmts
    exact .pure ⟨readAs_nil, assignedAs_nil⟩
  case cons =>
    intro stmt rest ihStmt ihRest
    unfold checkStmts
    refine ihStmt.bind fun stmt first => ihRest.bind fun rest others => .pure ?_
    exact ⟨readAs_append.mpr ⟨first.1, readAs_inside.mpr others.1⟩,
      assignedAs_append.mpr ⟨first.2, others.2⟩⟩

end Check
end ChocoLang
