import ChocoLang.Proofs.Checking.Narrowing.Statement
import ChocoLang.Proofs.Checking.Rechecking.Expression

/-!
# Checking statements again

A statement that has been checked comes back as it is, and no problem is found.  At an assignment
misfits are recorded for one target after the other; in the end the first of them is there from the
beginning, and it stands where all the others would be recorded.
-/

namespace ChocoLang
namespace Check

/-! ## Misfits -/

/-- Reports a problem at a node unless what is seen in the state is right. -/
def reportUnless (right : CheckState → Bool) (error : CheckError) (info : NodeInfo) :
    Check NodeInfo := do
  if ← view right then return info else report error info

theorem reportUnless_extends (right : CheckState → Bool) (error : CheckError) (info : NodeInfo)
    (state : CheckState) : info.Extends (reportUnless right error info state).1 := by
  unfold reportUnless
  rw [bind_apply, view_apply]
  split
  · exact .refl info
  · exact report_extends _ info state

theorem reportUnless_again {right : CheckState → Bool}
    (blind : ∀ state others, right (CheckState.withProblems state others) = right state)
    {error : CheckError} {info final : NodeInfo} {state : CheckState}
    (later : (reportUnless right error info state).1.Extends final) :
    Again (reportUnless right error final) final state (reportUnless right error info state).2 := by
  unfold reportUnless at later ⊢
  rw [bind_apply, view_apply] at later ⊢
  refine (Again.view (blind state)).bind ?_
  by_cases fit : right state = true
  · simp only [if_pos fit] at later ⊢
    exact .pure final state
  · simp only [if_neg fit] at later ⊢
    exact report_of_extends later

theorem demandFit_extends (expected actual : ValueType) (info : NodeInfo) (state : CheckState) :
    info.Extends (demandFit expected actual info state).1 :=
  reportUnless_extends (·.hierarchy.isAssignable actual expected) _ info state

theorem demandFit_again {expected actual : ValueType} {info final : NodeInfo} {state : CheckState}
    (later : (demandFit expected actual info state).1.Extends final) :
    Again (demandFit expected actual final) final state (demandFit expected actual info state).2 :=
  reportUnless_again (fun _ _ => rfl) later

theorem demandFits_extends (value : ValueType) (target : Option ValueType) (info : NodeInfo)
    (state : CheckState) : info.Extends (demandFits value target info state).1 := by
  cases target with
  | none => exact .refl info
  | some type => exact demandFit_extends type value info state

theorem demandFits_again {value : ValueType} {target : Option ValueType} {info final : NodeInfo}
    {state : CheckState} (later : (demandFits value target info state).1.Extends final) :
    Again (demandFits value target final) final state (demandFits value target info state).2 := by
  cases target with
  | none => exact .pure final state
  | some type => exact demandFit_again later

/-- Whether a single target is there depends on the number of targets alone. -/
theorem demandSingle_eq (targets : List Expr) (value : ValueType) (info : NodeInfo) :
    demandSingle targets value info =
      reportUnless (fun _ => !(targets.length > 1 && value = .list .none)) .listOfNoneToMany info := by
  unfold demandSingle reportUnless
  cases (decide (targets.length > 1) && decide (value = .list .none)) <;> rfl

theorem demandSingle_again {targets others : List Expr} (same : others.length = targets.length)
    {value : ValueType} {info final : NodeInfo} {state : CheckState}
    (later : (demandSingle targets value info state).1.Extends final) :
    Again (demandSingle others value final) final state (demandSingle targets value info state).2 := by
  rw [demandSingle_eq] at later ⊢
  rw [demandSingle_eq, same]
  exact reportUnless_again (fun _ _ => rfl) later

/-! ## Targets -/

theorem assignName_again {name final : Identifier} {state : CheckState}
    (later : (assignName name state).1.1.Extends final) :
    Again (assignName final) (final, (assignName name state).1.2) state
      (assignName name state).2 := by
  obtain ⟨recorded, text⟩ := later
  obtain ⟨info, word⟩ := final
  intro others
  cases found : (state.scope.lookupLocal name.name).filter (·.kind.isAssignable) with
  | none =>
      rw [assignName_of_none found] at recorded text ⊢
      obtain rfl : word = name.name := text
      have again := settle_again recorded others
      have ran := @assignName_of_none ⟨info, name.name⟩ (state.withProblems others) found
      refine ran.trans ?_
      dsimp only at again ⊢
      rw [again]
  | some binding =>
      rw [assignName_of_some found] at recorded text ⊢
      obtain rfl : word = name.name := text
      have again := settle_again recorded others
      have ran := @assignName_of_some ⟨info, name.name⟩ (state.withProblems others) binding found
      refine ran.trans ?_
      dsimp only [CheckState.withProblems] at again ⊢
      rw [again]

/-- The type that an element takes when it is assigned: none if it is in error. -/
def takenType? (container : ValueType) (element : Expr) : Option ValueType :=
  if container = .str || element.info.error.isSome || element.type.isUnknown then none
  else some element.type

/-- The parts of an element that is assigned come before the element. -/
theorem assignElement_eq (info : ExprInfo) (container position : Expr) :
    assignElement info container position = (do
      let container ← infer container
      let position ← infer position
      let position ← demandPosition position
      let info ← settle (assignedElementVerdict container.type) info
      let target := Expr.index info container position
      return (target, takenType? container.type target)) := by
  unfold assignElement takenType?
  congr
  funext container
  congr
  funext position
  congr
  funext position
  congr
  funext info
  exact (apply_ite (fun type => pure (Expr.index info container position, type)) _ _ _).symm

theorem assignElement_repeats (info : ExprInfo) (container position : Expr) :
    Repeats (assignElement info container position) fun assigned => assignTarget assigned.1 := by
  intro state
  simp only [assignElement_eq, bind_apply, pure_apply, assignTarget]
  refine ((infer_again.1 container).repeats state).bind ?_
  refine (infer_again.1 position _ _ (demand_extends _ _ _ _)).bind ?_
  refine (demand_repeats _ _ _ _).bind ?_
  exact (settle_again (.refl _)).bind (.pure _ _)

/-- What is neither a name nor an element is assigned as it is checked. -/
theorem assignTarget_of_kind {target : Expr} (name : target.kind ≠ .identifier)
    (element : target.kind ≠ .indexExpr) :
    assignTarget target = (do
      let target ← infer target
      return (target, if target.info.error.isSome then none else some target.type)) := by
  cases target with
  | name _ => exact absurd rfl name
  | index _ _ _ => exact absurd rfl element
  | _ => rfl

theorem kind_infer (expr : Expr) (state : CheckState) :
    (infer expr state).1.kind = expr.kind := by
  cases expr <;> (unfold infer; rfl)

theorem assignTarget_repeats (target : Expr) :
    Repeats (assignTarget target) fun assigned => assignTarget assigned.1 := by
  intro state
  by_cases name : target.kind = .identifier
  · cases target with
    | name name => exact (assignName_again (.refl _)).bind (.pure _ _)
    | _ => cases name
  by_cases element : target.kind = .indexExpr
  · cases target with
    | index info container position => exact assignElement_repeats info container position state
    | _ => cases element
  have still := kind_infer target state
  rw [assignTarget_of_kind name element]
  simp only [bind_apply, pure_apply]
  rw [assignTarget_of_kind (still ▸ name) (still ▸ element)]
  exact ((infer_again.1 target).repeats state).bind (.pure _ _)

/-! ## Assignments -/

theorem assignAll_extends (value : ValueType) (info : NodeInfo) (targets : List Expr)
    (state : CheckState) : info.Extends (assignAll value info targets state).1.2 := by
  induction targets generalizing info state with
  | nil => exact .refl info
  | cons target rest ih =>
      rw [assignAll_cons]
      exact (demandFits_extends _ _ info _).trans (ih _ _)

theorem length_assignAll (value : ValueType) (info : NodeInfo) (targets : List Expr)
    (state : CheckState) : (assignAll value info targets state).1.1.length = targets.length := by
  induction targets generalizing info state with
  | nil => rfl
  | cons target rest ih =>
      rw [assignAll_cons]
      exact congrArg (· + 1) (ih _ _)

/--
Targets are assigned as before, also if misfits of later ones are recorded at the assignment from the
beginning.
-/
theorem assignAll_again {value : ValueType} {info final : NodeInfo} {targets : List Expr}
    {state : CheckState} (later : (assignAll value info targets state).1.2.Extends final) :
    Again (assignAll value final (assignAll value info targets state).1.1)
      ((assignAll value info targets state).1.1, final) state
      (assignAll value info targets state).2 := by
  induction targets generalizing info state with
  | nil => exact .pure _ state
  | cons target rest ih =>
      rw [assignAll_cons] at later ⊢
      simp only [bind_apply, pure_apply] at later ⊢
      rw [assignAll_cons]
      -- What is recorded behind the first target is recorded in the end.
      refine (assignTarget_repeats target state).bind ?_
      refine (demandFits_again ((assignAll_extends _ _ _ _).trans later)).bind ?_
      exact (ih later).bind (.pure _ _)

theorem checkAssignment_repeats (info : NodeInfo) (targets : List Expr) (value : Expr) :
    Repeats (checkAssignment info targets value) checkStmt := by
  intro state
  rw [checkAssignment_eq]
  simp only [bind_apply, pure_apply]
  rw [checkStmt, checkAssignment_eq]
  refine ((infer_again.1 value).repeats state).bind ?_
  refine (demandSingle_again (length_assignAll _ _ _ _) (assignAll_extends _ _ _ _)).bind ?_
  exact (assignAll_again (.refl _)).bind (.pure _ _)

/-! ## Loops and returns -/

theorem demandIterable_eq : demandIterable =
    demandType (fun type => Iteration.ofType type ≠ .impossible) .notIterable := by
  funext iterable
  unfold demandIterable demandType
  by_cases impossible : Iteration.ofType iterable.type = .impossible <;> simp [impossible]

theorem demandIterable_extends (iterable : Expr) (state : CheckState) :
    iterable.Extends (demandIterable iterable state).1 := by
  rw [demandIterable_eq]
  exact demandType_extends _ _ iterable state

theorem demandIterable_repeats (iterable : Expr) :
    Repeats (demandIterable iterable) demandIterable := by
  rw [demandIterable_eq]
  exact demandType_repeats _ _ iterable

theorem takeElement_repeats (iteration : Iteration) (element : Identifier) (iterable : Expr) :
    Repeats (takeElement iteration element iterable) fun head =>
      takeElement iteration head.1 head.2 := by
  intro state
  unfold takeElement
  simp only [bind_apply]
  have again {final : Identifier} := @assignName_again element final state
  generalize assignName element state = assigned at again ⊢
  generalize iteration.type? = value
  obtain ⟨⟨element, type⟩, after⟩ := assigned
  cases type with
  | none => exact (again (.refl element)).bind (.pure _ _)
  | some expected =>
      cases value with
      | none => exact (again (.refl element)).bind (.pure _ _)
      | some actual =>
          have later : element.Extends { element with info := { element.info with
              toNodeInfo := (demandFit expected actual element.info.toNodeInfo after).1 } } :=
            ⟨⟨demandFit_extends _ _ _ _, rfl⟩, rfl⟩
          exact (again later).bind ((demandFit_again (.refl _)).bind (.pure _ _))

theorem checkLoopHead_repeats (element : Identifier) (iterable : Expr) :
    Repeats (checkLoopHead element iterable) fun head => checkLoopHead head.1 head.2 := by
  intro state
  simp only [checkLoopHead_eq, bind_apply, snd_takeElement]
  have run := demandIterable_extends (infer iterable state).1 (infer iterable state).2
  refine (infer_again.1 iterable state _ run).bind ?_
  refine (demandIterable_repeats _ _).bind ?_
  have taken := takeElement_repeats (.ofType (infer iterable state).1.type) element
    (demandIterable (infer iterable state).1 (infer iterable state).2).1
    (demandIterable (infer iterable state).1 (infer iterable state).2).2
  simpa only [snd_takeElement, run.type] using taken

theorem inferOptional_repeats (value : Option Expr) :
    Repeats (inferOptional value) inferOptional := by
  intro state
  cases value with
  | none => exact .pure none state
  | some value => exact ((infer_again.1 value).repeats state).bind (.pure _ _)

/-- Reports an end of a function with a result, if what it returns does not fit. -/
def demandResult (expected : ValueType) (info : NodeInfo) : Option Expr → Check NodeInfo
  | none => reportUnless (·.hierarchy.isAssignable .none expected) (.missingResult expected) info
  | some value => demandFit expected value.type info

theorem checkResult_eq (expected : ValueType) (info : NodeInfo) (value : Option Expr) :
    checkResult expected info value = (do
      let value ← inferOptional value
      let info ← demandResult expected info value
      return .ret info value) := by
  unfold checkResult
  congr
  funext value
  cases value with
  | none =>
      simp only [demandResult, reportUnless, fits, bind_assoc]
      congr
      funext right
      cases right <;> rfl
  | some value => rfl

theorem demandResult_repeats (expected : ValueType) (info : NodeInfo) (value : Option Expr) :
    Repeats (demandResult expected info value) (demandResult expected · value) := by
  intro state
  cases value with
  | none => exact reportUnless_again (fun _ _ => rfl) (.refl _)
  | some value => exact demandFit_again (.refl _)

theorem checkReturn_repeats (info : NodeInfo) (value : Option Expr) :
    Repeats (checkReturn info value) checkStmt := by
  intro state
  unfold checkReturn
  rw [bind_apply, get_apply]
  cases around : state.results with
  | nil =>
      simp only [bind_apply, pure_apply, checkStmt, checkReturn]
      refine Again.get (fun _ => rfl) ?_
      simp only [around]
      exact (inferOptional_repeats value state).bind
        ((report_of_extends (.refl _)).bind (.pure _ _))
  | cons expected results =>
      simp only [checkResult_eq, bind_apply, pure_apply, checkStmt, checkReturn]
      refine Again.get (fun _ => rfl) ?_
      simp only [around]
      exact (inferOptional_repeats value state).bind
        ((demandResult_repeats expected info _ _).bind (.pure _ _))

/-! ## Statements -/

/-- Checked statements come back as they are. -/
theorem checkStmt_repeats :
    (∀ stmt, Repeats (checkStmt stmt) checkStmt) ∧
      ∀ stmts, Repeats (checkStmts stmts) checkStmts := by
  apply Stmt.mutual_induction
  case expr =>
    intro info value state
    simp only [checkStmt, bind_apply, pure_apply]
    exact ((infer_again.1 value).repeats state).bind (.pure _ _)
  case assign =>
    intro info targets value
    simp only [checkStmt]
    exact checkAssignment_repeats info targets value
  case ifElse =>
    intro info condition thenBody elseBody ihThen ihElse state
    simp only [checkStmt, bind_apply, pure_apply]
    refine (inferCondition_repeats condition state).bind ?_
    exact (assuming_repeats ihThen _ _).bind ((ihElse _).bind (.pure _ _))
  case whileLoop =>
    intro info condition body ih state
    simp only [checkStmt, bind_apply, pure_apply]
    exact (inferCondition_repeats condition state).bind ((ih _).bind (.pure _ _))
  case forLoop =>
    intro info element iterable body ih state
    simp only [checkStmt, bind_apply, pure_apply]
    exact (checkLoopHead_repeats element iterable state).bind ((ih _).bind (.pure _ _))
  case ret =>
    intro info value
    simp only [checkStmt]
    exact checkReturn_repeats info value
  case nil =>
    intro state
    simp only [checkStmts]
    exact .pure [] state
  case cons =>
    intro stmt rest ihStmt ihRest state
    simp only [checkStmts, bind_apply, pure_apply]
    exact (ihStmt state).bind ((ihRest _).bind (.pure _ _))

end Check
end ChocoLang
