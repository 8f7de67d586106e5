import ChocoLang.Proofs.Checking.Narrowing.Expression

/-!
# Checking expressions again

What has been checked is as checking leaves it: checked again in the same state, an expression comes
back as it is, and no problem is found.  The verdicts are the same, and wherever one has an error
the node has one already.  An error that is recorded at an expression afterwards, say because it is
no truth value where one is wanted, makes no difference to this.
-/

namespace ChocoLang

/-! ## Later records -/

/-- The second record is the first one, or has an error where the first has none. -/
def NodeInfo.Extends (first second : NodeInfo) : Prop :=
  second = first ∨ first.error = none ∧ second.error.isSome ∧ second.span = first.span

namespace NodeInfo.Extends

variable {first second third : NodeInfo}

theorem refl (info : NodeInfo) : info.Extends info := .inl rfl

theorem trans (later : first.Extends second) (last : second.Extends third) :
    first.Extends third := by
  rcases later with rfl | ⟨clean, error, span⟩
  · exact last
  · rcases last with rfl | ⟨none, -, -⟩
    · exact .inr ⟨clean, error, span⟩
    · rw [none] at error
      cases error

/-- Where an error is recorded, nothing is recorded later. -/
theorem eq (later : first.Extends second) (error : first.error.isSome) : second = first := by
  rcases later with same | ⟨none, -, -⟩
  · exact same
  · rw [none] at error
    cases error

theorem span (later : first.Extends second) : second.span = first.span := by
  rcases later with rfl | ⟨-, -, span⟩
  · rfl
  · exact span

end NodeInfo.Extends

/-- The second record has the same type as the first one, and is the same or has an error more. -/
def ExprInfo.Extends (first second : ExprInfo) : Prop :=
  first.toNodeInfo.Extends second.toNodeInfo ∧ second.type = first.type

/-- The second expression is the first one, where an error may have been recorded since. -/
def Expr.Extends (first second : Expr) : Prop :=
  ∃ info, first.info.Extends info ∧ second = first.withInfo info

/-- The second name is the first one, where an error may have been recorded since. -/
def Identifier.Extends (first second : Identifier) : Prop :=
  first.info.Extends second.info ∧ second.name = first.name

theorem ExprInfo.Extends.refl (info : ExprInfo) : info.Extends info := ⟨.refl _, rfl⟩

theorem ExprInfo.Extends.trans {first second third : ExprInfo} (later : first.Extends second)
    (last : second.Extends third) : first.Extends third :=
  ⟨later.1.trans last.1, last.2.trans later.2⟩

theorem Expr.Extends.refl (expr : Expr) : expr.Extends expr := ⟨expr.info, .refl _, by simp⟩

theorem Expr.Extends.type {first second : Expr} (later : first.Extends second) :
    second.type = first.type := by
  obtain ⟨info, recorded, rfl⟩ := later
  simp only [Expr.type, Expr.info_withInfo, recorded.2]

theorem Identifier.Extends.refl (name : Identifier) : name.Extends name := ⟨.refl _, rfl⟩

/-- The verdict is recorded: its type, and an error if it has one. -/
def Verdict.IsRecorded (verdict : Verdict) (info : ExprInfo) : Prop :=
  info.type = some verdict.type ∧ (verdict.error.isSome → info.error.isSome)

theorem Verdict.IsRecorded.later {verdict : Verdict} {first second : ExprInfo}
    (recorded : verdict.IsRecorded first) (later : first.Extends second) :
    verdict.IsRecorded second := by
  refine ⟨later.2.trans recorded.1, fun wrong => ?_⟩
  have known := recorded.2 wrong
  rwa [later.1.eq known]

theorem Expr.withInfo_withInfo (first second : ExprInfo) (expr : Expr) :
    (expr.withInfo first).withInfo second = expr.withInfo second := by
  cases expr <;> rfl

/-! ## Running again -/

/-- The state in which other problems have been found. -/
def CheckState.withProblems (state : CheckState) (others : List (Located CheckError)) :
    CheckState :=
  { state with problems := others }

theorem CheckState.Reported.withProblems {before after : CheckState}
    (reported : before.Reported after) (others : List (Located CheckError)) :
    after.withProblems others = before.withProblems others := by
  obtain ⟨found, rfl⟩ := reported
  rfl

namespace Check

variable {α β : Type}

/--
Whatever problems have been found before, from the one state the action comes with the value to the
other state, and it finds no problem.
-/
def Again (action : Check α) (value : α) (before after : CheckState) : Prop :=
  ∀ others, action (before.withProblems others) = (value, after.withProblems others)

/-- What the first action returns is what the second one makes of it again. -/
def Repeats (first : Check α) (again : α → Check α) : Prop :=
  ∀ state, Again (again (first state).1) (first state).1 state (first state).2

namespace Again

variable {action : Check α} {next : α → Check β} {value : α} {value' : β}
  {before between after : CheckState}

theorem pure (value : α) (state : CheckState) : Again (pure value) value state state :=
  fun _ => rfl

theorem bind (first : Again action value before between)
    (second : Again (next value) value' between after) :
    Again (action >>= next) value' before after := by
  intro others
  rw [bind_apply, first others]
  exact second others

theorem view {look : CheckState → α}
    (same : ∀ others, look (before.withProblems others) = look before) :
    Again (view look) (look before) before before := fun others => by rw [view_apply, same]

/-- What is done with the state must not depend on the problems found before. -/
theorem get {next : CheckState → Check β}
    (same : ∀ others, next (before.withProblems others) = next before)
    (second : Again (next before) value' before after) :
    Again (get >>= next) value' before after := fun others => by
  rw [bind_apply, get_apply]
  exact (congrFun (same others) _).trans (second others)

theorem modify {change : CheckState → CheckState}
    (blind : ∀ others, change (before.withProblems others) =
      (change before).withProblems others) :
    Again (modify change) () before (change before) := fun others =>
  congrArg (Prod.mk ()) (blind others)

theorem within {kind : FrameKind} {name : String}
    (inside : Again action value { before with scope := before.scope.enter kind name } after) :
    Again (within kind name action) value before { after with scope := after.scope.leave } :=
  fun others => by
    have ran := inside others
    exact congrArg (fun ran => (ran.1, { ran.2 with scope := ran.2.scope.leave })) ran

theorem returning {result : ValueType}
    (inside : Again action value { before with results := result :: before.results } after) :
    Again (returning result action) value before { after with results := after.results.tail } :=
  fun others => by
    have ran := inside others
    exact congrArg (fun ran => (ran.1, { ran.2 with results := ran.2.results.tail })) ran

/-- Problems that were found the first time make no difference to the state behind. -/
theorem to_reported (again : Again action value before between)
    (reported : between.Reported after) : Again action value before after := fun others => by
  rw [again others, reported.withProblems others]

end Again

/-! ## Reports -/

theorem report_extends (error : CheckError) (info : NodeInfo) (state : CheckState) :
    info.Extends (report error info state).1 := by
  rw [report_apply]
  split
  · exact .refl info
  · next clean => exact .inr ⟨by simpa using clean, rfl, rfl⟩

theorem error_report (error : CheckError) (info : NodeInfo) (state : CheckState) :
    (report error info state).1.error.isSome := by
  rw [report_apply]
  split
  · assumption
  · rfl

/-- Nothing is reported where an error is recorded. -/
theorem report_again (error : CheckError) {info : NodeInfo} (known : info.error.isSome)
    (state : CheckState) : report error info state = (info, state) := by
  rw [report_apply, if_pos known]

theorem report_of_extends {error : CheckError} {info final : NodeInfo} {state : CheckState}
    (later : (report error info state).1.Extends final) :
    Again (report error final) final state (report error info state).2 := by
  have known := error_report error info state
  rw [later.eq known]
  exact Again.to_reported (fun _ => report_again error known _) (Has.ran _ state)

theorem reportExpr_again (error : CheckError) {info : ExprInfo} (known : info.error.isSome)
    (state : CheckState) : reportExpr error info state = (info, state) := by
  unfold reportExpr
  rw [bind_apply, report_again error known]
  rfl

theorem reportName_again (error : CheckError) {name : Identifier} (known : name.info.error.isSome)
    (state : CheckState) : reportName error name state = (name, state) := by
  unfold reportName
  rw [bind_apply, reportExpr_again error known]
  rfl

theorem isRecorded_settle (verdict : Verdict) (info : ExprInfo) (state : CheckState) :
    verdict.IsRecorded (settle verdict info state).1 := by
  refine ⟨type_settle verdict info state, fun wrong => ?_⟩
  obtain ⟨error, found⟩ := Option.isSome_iff_exists.mp wrong
  unfold settle
  rw [found]
  exact error_report error info.toNodeInfo state

/-- A verdict that is recorded is not recorded again. -/
theorem settle_of_isRecorded {verdict : Verdict} {info : ExprInfo}
    (recorded : verdict.IsRecorded info) (state : CheckState) :
    settle verdict info state = (info, state) := by
  obtain ⟨node, type⟩ := info
  obtain ⟨rfl, wrong⟩ := recorded
  unfold settle
  cases found : verdict.error with
  | none => rfl
  | some error =>
      rw [found] at wrong
      dsimp only
      rw [bind_apply, reportExpr_again error (wrong rfl)]
      rfl

theorem settle_again {verdict : Verdict} {info final : ExprInfo} {state : CheckState}
    (later : (settle verdict info state).1.Extends final) :
    Again (settle verdict final) final state (settle verdict info state).2 := by
  have recorded := (isRecorded_settle verdict info state).later later
  exact Again.to_reported (fun others => settle_of_isRecorded recorded _) (Has.ran _ state)

theorem settleExpr_again {verdict : Verdict} {expr final : Expr} {state : CheckState}
    (later : (settleExpr verdict expr state).1.Extends final) :
    Again (settleExpr verdict final) final state (settleExpr verdict expr state).2 := by
  obtain ⟨info, recorded, rfl⟩ := later
  rw [settleExpr_apply, Expr.info_withInfo] at recorded
  intro others
  rw [settleExpr_apply, Expr.info_withInfo, settle_again recorded others]
  exact Prod.ext (Expr.withInfo_withInfo _ _ _) rfl

/--
If an expression is checked again up to its verdict, and the verdict is the same, then it is
checked again as a whole.
-/
theorem infer_again_of_settleExpr {verdict : Verdict} {expr final : Expr}
    {before between : CheckState} (later : (settleExpr verdict expr between).1.Extends final)
    (parts : ∀ info after,
      Again (settleExpr verdict (expr.withInfo info)) (expr.withInfo info) between after →
        Again (infer (expr.withInfo info)) (expr.withInfo info) before after) :
    Again (infer final) final before (settleExpr verdict expr between).2 := by
  have settled := settleExpr_again later
  obtain ⟨info, -, rfl⟩ := later
  rw [settleExpr_apply, Expr.withInfo_withInfo] at settled ⊢
  exact parts info _ settled

/-- The expression is checked again in the same way, also if an error is recorded at it later. -/
def InfersAgain (expr : Expr) : Prop :=
  ∀ state final, (infer expr state).1.Extends final →
    Again (infer final) final state (infer expr state).2

theorem InfersAgain.repeats {expr : Expr} (again : InfersAgain expr) :
    Repeats (infer expr) infer := fun state => again state _ (.refl _)

/-- Reports an expression whose type is not right. -/
def demandType (right : ValueType → Bool) (error : ValueType → CheckError) (expr : Expr) :
    Check Expr := do
  if right expr.type then return expr
  else return expr.withInfo (← reportExpr (error expr.type) expr.info)

theorem demandType_extends (right : ValueType → Bool) (error : ValueType → CheckError)
    (expr : Expr) (state : CheckState) : expr.Extends (demandType right error expr state).1 := by
  unfold demandType
  split
  · exact .refl expr
  · exact ⟨(reportExpr (error expr.type) expr.info state).1, ⟨report_extends _ _ _, rfl⟩, rfl⟩

/-- What has not the right type has an error. -/
theorem demandType_repeats (right : ValueType → Bool) (error : ValueType → CheckError)
    (expr : Expr) : Repeats (demandType right error expr) (demandType right error) := by
  intro state
  have same := (demandType_extends right error expr state).type
  have reported : Has CheckState.Reported (demandType right error expr) := by
    unfold demandType
    infer_instance
  refine Again.to_reported (fun others => ?_) (Has.ran _ state)
  by_cases fits : right expr.type = true
  · unfold demandType
    simp only [if_pos fits, pure_apply]
  · have known : (demandType right error expr state).1.info.error.isSome := by
      unfold demandType
      rw [if_neg fits]
      simp only [bind_apply, pure_apply, Expr.info_withInfo]
      exact error_report _ _ _
    generalize demandType right error expr state = ran at same known ⊢
    unfold demandType
    rw [same, if_neg fits]
    simp only [bind_apply, reportExpr_again _ known, pure_apply, Expr.withInfo_info]

theorem demand_extends (wanted : ValueType) (error : ValueType → CheckError) (expr : Expr)
    (state : CheckState) : expr.Extends (demand wanted error expr state).1 :=
  demandType_extends (fun type => type.isUnknown || type = wanted) error expr state

theorem demand_repeats (wanted : ValueType) (error : ValueType → CheckError) (expr : Expr) :
    Repeats (demand wanted error expr) (demand wanted error) :=
  demandType_repeats (fun type => type.isUnknown || type = wanted) error expr

/-- Whether a condition narrows a variable does not depend on the problems found before. -/
theorem assuming_repeats {α : Type} {first : Check α} {again : α → Check α}
    (repeats : Repeats first again) (condition : Expr) :
    Repeats (assuming condition first) fun value => assuming condition (again value) := by
  intro state others
  cases absent : state.absentVariable? condition with
  | none =>
      have still : (state.withProblems others).absentVariable? condition = none := absent
      rw [assuming_of_none first absent]
      exact (assuming_of_none _ still).trans (repeats state others)
  | some name =>
      have still : (state.withProblems others).absentVariable? condition = some name := absent
      rw [assuming_of_some first absent]
      have inside := repeats { state with scope := state.scope.assumeAbsent name } others
      refine (assuming_of_some _ still).trans ?_
      exact congrArg (fun ran => (ran.1, { ran.2 with scope := ran.2.scope.leave })) inside

/-- Checked expressions come back as they are. -/
theorem infer_again : (∀ expr, InfersAgain expr) ∧ ∀ exprs, Repeats (inferAll exprs) inferAll := by
  apply Expr.mutual_induction
  case name =>
    intro identifier state final later
    simp only [infer, bind_apply, view_apply] at later ⊢
    refine infer_again_of_settleExpr later fun info after settled => ?_
    simp only [Expr.withInfo, infer]
    exact (Again.view fun _ => rfl).bind settled
  case integer | boolean | string =>
    intro info value state final later
    simp only [infer] at later ⊢
    refine infer_again_of_settleExpr later fun info after settled => ?_
    simpa only [Expr.withInfo, infer] using settled
  case none =>
    intro info state final later
    simp only [infer] at later ⊢
    refine infer_again_of_settleExpr later fun info after settled => ?_
    simpa only [Expr.withInfo, infer] using settled
  case list =>
    intro info elements ih state final later
    simp only [infer, bind_apply, view_apply] at later ⊢
    refine infer_again_of_settleExpr later fun info after settled => ?_
    simp only [Expr.withInfo, infer]
    exact (ih state).bind ((Again.view fun _ => rfl).bind settled)
  case binary =>
    intro info left operator right ihLeft ihRight state final later
    simp only [infer, bind_apply, view_apply] at later ⊢
    refine infer_again_of_settleExpr later fun info after settled => ?_
    simp only [Expr.withInfo, infer]
    exact (ihLeft.repeats state).bind ((ihRight.repeats _).bind
      ((Again.view fun _ => rfl).bind settled))
  case unary =>
    intro info operator operand ih state final later
    simp only [infer, bind_apply] at later ⊢
    refine infer_again_of_settleExpr later fun info after settled => ?_
    simp only [Expr.withInfo, infer]
    exact (ih.repeats state).bind settled
  case conditional =>
    intro info condition thenExpr elseExpr ihCondition ihThen ihElse state final later
    simp only [infer, bind_apply, view_apply] at later ⊢
    refine infer_again_of_settleExpr later fun info after settled => ?_
    simp only [Expr.withInfo, infer]
    -- The condition may get an error for being no truth value after it was checked.
    refine (ihCondition state _ (demand_extends _ _ _ _)).bind ?_
    refine (demand_repeats _ _ _ _).bind ?_
    exact (assuming_repeats ihThen.repeats _ _).bind ((ihElse.repeats _).bind
      ((Again.view fun _ => rfl).bind settled))
  case member =>
    intro info object field ih state final later
    simp only [infer, bind_apply, view_apply] at later ⊢
    refine infer_again_of_settleExpr later fun info after settled => ?_
    simp only [Expr.withInfo, infer]
    exact (ih.repeats state).bind ((Again.view fun _ => rfl).bind settled)
  case index =>
    intro info container position ihContainer ihPosition state final later
    simp only [infer, bind_apply] at later ⊢
    refine infer_again_of_settleExpr later fun info after settled => ?_
    simp only [Expr.withInfo, infer]
    refine (ihContainer.repeats state).bind ?_
    refine (ihPosition _ _ (demand_extends _ _ _ _)).bind ?_
    exact (demand_repeats _ _ _ _).bind settled
  case call =>
    intro info function args ih state final later
    simp only [infer, bind_apply, get_apply] at later ⊢
    refine infer_again_of_settleExpr later fun info after settled => ?_
    simp only [Expr.withInfo, infer]
    refine (ih state).bind (Again.get (fun _ => rfl) ?_)
    exact (settle_again (.refl _)).bind settled
  case methodCall =>
    intro info access object method args ihObject ihArgs state final later
    simp only [infer, bind_apply, view_apply] at later ⊢
    refine infer_again_of_settleExpr later fun info after settled => ?_
    simp only [Expr.withInfo, infer]
    refine (ihObject.repeats state).bind ((ihArgs _).bind ((Again.view fun _ => rfl).bind ?_))
    exact (settle_again (.refl _)).bind settled
  case nil =>
    intro state
    simp only [inferAll]
    exact .pure [] state
  case cons =>
    intro expr rest ihExpr ihRest state
    simp only [inferAll, bind_apply, pure_apply]
    exact (ihExpr.repeats state).bind ((ihRest _).bind (.pure _ _))

theorem inferCondition_repeats (condition : Expr) :
    Repeats (inferCondition condition) inferCondition := fun state =>
  (infer_again.1 condition state _ (demand_extends _ _ _ _)).bind (demand_repeats _ _ _ _)

end Check
end ChocoLang
