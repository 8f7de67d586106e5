import ChocoLang.Proofs.Checking.Annotation.Program
import ChocoLang.Proofs.Checking.Annotation.Statement
import ChocoLang.Proofs.Checking.Clarity.Expression
import ChocoLang.Proofs.Checking.Reports.Program

/-!
# Recorded types in statements and programs are told by their records

A statement records types at its expressions only: at values, and at targets.  The names that are
declared have no type, and written types have none either, so the types in a declaration are those
in its values and in its body.  The classes of a program have names that can be written, which that
of the unknown type cannot.
-/

namespace ChocoLang
namespace Check

variable {classes : List String}

/-! ## What does not depend on types -/

theorem demandIterable_clear {iterable : Expr} (among : iterable.type.Among classes)
    (clear : iterable.outline.Clear) :
    Maintains (CheckState.Among classes) (demandIterable iterable)
      fun demanded => demanded.outline.Clear := by
  have returns : Returns (demandIterable iterable) fun demanded => demanded.outline.Clear :=
    .ite (fun _ => (reportExpr_type _ iterable.info).bind fun _ same =>
      .pure (Expr.clear_withInfo clear (same ▸ Expr.clear_info clear))) fun _ => .pure clear
  exact (Maintains.andReturns (demandIterable_maintains among) returns).mono fun _ => And.right

theorem clear_ret {info : NodeInfo} {value : Option Expr}
    (clear : ∀ result ∈ value, result.outline.Clear) : (Stmt.ret info value).outline.Clear := by
  cases value with
  | none => simp [Stmt.outline]
  | some value => simpa [Stmt.outline] using clear

/-- The value of a checked end of a function is its value, checked. -/
theorem checkReturn_value (info : NodeInfo) (value : Option Expr) (state : CheckState) :
    ∃ node, (checkReturn info value state).1 = .ret node (inferOptional value state).1 := by
  unfold checkReturn
  rw [bind_apply, get_apply]
  dsimp only
  cases state.results with
  | nil => exact ⟨_, rfl⟩
  | cons expected outer =>
      dsimp only
      unfold checkResult
      rw [bind_apply]
      generalize inferOptional value state = checked
      obtain ⟨value, after⟩ := checked
      cases value with
      | none =>
          dsimp only
          rw [bind_apply]
          cases (fits .none expected after).1 <;> exact ⟨_, rfl⟩
      | some value => exact ⟨_, rfl⟩

section

variable (named : ∀ name ∈ classes, name ≠ ValueType.unknown.display)
include named

/-! ## Targets -/

theorem inferCondition_clear {condition : Expr} (clear : condition.outline.Clear) :
    Maintains (CheckState.Among classes) (inferCondition condition)
      fun checked => checked.outline.Clear :=
  (infer_told named clear).bind fun _ ⟨among, told⟩ =>
    (Maintains.andReturns (demandCondition_maintains among) (demand_clear _ _ told)).mono
      fun _ => And.right

theorem assignName_clear (name : Identifier) :
    Maintains (CheckState.Among classes) (assignName name)
      fun assigned => ∀ type ∈ assigned.1.info.type, type.Clear := by
  unfold assignName
  refine Maintains.view.bind ?_
  rintro _ ⟨state, kept, rfl⟩
  split
  · have silent : (CheckError.notAssignable name.name).Definite classes := .silent rfl rfl
    have wrong : ∀ error ∈ (Verdict.wrong (.notAssignable name.name)).error,
        error.Definite classes := by simpa [Verdict.wrong] using silent
    exact (settle_clear wrong trivial name.info).bind fun _ told => .pure told
  · next binding found =>
      obtain ⟨bound, assignable⟩ := Option.filter_eq_some_iff.mp found
      have noClass : binding.kind ≠ .classDef := fun kind => by
        simp [kind, BindingKind.isAssignable] at assignable
      have clear := (Scope.All.lookupLocal kept.scope bound).clear named noClass
      refine Maintains.bind (.modifyScope fun state kept => ?_) fun _ _ =>
        (settle_clear (by simp) clear name.info).bind fun _ told => .pure told
      exact ⟨kept.typeNames, kept.scope.forget _, kept.hierarchy, kept.results, kept.problems⟩

theorem assignElement_clear (info : ExprInfo) {container position : Expr}
    (clear : container.outline.Clear) (clear' : position.outline.Clear) :
    Maintains (CheckState.Among classes) (assignElement info container position)
      fun assigned => assigned.1.outline.Clear := by
  unfold assignElement
  refine (infer_told named clear).bind fun container ⟨among, first⟩ =>
    (infer_told named clear').bind fun position ⟨among', second⟩ =>
    (Maintains.andReturns (demandPosition_maintains among') (demand_clear _ _ second)).bind
    fun position ⟨_, second⟩ => .of_state fun state kept => ?_
  have verdict := assignedElementVerdict_among state.hierarchy kept.hierarchy among
  refine (settle_clear verdict.error (verdict.type.clear named) info).bind fun info told => ?_
  have whole : (Expr.index info container position).outline.Clear := by
    simpa [Expr.outline] using ⟨told, first, second⟩
  exact .ite (fun _ => .pure whole) fun _ => .pure whole

theorem assignTarget_clear {target : Expr} (clear : target.outline.Clear) :
    Maintains (CheckState.Among classes) (assignTarget target)
      fun assigned => assigned.1.outline.Clear := by
  unfold assignTarget
  split
  · exact (assignName_clear named _).bind fun _ told =>
      .pure ((Identifier.clear_outline_iff _).mpr told)
  · simp [Expr.outline] at clear
    exact assignElement_clear named _ clear.2.1 clear.2.2
  · exact ((infer_clear named).1 _ clear).bind fun _ told => .pure told

theorem assignAll_clear {value : ValueType} (among : value.Among classes) (info : NodeInfo)
    {targets : List Expr} (clear : ∀ target ∈ targets, target.outline.Clear) :
    Maintains (CheckState.Among classes) (assignAll value info targets)
      fun assigned => ∀ target ∈ assigned.1, target.outline.Clear := by
  induction targets generalizing info with
  | nil => exact .pure (List.forall_mem_nil _)
  | cons target rest ih =>
      obtain ⟨here, there⟩ := List.forall_mem_cons.mp clear
      rw [assignAll_cons]
      exact (Maintains.and (assignTarget_maintains target) (assignTarget_clear named here)).bind
        fun assigned ⟨takes, told⟩ => (demandFits_maintains among takes info).bind
        fun info _ => (ih info there).bind fun later more =>
          .pure (List.forall_mem_cons.mpr ⟨told, more⟩)

theorem checkAssignment_clear (info : NodeInfo) {targets : List Expr} {value : Expr}
    (clear : ∀ target ∈ targets, target.outline.Clear) (clear' : value.outline.Clear) :
    Maintains (CheckState.Among classes) (checkAssignment info targets value)
      fun stmt => stmt.outline.Clear := by
  rw [checkAssignment_eq]
  exact (infer_told named clear').bind fun value ⟨among, told⟩ =>
    (demandSingle_maintains targets value.type info).bind fun info _ =>
      (assignAll_clear named among info clear).bind fun assigned each =>
        .pure (by simpa [Stmt.outline] using ⟨each, told⟩)

/-! ## Loops and returns -/

theorem takeElement_clear {iteration : Iteration}
    (among : ∀ type ∈ iteration.type?, type.Among classes) (element : Identifier)
    {iterable : Expr} (clear : iterable.outline.Clear) :
    Maintains (CheckState.Among classes) (takeElement iteration element iterable)
      fun head => head.1.outline.Clear ∧ head.2.outline.Clear := by
  unfold takeElement
  refine (Maintains.and (assignName_maintains element) (assignName_clear named element)).bind
    fun assigned facts => ?_
  obtain ⟨takes, told⟩ := facts
  obtain ⟨element, type⟩ := assigned
  dsimp only at takes told ⊢
  split
  · next expected actual runs =>
      exact (demandFit_maintains (takes expected rfl) (among actual runs) _).bind fun info _ =>
        .pure ⟨(Identifier.clear_outline_iff _).mpr told, clear⟩
  · exact .pure ⟨(Identifier.clear_outline_iff _).mpr told, clear⟩

theorem checkLoopHead_clear (element : Identifier) {iterable : Expr}
    (clear : iterable.outline.Clear) :
    Maintains (CheckState.Among classes) (checkLoopHead element iterable)
      fun head => head.1.outline.Clear ∧ head.2.outline.Clear := by
  rw [checkLoopHead_eq]
  exact (infer_told named clear).bind fun iterable ⟨among, told⟩ =>
    (demandIterable_clear among told).bind fun checked told => .of_state fun state kept =>
      takeElement_clear named (among_iteration kept.hierarchy among) element told

theorem inferOptional_clear {value : Option Expr}
    (clear : ∀ result ∈ value, result.outline.Clear) :
    Maintains (CheckState.Among classes) (inferOptional value)
      fun checked => ∀ result ∈ checked, result.outline.Clear := by
  unfold inferOptional
  split
  · exact .pure (by simp)
  · next value =>
      exact ((infer_clear named).1 value (clear value rfl)).bind fun _ told =>
        .pure (by simpa using told)

theorem checkReturn_clear (info : NodeInfo) {value : Option Expr}
    (clear : ∀ result ∈ value, result.outline.Clear) :
    Maintains (CheckState.Among classes) (checkReturn info value)
      fun stmt => stmt.outline.Clear := by
  intro state kept
  obtain ⟨node, shape⟩ := checkReturn_value info value state
  have told := (inferOptional_clear named clear state kept).1
  exact ⟨shape ▸ clear_ret told, (checkReturn_maintains info value state kept).2⟩

/-! ## Statements -/

/-- Checking statements records types that are told by their records. -/
theorem checkStmt_clear :
    (∀ stmt : Stmt, stmt.outline.Clear →
      Maintains (CheckState.Among classes) (checkStmt stmt) fun checked => checked.outline.Clear) ∧
    ∀ stmts : List Stmt, (∀ stmt ∈ stmts, stmt.outline.Clear) →
      Maintains (CheckState.Among classes) (checkStmts stmts)
        fun checked => ∀ stmt ∈ checked, stmt.outline.Clear := by
  apply Stmt.mutual_induction
  case expr =>
    intro info value clear
    simp [Stmt.outline] at clear
    unfold checkStmt
    exact ((infer_clear named).1 value clear).bind fun _ told =>
      .pure (by simpa [Stmt.outline] using told)
  case assign =>
    intro info targets value clear
    simp [Stmt.outline] at clear
    unfold checkStmt
    exact checkAssignment_clear named info clear.1 clear.2
  case ifElse =>
    intro info condition thenBody elseBody first second clear
    simp [Stmt.outline] at clear
    unfold checkStmt
    exact (inferCondition_clear named clear.1).bind fun condition asked =>
      (assuming_maintains condition (first clear.2.1)).bind fun _ told =>
        (second clear.2.2).bind fun _ others =>
          .pure (by simpa [Stmt.outline] using ⟨asked, told, others⟩)
  case whileLoop =>
    intro info condition body inner clear
    simp [Stmt.outline] at clear
    unfold checkStmt
    exact (inferCondition_clear named clear.1).bind fun _ asked =>
      (inner clear.2).bind fun _ told => .pure (by simpa [Stmt.outline] using ⟨asked, told⟩)
  case forLoop =>
    intro info element iterable body inner clear
    simp [Stmt.outline] at clear
    unfold checkStmt
    exact (checkLoopHead_clear named element clear.2.1).bind fun _ head =>
      (inner clear.2.2).bind fun _ told =>
        .pure (by simpa [Stmt.outline] using ⟨head.1, head.2, told⟩)
  case ret =>
    intro info value clear
    unfold checkStmt
    refine checkReturn_clear named info fun result among => ?_
    obtain rfl := Option.mem_def.mp among
    simpa [Stmt.outline] using clear
  case nil =>
    intro _
    unfold checkStmts
    exact .pure (List.forall_mem_nil _)
  case cons =>
    intro stmt rest first others clear
    obtain ⟨here, there⟩ := List.forall_mem_cons.mp clear
    unfold checkStmts
    exact (first here).bind fun _ told => (others there).bind fun _ more =>
      .pure (List.forall_mem_cons.mpr ⟨told, more⟩)

end

end Check

/-! ## Programs -/

theorem WrittenType.clear_outline (written : WrittenType) : written.outline.Clear := by
  induction written with
  | named info name => simp [outline]
  | list info element ih => simpa [outline] using ih

theorem Identifier.clear_of_untyped {name : Identifier} (untyped : name.info.type = none) :
    name.outline.Clear := by
  simp [clear_outline_iff, untyped]

theorem TypedVar.clear_of_untyped {var : TypedVar} (untyped : var.identifier.info.type = none) :
    var.outline.Clear := by
  simpa [outline] using ⟨Identifier.clear_of_untyped untyped, var.written.clear_outline⟩

namespace Check

variable {classes : List String}

section

variable (named : ∀ name ∈ classes, name ≠ ValueType.unknown.display)
include named

theorem checkVarDef_clear (info : NodeInfo) {var : TypedVar}
    (untyped : var.identifier.info.type = none) {value : Expr} (clear : value.outline.Clear) :
    Maintains (CheckState.Among classes) (checkVarDef info var value)
      fun decl => decl.outline.Clear :=
  (Maintains.andReturns (resolveVar_maintains var) (resolveVar_untyped untyped)).bind
    fun _ ⟨among, own⟩ => (infer_told named clear).bind fun _ ⟨among', told⟩ =>
      (demandFit_maintains among among' info).bind fun _ _ =>
        .pure (by simpa [Decl.outline] using ⟨TypedVar.clear_of_untyped own, told⟩)

theorem checkBody_clear {heading : FunctionHeading} (untyped : heading.Untyped)
    {signature : Signature} (among : signature.Among classes) {declarations : List Decl}
    (raw : ∀ decl ∈ declarations, decl.Raw True .ofFunction) {statements : List Stmt}
    (clear : ∀ stmt ∈ statements, stmt.outline.Clear)
    (inner : ∀ headings, HeadedAll declarations headings →
      (∀ heading ∈ headings, heading.Untyped) →
        Maintains (CheckState.Among classes) (checkDecls declarations headings)
          fun decls => ∀ decl ∈ decls, decl.outline.Clear) :
    Maintains (CheckState.Among classes) (checkBody heading signature declarations statements)
      fun body => (∀ var ∈ body.1, var.outline.Clear) ∧
        (∀ decl ∈ body.2.1, decl.outline.Clear) ∧ ∀ stmt ∈ body.2.2, stmt.outline.Clear := by
  have headings : Returns (declareLocals declarations) fun headings =>
      HeadedAll declarations headings ∧ ∀ heading ∈ headings, heading.Untyped := fun state =>
    ⟨declareLocals_headed (fun decl among => (raw decl among).wellFormed) state,
      declareLocals_untyped raw state⟩
  refine within_maintains ((Maintains.andReturns (declareParams_maintains _ among.params)
    (declareParams_untyped untyped.2 _)).bind fun params ⟨_, own⟩ =>
    (Maintains.andReturns (declareLocals_maintains declarations) headings).bind
    fun headings ⟨_, headed, untyped⟩ => returning_maintains among.result
      ((inner headings headed untyped).bind fun declarations inside =>
        ((checkStmt_clear named).2 statements clear).bind fun statements after => .pure ?_)) _ _
  exact ⟨fun var among => TypedVar.clear_of_untyped (own var among), inside, after⟩

/-- Checking bodies records types that are told by their records. -/
theorem checkDecl_clear :
    (∀ (decl : Decl) (heading : Heading), (∃ place, decl.Raw True place) → decl.Headed heading →
      heading.Untyped → Maintains (CheckState.Among classes) (checkDecl decl heading)
        fun decl => decl.outline.Clear) ∧
    ∀ (decls : List Decl) (headings : List Heading),
      (∀ decl ∈ decls, ∃ place, decl.Raw True place) → HeadedAll decls headings →
        (∀ heading ∈ headings, heading.Untyped) →
          Maintains (CheckState.Among classes) (checkDecls decls headings)
            fun decls => ∀ decl ∈ decls, decl.outline.Clear := by
  apply headed_induction
  case varDef =>
    intro place info var value looked raw untyped
    cases untyped with | ofVariable own =>
    have fresh := raw.fresh
    simp [Decl.outline] at fresh
    unfold checkDecl
    exact checkVarDef_clear named info own (Outline.Fresh.clear fresh.2.2)
  case funcDef =>
    intro place info heading declarations statements recovered looked ih raw _ untyped
    cases untyped with | ofFunction own =>
    have body : ∀ stmt ∈ statements, stmt.outline.Clear := fun stmt among =>
      Outline.Fresh.clear (raw.body stmt among).2
    rw [checkDecl_function]
    refine (Maintains.andReturns (resolveSignature_maintains looked)
      (resolveSignature_untyped own)).bind ?_
    rintro ⟨heading, signature⟩ ⟨among, own⟩
    refine (checkBody_clear named own among raw.locals body ih).bind ?_
    rintro ⟨params, declarations, statements⟩ ⟨vars, inside, after⟩
    refine (Maintains.andReturns (demandReturn_maintains signature.result statements recovered _)
      (demandReturn_untyped signature.result statements recovered own.1)).bind ?_
    rintro name ⟨-, called⟩
    refine .pure ?_
    have parts : ∀ param ∈ params, param.outline.Clear := vars
    simpa [Decl.outline, FunctionHeading.outlines, Outline.allIn_iff (List.map _ _)] using
      ⟨Identifier.clear_of_untyped called, parts, heading.returns.clear_outline, inside, after⟩
  case classDef =>
    intro place info name superclass members called parent headings ih raw untyped
    cases untyped with | ofClass own above inside =>
    unfold checkDecl
    exact (ih inside).bind fun members after => .pure (by simpa [Decl.outline] using
      ⟨Identifier.clear_of_untyped own, Identifier.clear_of_untyped above, after⟩)
  case globalDecl | nonlocalDecl =>
    intro info name node looked untyped
    cases untyped with | ofOuter own =>
    unfold checkDecl
    exact .pure (by simpa [Decl.outline] using Identifier.clear_of_untyped own)
  case nil =>
    intro _
    unfold checkDecls
    exact .pure (List.forall_mem_nil _)
  case cons =>
    intro decl decls heading headings ihDecl ihDecls untyped
    obtain ⟨first, others⟩ := List.forall_mem_cons.mp untyped
    unfold checkDecls
    exact (ihDecl first).bind fun decl told => (ihDecls others).bind fun decls after =>
      .pure (List.forall_mem_cons.mpr ⟨told, after⟩)

end

end Check

namespace Program

/-- What the classes of a program that was read are called can be told from the unknown type. -/
theorem ne_unknown_of_mem_classNames {program : Program}
    (named : ∀ decl ∈ program.declarations, decl.ClassNamed) :
    ∀ name ∈ program.classNames, name ≠ ValueType.unknown.display := by
  rintro _ among rfl
  have name := isName_of_mem_classNames named _ among
  exact absurd name (by decide +kernel)

/-- The types recorded in a checked program are told by their records. -/
theorem clear_check {file source : String} {program : Program}
    (read : ofSource file source = .ok program) : program.check.outline.Clear := by
  have raw := raw_of_ofSource read
  have named := ne_unknown_of_mem_classNames fun decl among => (raw.declarations decl among).named
  have untyped := Check.declareGlobals_untyped raw.topLevel program.announced
  have declared : program.declared.2.Among program.classNames :=
    (Check.declareGlobals_maintains definesAmong_classNames _ program.announced_among).2
  obtain ⟨declarations, after⟩ := (Check.checkDecl_clear named).2 program.declarations
    program.declared.1 (fun decl among => ⟨_, raw.topLevel decl among⟩) raw.headed untyped _ declared
  have statements := ((Check.checkStmt_clear named).2 program.statements
    (fun stmt among => Outline.Fresh.clear (raw.statements stmt among).2) _ after).1
  rw [check_eq]
  simpa [outline] using ⟨declarations, statements⟩

end Program

end ChocoLang
