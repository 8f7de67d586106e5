import ChocoLang.Proofs.Checking.Annotation.Statement
import ChocoLang.Proofs.Checking.Effects
import ChocoLang.Proofs.Checking.Headings

/-!
# Types in declarations and programs

Every value in a checked program has a type, whatever is wrong with the program, and the names that
are no values have none.  The names that are declared never get a type: they have none when they are
read, and declaring them only reports problems at them.
-/

namespace ChocoLang

/-- No name in the heading has a type. -/
inductive Heading.Untyped : Heading → Prop where
  | ofVariable {var : TypedVar} (name : var.identifier.info.type = none) : Untyped (.variable var)
  | ofFunction {heading : FunctionHeading} (untyped : heading.Untyped) : Untyped (.function heading)
  | ofClass {name superclass : Identifier} {members : List Heading}
    (own : name.info.type = none) (parent : superclass.info.type = none)
    (inside : ∀ heading ∈ members, heading.Untyped) : Untyped (.ofClass name superclass members)
  | ofOuter {info : NodeInfo} {name : Identifier} (own : name.info.type = none) :
    Untyped (.outer info name)

/-! ## Declarations that were read -/

theorem untyped_variable {info : NodeInfo} {var : TypedVar} {value : Expr}
    (fresh : (Decl.varDef info var value).outline.Fresh) : var.identifier.info.type = none := by
  simp [Decl.outline, TypedVar.outline, Identifier.fresh_outline_iff] at fresh
  exact fresh.2.1.2.1.2

theorem untyped_heading {info : NodeInfo} {heading : FunctionHeading} {declarations : List Decl}
    {statements : List Stmt} {recovered : Bool}
    (fresh : (Decl.funcDef info heading declarations statements recovered).outline.Fresh) :
    heading.Untyped := by
  simp [Decl.outline, FunctionHeading.outlines, Identifier.fresh_outline_iff,
    Outline.allIn_iff (List.map _ _), TypedVar.outline] at fresh
  exact ⟨fresh.2.1.2, fun var among => (fresh.2.2.1 var among).2.1.2⟩

theorem untyped_names {info : NodeInfo} {name superclass : Identifier} {members : List Decl}
    (fresh : (Decl.classDef info name superclass members).outline.Fresh) :
    name.info.type = none ∧ superclass.info.type = none := by
  simp [Decl.outline, Identifier.fresh_outline_iff] at fresh
  exact ⟨fresh.2.1.2, fresh.2.2.1.2⟩

theorem untyped_outer {label : Label} {name : Identifier}
    (fresh : (Outline.node label [name.outline]).Fresh) : name.info.type = none := by
  simp [Identifier.fresh_outline_iff] at fresh
  exact fresh.2.2

namespace Check

/-! ## Written types and names -/

/-- Resolving the types of variables leaves their names alone. -/
theorem resolveVar_untyped {var : TypedVar} (untyped : var.identifier.info.type = none) :
    Returns (resolveVar var) fun resolved => resolved.1.identifier.info.type = none :=
  .any fun _ => .pure untyped

theorem resolveVars_untyped {vars : List TypedVar}
    (untyped : ∀ var ∈ vars, var.identifier.info.type = none) :
    Returns (resolveVars vars) fun resolved =>
      ∀ var ∈ resolved.1, var.identifier.info.type = none := by
  induction vars with
  | nil => exact .pure (List.forall_mem_nil _)
  | cons var rest ih =>
      obtain ⟨first, others⟩ := List.forall_mem_cons.mp untyped
      refine (resolveVar_untyped first).bind fun resolved own => ?_
      exact (ih others).bind fun later after => .pure (List.forall_mem_cons.mpr ⟨own, after⟩)

theorem resolveSignature_untyped {heading : FunctionHeading} (untyped : heading.Untyped) :
    Returns (resolveSignature heading) fun resolved => resolved.1.Untyped :=
  (resolveVars_untyped untyped.2).bind fun _ params => .any fun _ => .pure ⟨untyped.1, params⟩

theorem declare_untyped {name : Identifier} (untyped : name.info.type = none) (type : ValueType)
    (kind : BindingKind) :
    Returns (declare name type kind) fun declared => declared.1.info.type = none := by
  refine .any fun state => ?_
  split
  · exact (reportName_type _ name).bind fun reported same => .pure (same.trans untyped)
  · exact .any fun _ => .pure untyped

theorem declareVar_untyped {var : TypedVar} (untyped : var.identifier.info.type = none) :
    Returns (declareVar var) fun var => var.identifier.info.type = none :=
  (resolveVar_untyped untyped).bind fun _ own =>
    (declare_untyped own _ _).bind fun _ own => .pure own

theorem declareFunction_untyped {heading : FunctionHeading} (untyped : heading.Untyped) :
    Returns (declareFunction heading) FunctionHeading.Untyped :=
  (resolveSignature_untyped untyped).bind fun _ own =>
    (declare_untyped own.1 _ _).bind fun _ name => .pure ⟨name, own.2⟩

/-! ## Classes -/

theorem declareAttribute_untyped (info : ClassInfo) {var : TypedVar}
    (untyped : var.identifier.info.type = none) :
    Returns (declareAttribute info var) fun declared => declared.2.identifier.info.type = none := by
  refine (resolveVar_untyped untyped).bind fun (var, type) own => ?_
  refine (declare_untyped own type .ownVariable).bind fun (identifier, bound) own => ?_
  refine .ite (fun _ => .pure own) fun _ => .ite (fun _ => ?_) fun _ => .pure own
  exact (reportName_type _ identifier).bind fun reported same => .pure (same.trans own)

theorem demandMethod_untyped (info : ClassInfo) (signature : Signature) {name : Identifier}
    (untyped : name.info.type = none) :
    Returns (demandMethod info signature name) fun name => name.info.type = none := by
  refine .any fun state => ?_
  split
  · exact fun state => (reportName_type _ name state).trans untyped
  · exact .pure untyped

theorem declareMethod_untyped (info : ClassInfo) {heading : FunctionHeading}
    (untyped : heading.Untyped) :
    Returns (declareMethod info heading) fun declared => declared.2.Untyped := by
  rw [declareMethod_eq]
  refine (resolveSignature_untyped untyped).bind fun (heading, signature) own => ?_
  refine (declare_untyped own.1 signature.type .function).bind fun (name, bound) named => ?_
  refine .ite (fun _ => .pure ⟨named, own.2⟩) fun _ => ?_
  exact (demandMethod_untyped info signature named).bind fun name named => .pure ⟨named, own.2⟩

theorem declareMember_untyped (info : ClassInfo) {decl : Decl}
    (raw : decl.Raw True .ofClass) :
    Returns (declareMember info decl) fun declared => declared.2.Untyped := by
  cases decl with
  | varDef =>
      exact (declareAttribute_untyped info (untyped_variable raw.fresh)).bind fun _ own =>
        .pure (.ofVariable own)
  | funcDef =>
      exact (declareMethod_untyped info (untyped_heading raw.fresh)).bind fun _ own =>
        .pure (.ofFunction own)
  | classDef => exact absurd raw.wellFormed.1 (by decide)
  | globalDecl | nonlocalDecl => cases raw.wellFormed

theorem declareMembers_untyped (info : ClassInfo) {decls : List Decl}
    (raw : ∀ decl ∈ decls, decl.Raw True .ofClass) :
    Returns (declareMembers info decls) fun declared =>
      ∀ heading ∈ declared.2, heading.Untyped := by
  induction decls generalizing info with
  | nil => exact .pure (List.forall_mem_nil _)
  | cons decl rest ih =>
      obtain ⟨first, others⟩ := List.forall_mem_cons.mp raw
      rw [declareMembers_cons]
      refine (declareMember_untyped info first).bind fun (info, heading) own => ?_
      exact (ih info others).bind fun _ after => .pure (List.forall_mem_cons.mpr ⟨own, after⟩)

theorem resolveSuperclass_untyped {name : Identifier} (untyped : name.info.type = none) :
    Returns (resolveSuperclass name) fun resolved => resolved.1.info.type = none := by
  refine .any fun state => ?_
  split
  · exact .pure untyped
  · exact (reportName_type _ name).bind fun reported same => .pure (same.trans untyped)

theorem within_returns {α : Type} {inner : Check α} {good : α → Prop} (kind : FrameKind)
    (name : String) (returns : Returns inner good) : Returns (within kind name inner) good :=
  fun state => returns { state with scope := state.scope.enter kind name }

theorem declareClass_untyped {name superclass : Identifier} (own : name.info.type = none)
    (parent : superclass.info.type = none) {members : List Decl}
    (raw : ∀ decl ∈ members, decl.Raw True .ofClass) :
    Returns (declareClass name superclass members) Heading.Untyped := by
  refine (resolveSuperclass_untyped parent).bind fun (superclass, above) parent => ?_
  refine (declare_untyped own _ .classDef).bind fun (name, bound) own => ?_
  refine (within_returns _ _ (declareMembers_untyped _ raw)).bind fun (info, members) inside => ?_
  exact .ite (fun _ => .any fun _ => .pure (.ofClass own parent inside))
    fun _ => .pure (.ofClass own parent inside)

theorem declareGlobal_untyped {decl : Decl} (raw : decl.Raw True .program) :
    Returns (declareGlobal decl) Heading.Untyped := by
  cases decl with
  | varDef =>
      exact (declareVar_untyped (untyped_variable raw.fresh)).bind fun _ own =>
        .pure (.ofVariable own)
  | funcDef =>
      exact (declareFunction_untyped (untyped_heading raw.fresh)).bind fun _ own =>
        .pure (.ofFunction own)
  | classDef =>
      exact declareClass_untyped (untyped_names raw.fresh).1 (untyped_names raw.fresh).2 raw.members
  | globalDecl | nonlocalDecl => cases raw.wellFormed

theorem declareGlobals_untyped {decls : List Decl} (raw : ∀ decl ∈ decls, decl.Raw True .program) :
    Returns (declareGlobals decls) fun headings => ∀ heading ∈ headings, heading.Untyped := by
  induction decls with
  | nil => exact .pure (List.forall_mem_nil _)
  | cons decl rest ih =>
      obtain ⟨first, others⟩ := List.forall_mem_cons.mp raw
      refine (declareGlobal_untyped first).bind fun heading own => ?_
      exact (ih others).bind fun _ after => .pure (List.forall_mem_cons.mpr ⟨own, after⟩)

/-! ## Functions -/

theorem declareOuter_untyped (found : Option Binding) (allowed : List BindingKind)
    (kind : BindingKind) (error : CheckError) (info : NodeInfo) {name : Identifier}
    (untyped : name.info.type = none) :
    Returns (declareOuter found allowed kind error info name) Heading.Untyped := by
  unfold declareOuter
  split
  · exact .any fun _ => .pure (.ofOuter untyped)
  · exact (declare_untyped untyped _ kind).bind fun _ own => .pure (.ofOuter own)

theorem declareLocal_untyped {decl : Decl} (raw : decl.Raw True .ofFunction) :
    Returns (declareLocal decl) Heading.Untyped := by
  have fresh := raw.fresh
  cases decl with
  | varDef =>
      exact (declareVar_untyped (untyped_variable fresh)).bind fun _ own => .pure (.ofVariable own)
  | funcDef =>
      exact (declareFunction_untyped (untyped_heading fresh)).bind fun _ own =>
        .pure (.ofFunction own)
  | classDef => exact absurd raw.wellFormed.1 (by decide)
  | globalDecl | nonlocalDecl =>
      exact .any fun found => declareOuter_untyped found _ _ _ _ (untyped_outer fresh)

theorem declareLocals_untyped {decls : List Decl} (raw : ∀ decl ∈ decls, decl.Raw True .ofFunction) :
    Returns (declareLocals decls) fun headings => ∀ heading ∈ headings, heading.Untyped := by
  induction decls with
  | nil => exact .pure (List.forall_mem_nil _)
  | cons decl rest ih =>
      obtain ⟨first, others⟩ := List.forall_mem_cons.mp raw
      refine (declareLocal_untyped first).bind fun heading own => ?_
      exact (ih others).bind fun _ after => .pure (List.forall_mem_cons.mpr ⟨own, after⟩)

theorem declareParams_untyped {vars : List TypedVar}
    (untyped : ∀ var ∈ vars, var.identifier.info.type = none) (types : List ValueType) :
    Returns (declareParams vars types) fun vars =>
      ∀ var ∈ vars, var.identifier.info.type = none := by
  induction vars generalizing types with
  | nil =>
      unfold declareParams
      exact .pure untyped
  | cons var rest ih =>
      obtain ⟨first, others⟩ := List.forall_mem_cons.mp untyped
      cases types with
      | nil =>
          unfold declareParams
          exact .pure untyped
      | cons type types =>
          unfold declareParams
          refine (declare_untyped first type .parameter).bind fun declared own => ?_
          exact (ih others types).bind fun _ after =>
            .pure (List.forall_mem_cons.mpr ⟨own, after⟩)

theorem demandReturn_untyped (result : ValueType) (statements : List Stmt) (recovered : Bool)
    {name : Identifier} (untyped : name.info.type = none) :
    Returns (demandReturn result statements recovered name) fun name => name.info.type = none :=
  .any fun _ => .ite (fun _ state => (reportName_type _ name state).trans untyped)
    fun _ => .pure untyped

theorem checkVarDef_annotated (info : NodeInfo) {var : TypedVar}
    (untyped : var.identifier.info.type = none) {value : Expr} (fresh : value.outline.Fresh) :
    Returns (checkVarDef info var value) Decl.Annotated := by
  refine (resolveVar_untyped untyped).bind fun (var, declared) own => ?_
  refine (infer_annotated.1 value fresh).bind fun value annotated => .any fun info => ?_
  exact .pure (Decl.annotated_varDef.mpr ⟨own, annotated⟩)

/-! ## Bodies -/

theorem returning_returns {α : Type} {inner : Check α} {good : α → Prop} (result : ValueType)
    (returns : Returns inner good) : Returns (returning result inner) good :=
  fun state => returns { state with results := result :: state.results }

theorem checkBody_annotated {heading : FunctionHeading} (untyped : heading.Untyped)
    (signature : Signature) {declarations : List Decl}
    (rawDecls : ∀ decl ∈ declarations, decl.Raw True .ofFunction) {statements : List Stmt}
    (rawBody : ∀ stmt ∈ statements, stmt.Raw)
    (inner : ∀ headings, HeadedAll declarations headings →
      (∀ heading ∈ headings, heading.Untyped) →
        Returns (checkDecls declarations headings) fun decls => ∀ decl ∈ decls, decl.Annotated) :
    Returns (checkBody heading signature declarations statements) fun body =>
      (∀ var ∈ body.1, var.identifier.info.type = none) ∧
        (∀ decl ∈ body.2.1, decl.Annotated) ∧ ∀ stmt ∈ body.2.2, stmt.Annotated := by
  refine within_returns _ _ ((declareParams_untyped untyped.2 _).bind fun params own => ?_)
  have headings : Returns (declareLocals declarations) fun headings =>
      HeadedAll declarations headings ∧ ∀ heading ∈ headings, heading.Untyped := fun state =>
    ⟨declareLocals_headed (fun decl among => (rawDecls decl among).wellFormed) state,
      declareLocals_untyped rawDecls state⟩
  refine headings.bind fun headings ⟨headed, untyped⟩ => returning_returns _ ?_
  refine (inner headings headed untyped).bind fun declarations inside => ?_
  exact (checkStmt_annotated.2 statements rawBody).bind fun statements after =>
    .pure ⟨own, inside, after⟩

/-- Checking bodies records a type at every value in them. -/
theorem checkDecl_annotated :
    (∀ (decl : Decl) (heading : Heading), (∃ place, decl.Raw True place) → decl.Headed heading →
      heading.Untyped → Returns (checkDecl decl heading) Decl.Annotated) ∧
    ∀ (decls : List Decl) (headings : List Heading),
      (∀ decl ∈ decls, ∃ place, decl.Raw True place) → HeadedAll decls headings →
        (∀ heading ∈ headings, heading.Untyped) →
          Returns (checkDecls decls headings) fun decls => ∀ decl ∈ decls, decl.Annotated := by
  apply headed_induction
  case varDef =>
    intro place info var value looked raw untyped
    cases untyped with | ofVariable own =>
    have fresh := raw.fresh
    simp [Decl.outline] at fresh
    unfold checkDecl
    exact checkVarDef_annotated info own fresh.2.2
  case funcDef =>
    intro place info heading declarations statements recovered looked ih raw _ untyped
    cases untyped with | ofFunction own =>
    rw [checkDecl_function]
    refine (resolveSignature_untyped own).bind ?_
    rintro ⟨heading, signature⟩ own
    refine (checkBody_annotated own signature raw.locals raw.body ih).bind ?_
    rintro ⟨params, declarations, statements⟩ ⟨named, inside, after⟩
    refine (demandReturn_untyped signature.result statements recovered own.1).bind
      fun name called => ?_
    exact .pure (Decl.annotated_funcDef.mpr ⟨⟨called, named⟩, inside, after⟩)
  case classDef =>
    intro place info name superclass members called parent headings ih raw untyped
    cases untyped with | ofClass own above inside =>
    unfold checkDecl
    exact (ih inside).bind fun members after =>
      .pure (Decl.annotated_classDef.mpr ⟨own, above, after⟩)
  case globalDecl =>
    intro info name node looked untyped
    cases untyped with | ofOuter own =>
    unfold checkDecl
    exact .pure (Decl.annotated_globalDecl.mpr own)
  case nonlocalDecl =>
    intro info name node looked untyped
    cases untyped with | ofOuter own =>
    unfold checkDecl
    exact .pure (Decl.annotated_nonlocalDecl.mpr own)
  case nil =>
    intro _
    unfold checkDecls
    exact .pure (List.forall_mem_nil _)
  case cons =>
    intro decl decls heading headings ihDecl ihDecls untyped
    obtain ⟨first, others⟩ := List.forall_mem_cons.mp untyped
    unfold checkDecls
    refine (ihDecl first).bind fun decl annotated => (ihDecls others).bind fun decls after => ?_
    exact .pure (List.forall_mem_cons.mpr ⟨annotated, after⟩)

end Check

/-! ## Programs -/

namespace Program

/-- The outline of a checked program is annotated. -/
theorem annotated_check {file source : String} {program : Program}
    (read : Program.ofSource file source = .ok program) :
    program.check.outline.Annotated False := by
  have raw := raw_of_ofSource read
  have untyped := Check.declareGlobals_untyped raw.topLevel program.announced
  rw [annotated_outline, check_eq]
  exact ⟨Check.checkDecl_annotated.2 _ _ (fun decl among => ⟨_, raw.topLevel decl among⟩)
      raw.headed untyped program.declared.2,
    Check.checkStmt_annotated.2 _ raw.statements program.checkedDeclarations.2⟩

/--
In a checked program an expression below any node has a type if and only if it is not one of the
names there that are no values.  The topmost node, which is below none, is no expression.
-/
theorem typed_iff_check {file source : String} {program : Program}
    (read : Program.ofSource file source = .ok program) :
    ∀ parent ∈ Outline.walk [program.check.outline], ∀ index node,
      parent.children[index]? = some node → node.label.kind.isExpression →
        (node.label.type.isSome ↔ index ∉ parent.label.kind.names) := by
  intro parent among index node found
  rw [Outline.walk_eq_preorderAll] at among
  simp only [Outline.preorderAll, List.append_nil] at among
  exact (annotated_check read).child _ parent among found

/-- A program with eleven mistakes, in which hardly any value is what it should be. -/
def muddledSource : String :=
  "class A(object):\n    x: int = 0\n    def m(self: \"A\") -> int:\n        return self.y\n" ++
    "a: A = None\na.m(b)[c] = A().n(1)\nfor d in e:\n    f().x = 1 if g else h\n"

/-- In the muddled program, too, the expressions that have a type are the values. -/
theorem typed_iff_check_muddledSource :
    ∃ program, Program.ofSource "muddled.choc" muddledSource = .ok program ∧
      program.check.errors.length = 11 ∧
        ∀ parent ∈ Outline.walk [program.check.outline], ∀ index node,
          parent.children[index]? = some node → node.label.kind.isExpression →
            (node.label.type.isSome ↔ index ∉ parent.label.kind.names) := by
  obtain ⟨program, read, eleven⟩ : ∃ program, Program.ofSource "muddled.choc" muddledSource =
      .ok program ∧ (program.check.errors.length == 11) = true :=
    exists_ok_of_any (by decide +kernel)
  exact ⟨program, read, beq_iff_eq.mp eleven, typed_iff_check read⟩

end Program

end ChocoLang
