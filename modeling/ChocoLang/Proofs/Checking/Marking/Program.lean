import ChocoLang.Proofs.Checking.Headings
import ChocoLang.Proofs.Checking.Marking.Statement

/-!
# Problems and marks in declarations and programs

The nodes of a declaration fall into those of its heading and the rest.  The first look at a
declaration records problems at nodes of the heading, and checking the body records problems at all
of them; in between the heading is the part of the tree that bears the marks.

So the diagnostics that checking adds to those of reading and the errors recorded in the checked
tree are the same: each diagnostic is recorded at one node, and each node with an error has one
diagnostic, of the same message and about the same text.
-/

namespace ChocoLang

section Tallies

variable (mark : Mark)

mutual

/-- How many nodes of the heading bear the mark. -/
def Heading.tally : Heading → Nat
  | .variable var => var.outline.tally mark
  | .function heading => Outline.tallyAll mark heading.outlines
  | .ofClass name superclass members =>
    name.outline.tally mark + superclass.outline.tally mark + Heading.tallyAll members
  | .outer info name => info.tally mark + name.outline.tally mark

/-- How many nodes of the headings bear the mark. -/
def Heading.tallyAll : List Heading → Nat
  | [] => 0
  | heading :: rest => heading.tally + Heading.tallyAll rest

end

mutual

/-- How many nodes of the declaration that belong to its heading bear the mark. -/
def Decl.headTally : Decl → Nat
  | .varDef _ var _ => var.outline.tally mark
  | .funcDef _ heading _ _ _ => Outline.tallyAll mark heading.outlines
  | .classDef _ name superclass members =>
    name.outline.tally mark + superclass.outline.tally mark + Decl.headTallyAll members
  | .globalDecl info name | .nonlocalDecl info name => info.tally mark + name.outline.tally mark

/-- How many nodes of the declarations that belong to their headings bear the mark. -/
def Decl.headTallyAll : List Decl → Nat
  | [] => 0
  | decl :: rest => decl.headTally + Decl.headTallyAll rest

end

mutual

/-- How many nodes of the declaration outside its heading bear the mark. -/
def Decl.restTally : Decl → Nat
  | .varDef info _ value => info.tally mark + value.outline.tally mark
  | .funcDef info _ declarations statements _ =>
    info.tally mark + Outline.tallyAll mark (Decl.outlines declarations) +
      Outline.tallyAll mark (Stmt.outlines statements)
  | .classDef info _ _ members => info.tally mark + Decl.restTallyAll members
  | .globalDecl _ _ | .nonlocalDecl _ _ => 0

/-- How many nodes of the declarations outside their headings bear the mark. -/
def Decl.restTallyAll : List Decl → Nat
  | [] => 0
  | decl :: rest => decl.restTally + Decl.restTallyAll rest

end

mutual

/-- A node of a declaration belongs to its heading or to the rest. -/
theorem Decl.tally_outline : (decl : Decl) →
    decl.outline.tally mark = decl.headTally mark + decl.restTally mark
  | .varDef info var value => by
      simp [outline, headTally, restTally]
      omega
  | .funcDef info heading declarations statements recovered => by
      simp [outline, headTally, restTally]
      omega
  | .classDef info name superclass members => by
      have inside := Decl.tallyAll_outlines members
      simp [outline, headTally, restTally]
      omega
  | .globalDecl info name | .nonlocalDecl info name => by
      simp [outline, headTally, restTally]

theorem Decl.tallyAll_outlines : (decls : List Decl) →
    Outline.tallyAll mark (Decl.outlines decls) = headTallyAll mark decls + restTallyAll mark decls
  | [] => rfl
  | decl :: rest => by
      have first := Decl.tally_outline decl
      have others := Decl.tallyAll_outlines rest
      simp [outlines, headTallyAll, restTallyAll]
      omega

end

end Tallies

namespace Check

variable (mark : Mark)

/-! ## Written types -/

theorem resolve_records (written : WrittenType) :
    Records mark (resolve written) (written.outline.tally mark)
      fun resolved => resolved.1.outline.tally mark := by
  induction written with
  | named info name =>
      unfold resolve
      refine .get fun state => ?_
      split
      · exact .pure rfl
      · exact .map (report_records mark _ info)
  | list info element ih =>
      intro state
      have inside := ih.ran state
      unfold resolve
      simp only [bind_apply, pure_apply]
      simp [WrittenType.outline]
      omega

theorem resolveVar_records (var : TypedVar) :
    Records mark (resolveVar var) (var.outline.tally mark)
      fun resolved => resolved.1.outline.tally mark := by
  intro state
  have inside := (resolve_records mark var.written).ran state
  unfold resolveVar
  simp only [bind_apply, pure_apply]
  simp [TypedVar.outline]
  omega

theorem resolveVars_records (vars : List TypedVar) :
    Records mark (resolveVars vars) (Outline.tallyAll mark (vars.map TypedVar.outline))
      fun resolved => Outline.tallyAll mark (resolved.1.map TypedVar.outline) := by
  induction vars with
  | nil => exact .pure rfl
  | cons var rest ih =>
      intro state
      have first := (resolveVar_records mark var).ran state
      have others := ih.ran (resolveVar var state).2
      unfold resolveVars
      simp only [bind_apply, pure_apply, List.map_cons, Outline.tallyAll_cons]
      omega

theorem resolveSignature_records (heading : FunctionHeading) :
    Records mark (resolveSignature heading) (Outline.tallyAll mark heading.outlines)
      fun resolved => Outline.tallyAll mark resolved.1.outlines := by
  intro state
  have params := (resolveVars_records mark heading.params).ran state
  have returns := (resolve_records mark heading.returns).ran (resolveVars heading.params state).2
  unfold resolveSignature
  simp only [bind_apply, pure_apply]
  simp [FunctionHeading.outlines]
  omega

/-! ## Names -/

theorem declare_records (name : Identifier) (type : ValueType) (kind : BindingKind) :
    Records mark (declare name type kind) (name.outline.tally mark)
      fun declared => declared.1.outline.tally mark := by
  unfold declare
  refine .get fun state => ?_
  split
  · exact .map (reportName_records mark _ name)
  · exact fun _ => rfl

/-- The marks of a variable are those of its name and others. -/
theorem tally_typedVar (var : TypedVar) : var.outline.tally mark =
    var.identifier.outline.tally mark + (var.info.tally mark + var.written.outline.tally mark) := by
  simp [TypedVar.outline]
  omega

/-- The marks of the heading of a function are those of its name and others. -/
theorem tally_functionHeading (heading : FunctionHeading) :
    Outline.tallyAll mark heading.outlines = heading.name.outline.tally mark +
      (Outline.tallyAll mark (heading.params.map TypedVar.outline) +
        heading.returns.outline.tally mark) := by
  simp [FunctionHeading.outlines]

theorem declareVar_records (var : TypedVar) :
    Records mark (declareVar var) (var.outline.tally mark) fun var => var.outline.tally mark := by
  refine (resolveVar_records mark var).bind fun (var, type) => ?_
  simp only [tally_typedVar]
  exact .map ((declare_records mark var.identifier type .ownVariable).frame _)

theorem declareFunction_records (heading : FunctionHeading) :
    Records mark (declareFunction heading) (Outline.tallyAll mark heading.outlines)
      fun heading => Outline.tallyAll mark heading.outlines := by
  refine (resolveSignature_records mark heading).bind fun (heading, signature) => ?_
  simp only [tally_functionHeading]
  exact .map ((declare_records mark heading.name signature.type .function).frame _)

/-! ## Classes -/

theorem declareAttribute_records (info : ClassInfo) (var : TypedVar) :
    Records mark (declareAttribute info var) (var.outline.tally mark)
      fun declared => declared.2.outline.tally mark := by
  refine (resolveVar_records mark var).bind fun (var, type) => ?_
  simp only [tally_typedVar]
  refine ((declare_records mark var.identifier type .ownVariable).frame _).bind ?_
  rintro ⟨identifier, bound⟩
  split
  · exact .pure rfl
  · split
    · exact .map ((reportName_records mark _ identifier).frame _)
    · exact .pure rfl

theorem demandMethod_records (info : ClassInfo) (signature : Signature) (name : Identifier) :
    Records mark (demandMethod info signature name) (name.outline.tally mark)
      fun name => name.outline.tally mark := by
  unfold demandMethod
  refine .get fun state => ?_
  split
  · exact reportName_records mark _ name
  · exact .pure rfl

theorem declareMethod_records (info : ClassInfo) (heading : FunctionHeading) :
    Records mark (declareMethod info heading) (Outline.tallyAll mark heading.outlines)
      fun declared => Outline.tallyAll mark declared.2.outlines := by
  rw [declareMethod_eq]
  refine (resolveSignature_records mark heading).bind fun (heading, signature) => ?_
  simp only [tally_functionHeading]
  refine ((declare_records mark heading.name signature.type .function).frame _).bind ?_
  rintro ⟨name, bound⟩
  split
  · exact .pure rfl
  · exact .map ((demandMethod_records mark info signature name).frame _)

theorem declareMember_records (info : ClassInfo) {decl : Decl} (wellFormed : decl.WellFormed .ofClass) :
    Records mark (declareMember info decl) (decl.headTally mark)
      fun declared => declared.2.tally mark := by
  cases decl with
  | varDef _ var _ => exact .map (declareAttribute_records mark info var)
  | funcDef _ heading _ _ _ => exact .map (declareMethod_records mark info heading)
  | classDef => exact absurd wellFormed.1 (by decide)
  | globalDecl | nonlocalDecl => exact .pure rfl

theorem declareMembers_records (info : ClassInfo) {decls : List Decl}
    (wellFormed : ∀ decl ∈ decls, decl.WellFormed .ofClass) :
    Records mark (declareMembers info decls) (Decl.headTallyAll mark decls)
      fun declared => Heading.tallyAll mark declared.2 := by
  induction decls generalizing info with
  | nil => exact .pure rfl
  | cons decl rest ih =>
      obtain ⟨first, others⟩ := List.forall_mem_cons.mp wellFormed
      intro state
      have own := (declareMember_records mark info first).ran state
      rw [declareMembers_cons]
      simp only [bind_apply, pure_apply, Decl.headTallyAll, Heading.tallyAll]
      generalize declareMember info decl state = declared at own ⊢
      have rest := (ih declared.1.1 others).ran declared.2
      omega

theorem resolveSuperclass_records (name : Identifier) :
    Records mark (resolveSuperclass name) (name.outline.tally mark)
      fun resolved => resolved.1.outline.tally mark := by
  unfold resolveSuperclass
  refine .get fun state => ?_
  split
  · exact .pure rfl
  · exact .map (reportName_records mark _ name)

theorem within_records {α : Type} {inner : Check α} {given : Nat} {returned : α → Nat}
    (records : Records mark inner given returned) (kind : FrameKind) (name : String) :
    Records mark (within kind name inner) given returned := fun state =>
  records { state with scope := state.scope.enter kind name }

theorem declareClass_records (name superclass : Identifier) {members : List Decl}
    (wellFormed : ∀ decl ∈ members, decl.WellFormed .ofClass) :
    Records mark (declareClass name superclass members)
      (name.outline.tally mark + superclass.outline.tally mark + Decl.headTallyAll mark members)
      (Heading.tally mark) := by
  intro state
  have parent := (resolveSuperclass_records mark superclass).ran state
  rw [declareClass_apply]
  dsimp only
  generalize resolveSuperclass superclass state = resolved at parent ⊢
  have own := (declare_records mark name (.classType name.name) .classDef).ran resolved.2
  generalize declare name (.classType name.name) .classDef resolved.2 = declared at own ⊢
  generalize resolved.1.2.subclass declared.1.1.name = inherited
  have inside := (within_records mark (declareMembers_records mark inherited wellFormed) .classBody
    declared.1.1.name).ran declared.2
  generalize within .classBody declared.1.1.name (declareMembers inherited members) declared.2 =
    ran at inside ⊢
  have silent : CheckState.tally mark
      (if declared.1.2 then { ran.2 with hierarchy := ran.2.hierarchy.add ran.1.1 } else ran.2) =
        ran.2.tally mark := by
    split <;> rfl
  rw [silent, Heading.tally]
  omega

theorem declareGlobal_records {decl : Decl} (wellFormed : decl.WellFormed .program) :
    Records mark (declareGlobal decl) (decl.headTally mark) (Heading.tally mark) := by
  cases decl with
  | varDef _ var _ => exact .map (declareVar_records mark var)
  | funcDef _ heading _ _ _ => exact .map (declareFunction_records mark heading)
  | classDef _ name superclass members =>
      exact declareClass_records mark name superclass
        ((wellFormedDecls_iff _ _).mp wellFormed.2)
  | globalDecl | nonlocalDecl => exact .pure rfl

theorem declareGlobals_records {decls : List Decl}
    (wellFormed : ∀ decl ∈ decls, decl.WellFormed .program) :
    Records mark (declareGlobals decls) (Decl.headTallyAll mark decls)
      (Heading.tallyAll mark) := by
  induction decls with
  | nil => exact .pure rfl
  | cons decl rest ih =>
      obtain ⟨first, others⟩ := List.forall_mem_cons.mp wellFormed
      intro state
      have own := (declareGlobal_records mark first).ran state
      have rest := (ih others).ran (declareGlobal decl state).2
      unfold declareGlobals
      simp only [bind_apply, pure_apply, Decl.headTallyAll, Heading.tallyAll]
      omega

/-! ## Functions -/

theorem declareOuter_records (found : Option Binding) (allowed : List BindingKind)
    (kind : BindingKind) (error : CheckError) (info : NodeInfo) (name : Identifier) :
    Records mark (declareOuter found allowed kind error info name)
      (info.tally mark + name.outline.tally mark) (Heading.tally mark) := by
  unfold declareOuter
  split
  · exact .map ((report_records mark error info).frame _)
  · next binding _ =>
      intro state
      have own := (declare_records mark name binding.type kind).ran state
      simp only [bind_apply, pure_apply, Heading.tally]
      omega

theorem declareLocal_records {decl : Decl} (wellFormed : decl.WellFormed .ofFunction) :
    Records mark (declareLocal decl) (decl.headTally mark) (Heading.tally mark) := by
  cases decl with
  | varDef _ var _ => exact .map (declareVar_records mark var)
  | funcDef _ heading _ _ _ => exact .map (declareFunction_records mark heading)
  | classDef => exact absurd wellFormed.1 (by decide)
  | globalDecl info name | nonlocalDecl info name =>
      exact .view fun found => declareOuter_records mark found _ _ _ info name

theorem declareLocals_records {decls : List Decl}
    (wellFormed : ∀ decl ∈ decls, decl.WellFormed .ofFunction) :
    Records mark (declareLocals decls) (Decl.headTallyAll mark decls)
      (Heading.tallyAll mark) := by
  induction decls with
  | nil => exact .pure rfl
  | cons decl rest ih =>
      obtain ⟨first, others⟩ := List.forall_mem_cons.mp wellFormed
      intro state
      have own := (declareLocal_records mark first).ran state
      have rest := (ih others).ran (declareLocal decl state).2
      unfold declareLocals
      simp only [bind_apply, pure_apply, Decl.headTallyAll, Heading.tallyAll]
      omega

theorem declareParams_records (vars : List TypedVar) (types : List ValueType) :
    Records mark (declareParams vars types) (Outline.tallyAll mark (vars.map TypedVar.outline))
      fun vars => Outline.tallyAll mark (vars.map TypedVar.outline) := by
  induction vars generalizing types with
  | nil => unfold declareParams; exact .pure rfl
  | cons var rest ih =>
      cases types with
      | nil => unfold declareParams; exact .pure rfl
      | cons type types =>
          intro state
          have own := (declare_records mark var.identifier type .parameter).ran state
          unfold declareParams
          simp only [bind_apply, pure_apply, List.map_cons, Outline.tallyAll_cons, tally_typedVar]
          generalize declare var.identifier type .parameter state = declared at own ⊢
          have others := (ih types).ran declared.2
          omega

theorem demandReturn_records (result : ValueType) (statements : List Stmt) (recovered : Bool)
    (name : Identifier) :
    Records mark (demandReturn result statements recovered name) (name.outline.tally mark)
      fun name => name.outline.tally mark := by
  unfold demandReturn
  refine .get fun state => ?_
  split
  · exact reportName_records mark _ name
  · exact .pure rfl

theorem checkVarDef_records (info : NodeInfo) (var : TypedVar) (value : Expr) :
    Records mark (checkVarDef info var value)
      (var.outline.tally mark + (Decl.varDef info var value).restTally mark)
      fun decl => decl.outline.tally mark := by
  intro state
  have written := (resolveVar_records mark var).ran state
  have inside := ((infer_records mark).1 value).ran (resolveVar var state).2
  unfold checkVarDef
  simp only [bind_apply, pure_apply]
  generalize infer value (resolveVar var state).2 = ran at inside ⊢
  have fit := (demandFit_records mark (resolveVar var state).1.2 ran.1.type info).ran ran.2
  simp [Decl.outline, Decl.restTally] at written ⊢
  omega

/-! ## Bodies -/

theorem returning_records {α : Type} {inner : Check α} {given : Nat} {returned : α → Nat}
    (records : Records mark inner given returned) (result : ValueType) :
    Records mark (returning result inner) given returned := fun state =>
  records { state with results := result :: state.results }

theorem checkBody_records (heading : FunctionHeading) (signature : Signature)
    {declarations : List Decl} (statements : List Stmt)
    (wellFormed : ∀ decl ∈ declarations, decl.WellFormed .ofFunction)
    (inner : ∀ headings, HeadedAll declarations headings →
      Records mark (checkDecls declarations headings)
        (Heading.tallyAll mark headings + Decl.restTallyAll mark declarations)
        fun decls => Outline.tallyAll mark (Decl.outlines decls)) :
    Records mark (checkBody heading signature declarations statements)
      (Outline.tallyAll mark (heading.params.map TypedVar.outline) +
        (Outline.tallyAll mark (Decl.outlines declarations) +
          Outline.tallyAll mark (Stmt.outlines statements)))
      fun body => Outline.tallyAll mark (body.1.map TypedVar.outline) +
        (Outline.tallyAll mark (Decl.outlines body.2.1) +
          Outline.tallyAll mark (Stmt.outlines body.2.2)) := by
  refine within_records mark ?_ .function heading.name.name
  refine ((declareParams_records mark heading.params signature.params).frame _).bind
    fun params state => ?_
  have headed := declareLocals_headed wellFormed state
  have bound := (declareLocals_records mark wellFormed).ran state
  have whole := Decl.tallyAll_outlines mark declarations
  rw [bind_apply]
  generalize declareLocals declarations state = headings at headed bound ⊢
  have body : Records mark (do
      let declarations ← checkDecls declarations headings.1
      let statements ← checkStmts statements
      pure (params, declarations, statements))
      (Outline.tallyAll mark (params.map TypedVar.outline) +
        (Heading.tallyAll mark headings.1 + Decl.restTallyAll mark declarations +
          Outline.tallyAll mark (Stmt.outlines statements)))
      fun body => Outline.tallyAll mark (body.1.map TypedVar.outline) +
        (Outline.tallyAll mark (Decl.outlines body.2.1) +
          Outline.tallyAll mark (Stmt.outlines body.2.2)) := by
    intro inside
    have first := (inner headings.1 headed).ran inside
    have second := ((checkStmt_records mark).2 statements).ran
      (checkDecls declarations headings.1 inside).2
    simp only [bind_apply, pure_apply]
    omega
  exact (returning_records mark body signature.result).behind (by omega)

/-- Checking bodies records every problem at a node of the declaration. -/
theorem checkDecl_records :
    (∀ decl heading, (∃ place, decl.Raw True place) → decl.Headed heading →
      Records mark (checkDecl decl heading) (heading.tally mark + decl.restTally mark)
        fun decl => decl.outline.tally mark) ∧
    ∀ decls headings, (∀ decl ∈ decls, ∃ place, decl.Raw True place) → HeadedAll decls headings →
      Records mark (checkDecls decls headings)
        (Heading.tallyAll mark headings + Decl.restTallyAll mark decls)
        fun decls => Outline.tallyAll mark (Decl.outlines decls) := by
  apply headed_induction
  case varDef =>
    intro place info var value looked raw
    unfold checkDecl
    exact checkVarDef_records mark info looked value
  case funcDef =>
    intro place info heading declarations statements recovered looked ih raw _ state
    have signature := (resolveSignature_records mark looked).ran state
    rw [checkDecl_function]
    simp only [bind_apply, pure_apply]
    generalize resolveSignature looked state = resolved at signature ⊢
    have body := (checkBody_records mark resolved.1.1 resolved.1.2 statements
      (fun decl among => (raw.locals decl among).wellFormed) ih).ran resolved.2
    generalize checkBody resolved.1.1 resolved.1.2 declarations statements resolved.2 = ran
      at body ⊢
    have name := (demandReturn_records mark resolved.1.2.result ran.1.2.2 recovered
      resolved.1.1.name).ran ran.2
    simp only [tally_functionHeading] at signature
    simp only [Decl.outline, Outline.tally_node, NodeInfo.tally_label, Outline.tallyAll_append,
      tally_functionHeading, Heading.tally, Decl.restTally]
    omega
  case classDef =>
    intro place info name superclass members called parent headings ih raw state
    have inside := ih.ran state
    unfold checkDecl
    simp only [bind_apply, pure_apply]
    simp [Decl.outline, Heading.tally, Decl.restTally]
    omega
  case globalDecl | nonlocalDecl =>
    intro info name node looked
    unfold checkDecl
    exact .pure (by simp [Decl.outline, Heading.tally, Decl.restTally])
  case nil =>
    unfold checkDecls
    exact .pure rfl
  case cons =>
    intro decl decls heading headings ihDecl ihDecls state
    have first := ihDecl.ran state
    have others := ihDecls.ran (checkDecl decl heading state).2
    unfold checkDecls
    simp only [bind_apply, pure_apply]
    simp [Decl.outlines, Heading.tallyAll, Decl.restTallyAll]
    omega

end Check

/-! ## Programs -/

namespace Program

/-- Checking a program that was read adds as many marks as problems with the mark. -/
theorem tally_check (mark : Mark) {file source : String} {program : Program}
    (read : Program.ofSource file source = .ok program) :
    program.check.outline.tally mark = program.checkedStatements.2.tally mark := by
  have raw := raw_of_ofSource read
  have wellFormed := fun decl among => (raw.topLevel decl among).wellFormed
  have declared : Heading.tallyAll mark program.declared.1 + program.announced.tally mark =
      Decl.headTallyAll mark program.declarations + program.declared.2.tally mark :=
    (Check.declareGlobals_records mark wellFormed).ran program.announced
  have checked : Outline.tallyAll mark (Decl.outlines program.checkedDeclarations.1) +
      program.declared.2.tally mark = Heading.tallyAll mark program.declared.1 +
        Decl.restTallyAll mark program.declarations + program.checkedDeclarations.2.tally mark :=
    ((Check.checkDecl_records mark).2 program.declarations program.declared.1
      (fun decl among => ⟨_, raw.topLevel decl among⟩) raw.headed).ran program.declared.2
  have statements : Outline.tallyAll mark (Stmt.outlines program.checkedStatements.1) +
      program.checkedDeclarations.2.tally mark =
        Outline.tallyAll mark (Stmt.outlines program.statements) +
          program.checkedStatements.2.tally mark :=
    ((Check.checkStmt_records mark).2 program.statements).ran program.checkedDeclarations.2
  have fresh : program.outline.tally mark = 0 := Outline.tally_of_fresh _ (fresh_of_ofSource read)
  have whole := Decl.tallyAll_outlines mark program.declarations
  have start : program.announced.tally mark = 0 := rfl
  rw [check_eq]
  simp only [outline, Outline.tally_node, Outline.tallyAll_append] at fresh ⊢
  omega

/--
The diagnostics that checking adds, taken by their messages and texts, are those of the nodes at
which an error is recorded, each as often.
-/
theorem marks_check {file source : String} {program : Program}
    (read : Program.ofSource file source = .ok program) :
    ∃ found, program.check.errors = program.errors ++ found ∧
      (found.map Diagnostic.mark).Perm (Outline.marks [program.check.outline]) := by
  refine ⟨program.checkedStatements.2.problems.map Located.toDiagnostic, rfl, ?_⟩
  rw [List.perm_iff_count, List.map_map]
  intro mark
  have same := tally_check mark read
  rw [Outline.count_marks, Outline.tallyAll_cons, Outline.tallyAll_nil, Nat.add_zero, same]
  rfl

/-- A program with eight mistakes: in a type, a superclass, names, a body, values and a target. -/
def mistakenSource : String :=
  "def f(x: [Foo]) -> int:\n    print(y)\nclass A(int):\n    f: int = \"one\"\nf()\nf = 1 + None\n"

/-- The eight diagnostics of the mistaken program are those of its nodes. -/
theorem marks_check_mistakenSource :
    ∃ program, Program.ofSource "mistaken.choc" mistakenSource = .ok program ∧
      program.check.errors.length = 8 ∧
        ∃ found, program.check.errors = program.errors ++ found ∧
          (found.map Diagnostic.mark).Perm (Outline.marks [program.check.outline]) := by
  obtain ⟨program, read, eight⟩ : ∃ program, Program.ofSource "mistaken.choc" mistakenSource =
      .ok program ∧ (program.check.errors.length == 8) = true :=
    exists_ok_of_any (by decide +kernel)
  exact ⟨program, read, beq_iff_eq.mp eight, marks_check read⟩

end Program

end ChocoLang
