import ChocoLang.Proofs.Checking.Bare.Statement

/-!
# The bare tree of a checked program

The first look at a declaration returns a heading that agrees with it, and checking the body under
such a heading leaves the bare tree of the declaration as it is.  So a checked program has the bare
tree of the program that was read, errors or not.
-/

namespace ChocoLang

mutual

/-- A heading of the sort of a declaration agrees with it, but for what is recorded. -/
def Decl.Matches : Decl → Heading → Prop
  | .varDef _ var _, .variable looked => looked.bare = var.bare
  | .funcDef _ heading _ _ _, .function looked => looked.bare = heading.bare
  | .classDef _ name superclass members, .ofClass called parent headings =>
    called.bare = name.bare ∧ parent.bare = superclass.bare ∧ MatchesAll members headings
  | .globalDecl info name, .outer node looked
  | .nonlocalDecl info name, .outer node looked =>
    node.span = info.span ∧ looked.bare = name.bare
  | _, _ => True

/-- Headings agree with declarations one by one, as far as there are both. -/
def MatchesAll : List Decl → List Heading → Prop
  | decl :: decls, heading :: headings => decl.Matches heading ∧ MatchesAll decls headings
  | _, _ => True

end

theorem Decl.matches_heading (decl : Decl) : decl.Matches decl.heading := by
  cases decl with
  | classDef info name superclass members => exact ⟨rfl, rfl, by cases members <;> trivial⟩
  | globalDecl | nonlocalDecl => exact ⟨rfl, rfl⟩
  | varDef | funcDef => rfl

namespace TypedVar

/-- A variable is told by its bare form up to what is recorded at it and its parts. -/
theorem bare_eq_iff {first second : TypedVar} :
    first.bare = second.bare ↔ first.info.span = second.info.span ∧
      first.identifier.bare = second.identifier.bare ∧
        first.written.bare = second.written.bare := by
  simp [bare, relabel, NodeInfo.ofSpan]

end TypedVar

namespace FunctionHeading

/-- A heading is told by its bare form up to what is recorded at its parts. -/
theorem bare_eq_iff {first second : FunctionHeading} :
    first.bare = second.bare ↔ first.name.bare = second.name.bare ∧
      first.params.map TypedVar.bare = second.params.map TypedVar.bare ∧
        first.returns.bare = second.returns.bare := by
  simp [bare, relabel]

/-- Another name with the same bare form leaves the bare heading as it is. -/
theorem bare_named {heading resolved : FunctionHeading} {name : Identifier}
    (same : resolved.bare = heading.bare) (named : name.bare = resolved.name.bare) :
    { resolved with name }.bare = heading.bare :=
  have parts := bare_eq_iff.mp same
  bare_eq_iff.mpr ⟨named.trans parts.1, parts.2⟩

end FunctionHeading

namespace Check

/-! ## Written types and names -/

theorem resolve_bare (written : WrittenType) :
    Returns (resolve written) fun resolved => resolved.1.bare = written.bare := by
  induction written with
  | named info name =>
      refine .any fun state => ?_
      split
      · exact .pure rfl
      · exact (report_span _ info).bind fun reported same =>
          .pure (by simp [WrittenType.relabel, same])
  | list info element ih =>
      exact ih.bind fun resolved same => .pure (by simpa [WrittenType.relabel] using same)

theorem resolveVar_bare (var : TypedVar) :
    Returns (resolveVar var) fun resolved => resolved.1.bare = var.bare :=
  (resolve_bare var.written).bind fun _ same => .pure (TypedVar.bare_eq_iff.mpr ⟨rfl, rfl, same⟩)

theorem resolveVars_bare (vars : List TypedVar) :
    Returns (resolveVars vars) fun resolved =>
      resolved.1.map TypedVar.bare = vars.map TypedVar.bare := by
  induction vars with
  | nil => exact .pure rfl
  | cons var rest ih =>
      refine (resolveVar_bare var).bind fun resolved first => ih.bind fun later others => .pure ?_
      simpa using ⟨first, others⟩

theorem resolveSignature_bare (heading : FunctionHeading) :
    Returns (resolveSignature heading) fun resolved => resolved.1.bare = heading.bare :=
  (resolveVars_bare heading.params).bind fun _ params => (resolve_bare heading.returns).bind
    fun _ result => .pure (FunctionHeading.bare_eq_iff.mpr ⟨rfl, params, result⟩)

theorem reportName_bare (error : CheckError) (name : Identifier) :
    Returns (reportName error name) fun reported => reported.bare = name.bare :=
  (reportExpr_span error name.info).bind fun _ same =>
    .pure (Identifier.bare_eq_iff.mpr ⟨same, rfl⟩)

theorem declare_bare (name : Identifier) (type : ValueType) (kind : BindingKind) :
    Returns (declare name type kind) fun declared => declared.1.bare = name.bare := by
  refine .any fun state => ?_
  split
  · exact (reportName_bare _ name).bind fun _ same => .pure same
  · exact .any fun _ => .pure rfl

theorem declareVar_bare (var : TypedVar) :
    Returns (declareVar var) fun declared => declared.bare = var.bare := by
  refine (resolveVar_bare var).bind fun (resolved, type) same => ?_
  have parts := TypedVar.bare_eq_iff.mp same
  refine (declare_bare resolved.identifier type .ownVariable).bind fun declared named => .pure ?_
  exact TypedVar.bare_eq_iff.mpr ⟨parts.1, named.trans parts.2.1, parts.2.2⟩

theorem declareFunction_bare (heading : FunctionHeading) :
    Returns (declareFunction heading) fun declared => declared.bare = heading.bare :=
  (resolveSignature_bare heading).bind fun _ same =>
    (declare_bare _ _ .function).bind fun _ named => .pure (FunctionHeading.bare_named same named)

/-! ## Classes -/

theorem declareAttribute_bare (info : ClassInfo) (var : TypedVar) :
    Returns (declareAttribute info var) fun declared => declared.2.bare = var.bare := by
  refine (resolveVar_bare var).bind fun (resolved, type) same => ?_
  refine (declare_bare resolved.identifier type .ownVariable).bind
    fun (identifier, bound) named => ?_
  have parts := TypedVar.bare_eq_iff.mp same
  have bareWith {name : Identifier} (called : name.bare = resolved.identifier.bare) :
      { resolved with identifier := name }.bare = var.bare :=
    TypedVar.bare_eq_iff.mpr ⟨parts.1, called.trans parts.2.1, parts.2.2⟩
  refine .ite (fun _ => .pure (bareWith named)) fun _ => ?_
  refine .ite (fun _ => ?_) fun _ => .pure (bareWith named)
  exact (reportName_bare _ identifier).bind fun _ again => .pure (bareWith (again.trans named))

theorem demandMethod_bare (info : ClassInfo) (signature : Signature) (name : Identifier) :
    Returns (demandMethod info signature name) fun demanded => demanded.bare = name.bare := by
  refine .any fun state => ?_
  split
  · exact reportName_bare _ name
  · exact .pure rfl

theorem declareMethod_bare (info : ClassInfo) (heading : FunctionHeading) :
    Returns (declareMethod info heading) fun declared => declared.2.bare = heading.bare := by
  rw [declareMethod_eq]
  refine (resolveSignature_bare heading).bind fun (resolved, signature) same => ?_
  refine (declare_bare resolved.name signature.type .function).bind fun (name, bound) named => ?_
  refine .ite (fun _ => .pure (FunctionHeading.bare_named same named)) fun _ => ?_
  exact (demandMethod_bare info signature name).bind fun _ again =>
    .pure (FunctionHeading.bare_named same (again.trans named))

theorem declareMember_matches (info : ClassInfo) (decl : Decl) :
    Returns (declareMember info decl) fun declared => decl.Matches declared.2 := by
  cases decl with
  | varDef _ var _ => exact (declareAttribute_bare info var).bind fun _ same => .pure same
  | funcDef _ heading => exact (declareMethod_bare info heading).bind fun _ same => .pure same
  | classDef | globalDecl | nonlocalDecl => exact .pure (Decl.matches_heading _)

theorem declareMembers_matches (info : ClassInfo) (decls : List Decl) :
    Returns (declareMembers info decls) fun declared => MatchesAll decls declared.2 := by
  induction decls generalizing info with
  | nil => exact .pure trivial
  | cons decl rest ih =>
      rw [declareMembers_cons]
      refine (declareMember_matches info decl).bind fun (info, heading) first => ?_
      exact (ih info).bind fun _ others => .pure ⟨first, others⟩

theorem resolveSuperclass_bare (name : Identifier) :
    Returns (resolveSuperclass name) fun resolved => resolved.1.bare = name.bare := by
  refine .any fun state => ?_
  split
  · exact .pure rfl
  · exact (reportName_bare _ name).bind fun _ same => .pure same

theorem declareClass_matches (info : NodeInfo) (name superclass : Identifier)
    (members : List Decl) :
    Returns (declareClass name superclass members)
      (Decl.classDef info name superclass members).Matches := by
  refine (resolveSuperclass_bare superclass).bind fun (parent, above) second => ?_
  refine (declare_bare name _ .classDef).bind fun (called, bound) first => ?_
  refine (within_returns _ _ (declareMembers_matches _ members)).bind
    fun (added, headings) inside => ?_
  exact .ite (fun _ => .any fun _ => .pure ⟨first, second, inside⟩)
    fun _ => .pure ⟨first, second, inside⟩

theorem declareGlobal_matches (decl : Decl) : Returns (declareGlobal decl) decl.Matches := by
  cases decl with
  | varDef _ var _ => exact (declareVar_bare var).bind fun _ same => .pure same
  | funcDef _ heading => exact (declareFunction_bare heading).bind fun _ same => .pure same
  | classDef info name superclass members =>
      exact declareClass_matches info name superclass members
  | globalDecl | nonlocalDecl => exact .pure (Decl.matches_heading _)

theorem declareGlobals_matches (decls : List Decl) :
    Returns (declareGlobals decls) (MatchesAll decls) := by
  induction decls with
  | nil => exact .pure trivial
  | cons decl rest ih =>
      exact (declareGlobal_matches decl).bind fun _ first => ih.bind fun _ others =>
        .pure ⟨first, others⟩

/-! ## Functions -/

/-- What is declared outside keeps its place and its name. -/
theorem declareOuter_matches (found : Option Binding) (allowed : List BindingKind)
    (kind : BindingKind) (error : CheckError) (info : NodeInfo) (name : Identifier) :
    Returns (declareOuter found allowed kind error info name)
      (Decl.globalDecl info name).Matches := by
  unfold declareOuter
  split
  · exact (report_span error info).bind fun _ same => .pure ⟨same, rfl⟩
  · exact (declare_bare name _ kind).bind fun _ same => .pure ⟨rfl, same⟩

theorem declareLocal_matches (decl : Decl) : Returns (declareLocal decl) decl.Matches := by
  cases decl with
  | varDef _ var _ => exact (declareVar_bare var).bind fun _ same => .pure same
  | funcDef _ heading => exact (declareFunction_bare heading).bind fun _ same => .pure same
  | classDef => exact .pure (Decl.matches_heading _)
  | globalDecl info name => exact .any fun found => declareOuter_matches found _ _ _ info name
  | nonlocalDecl info name =>
      refine .any fun found state => ?_
      have same := declareOuter_matches found [.ownVariable, .parameter] .nonlocalReference
        (.notNonlocal name.name) info name state
      obtain ⟨node, looked, shape⟩ := declareOuter_outer found [.ownVariable, .parameter]
        .nonlocalReference (.notNonlocal name.name) info name state
      rw [shape] at same ⊢
      exact same

theorem declareLocals_matches (decls : List Decl) :
    Returns (declareLocals decls) (MatchesAll decls) := by
  induction decls with
  | nil => exact .pure trivial
  | cons decl rest ih =>
      exact (declareLocal_matches decl).bind fun _ first => ih.bind fun _ others =>
        .pure ⟨first, others⟩

theorem declareParams_bare (vars : List TypedVar) (types : List ValueType) :
    Returns (declareParams vars types) fun declared =>
      declared.map TypedVar.bare = vars.map TypedVar.bare := by
  induction vars generalizing types with
  | nil =>
      unfold declareParams
      exact .pure rfl
  | cons var rest ih =>
      cases types with
      | nil =>
          unfold declareParams
          exact .pure rfl
      | cons type types =>
          unfold declareParams
          refine (declare_bare var.identifier type .parameter).bind fun declared named => ?_
          refine (ih types).bind fun later others => .pure ?_
          have first : { var with identifier := declared.1 }.bare = var.bare :=
            TypedVar.bare_eq_iff.mpr ⟨rfl, named, rfl⟩
          simpa using ⟨first, others⟩

theorem demandReturn_bare (result : ValueType) (statements : List Stmt) (recovered : Bool)
    (name : Identifier) :
    Returns (demandReturn result statements recovered name) fun demanded =>
      demanded.bare = name.bare :=
  .any fun _ => .ite (fun _ => reportName_bare _ name) fun _ => .pure rfl

theorem checkVarDef_bare (info : NodeInfo) {var looked : TypedVar} (value : Expr)
    (matched : looked.bare = var.bare) :
    Returns (checkVarDef info looked value) fun checked =>
      checked.bare = (Decl.varDef info var value).bare := by
  refine (resolveVar_bare looked).bind fun (resolved, declared) same => ?_
  refine (infer_bare.1 value).bind fun value' inferred => ?_
  refine (demandFit_span declared value'.type info).bind fun info' place => .pure ?_
  simpa [Decl.relabel, place] using ⟨same.trans matched, inferred⟩

/-! ## Bodies -/

theorem checkBody_bare (heading : FunctionHeading) (signature : Signature)
    (declarations : List Decl) (statements : List Stmt)
    (inner : ∀ headings, MatchesAll declarations headings →
      Returns (checkDecls declarations headings) fun checked =>
        checked.map Decl.bare = declarations.map Decl.bare) :
    Returns (checkBody heading signature declarations statements) fun body =>
      body.1.map TypedVar.bare = heading.params.map TypedVar.bare ∧
        body.2.1.map Decl.bare = declarations.map Decl.bare ∧
          body.2.2.map Stmt.bare = statements.map Stmt.bare := by
  refine within_returns _ _ ((declareParams_bare heading.params _).bind fun params first => ?_)
  refine (declareLocals_matches declarations).bind fun headings matched => returning_returns _ ?_
  refine (inner headings matched).bind fun checked second => ?_
  exact (checkStmt_bare.2 statements).bind fun _ third => .pure ⟨first, second, third⟩

/-- Checking bodies under headings that agree leaves the bare trees as they are. -/
theorem checkDecl_bare :
    (∀ (decl : Decl) (heading : Heading), decl.Matches heading →
      Returns (checkDecl decl heading) fun checked => checked.bare = decl.bare) ∧
    ∀ (decls : List Decl) (headings : List Heading), MatchesAll decls headings →
      Returns (checkDecls decls headings) fun checked =>
        checked.map Decl.bare = decls.map Decl.bare := by
  apply checkDecl_induction
  case varDef =>
    intro info var value looked matched
    unfold checkDecl
    exact checkVarDef_bare info value matched
  case funcDef =>
    intro info heading declarations statements recovered looked ih matched
    rw [checkDecl_function]
    refine (resolveSignature_bare looked).bind ?_
    rintro ⟨resolved, signature⟩ same
    refine (checkBody_bare resolved signature declarations statements ih).bind ?_
    rintro ⟨params, declarations', statements'⟩ ⟨first, second, third⟩
    refine (demandReturn_bare signature.result statements' recovered resolved.name).bind
      fun name named => .pure ?_
    have parts := FunctionHeading.bare_eq_iff.mp (same.trans matched)
    have whole : { resolved with name, params }.bare = heading.bare :=
      FunctionHeading.bare_eq_iff.mpr
        ⟨named.trans parts.1, first.trans parts.2.1, parts.2.2⟩
    simpa [Decl.relabel] using ⟨whole, second, third⟩
  case classDef =>
    rintro info name superclass members called parent headings ih ⟨first, second, inside⟩
    unfold checkDecl
    refine (ih inside).bind fun members' third => .pure ?_
    simpa [Decl.relabel] using ⟨first, second, third⟩
  case globalDecl =>
    rintro info name node looked ⟨place, same⟩
    unfold checkDecl
    exact .pure (by simpa [Decl.relabel, place] using same)
  case nonlocalDecl =>
    rintro info name node looked ⟨place, same⟩
    unfold checkDecl
    exact .pure (by simpa [Decl.relabel, place] using same)
  case mismatch =>
    intro decl heading same _
    rw [same]
    exact .pure rfl
  case cons =>
    rintro decl rest heading headings ihDecl ihRest ⟨first, others⟩
    unfold checkDecls
    refine (ihDecl first).bind fun decl' own => (ihRest others).bind fun rest' later => .pure ?_
    simpa using ⟨own, later⟩
  case exhausted =>
    intro decls headings same _
    rw [same]
    exact .pure rfl

end Check

/-- Checking records errors and types in a program and leaves its bare tree as it is. -/
theorem Program.bare_check (program : Program) : program.check.bare = program.bare := by
  have declared := Check.declareGlobals_matches program.declarations program.announced
  have decls : program.checkedDeclarations.1.map Decl.bare = program.declarations.map Decl.bare :=
    Check.checkDecl_bare.2 _ _ declared program.declared.2
  have stmts : program.checkedStatements.1.map Stmt.bare = program.statements.map Stmt.bare :=
    Check.checkStmt_bare.2 _ program.checkedDeclarations.2
  rw [check_eq, bare, bare, decls, stmts]

end ChocoLang
