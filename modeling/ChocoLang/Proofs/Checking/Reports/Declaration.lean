import ChocoLang.Proofs.Checking.FirstPass
import ChocoLang.Proofs.Checking.Reports.Statement

/-!
# Reports in programs

The classes of a program are those of every program and those that it defines.  Its types are types
of values of these classes, unknown in part where a name was written that is no class, and no problem
found in it is about a type that is unknown as a whole.
-/

namespace ChocoLang

theorem ClassInfo.Among.addAttribute {classes : List String} {info : ClassInfo}
    (members : info.Among classes) (name : String) {type : ValueType} (among : type.Among classes) :
    ClassInfo.Among classes { info with attributes := info.attributes.insert name type } := by
  refine ⟨members.name, members.superclass, fun other found listed => ?_, members.methods⟩
  rw [Table.find?_insert] at listed
  split at listed
  · cases listed
    exact among
  · exact members.attributes other found listed

theorem ClassInfo.Among.addMethod {classes : List String} {info : ClassInfo}
    (members : info.Among classes) (name : String) {signature : Signature}
    (among : signature.Among classes) :
    ClassInfo.Among classes { info with methods := info.methods.insert name signature } := by
  refine ⟨members.name, members.superclass, members.attributes, fun other found listed => ?_⟩
  rw [Table.find?_insert] at listed
  split at listed
  · cases listed
    exact among
  · exact members.methods other found listed

theorem ClassHierarchy.Among.add {classes : List String} {hierarchy : ClassHierarchy}
    (known : hierarchy.Among classes) {info : ClassInfo} (new : info.Among classes) :
    (hierarchy.add info).Among classes := by
  refine ⟨known.builtin, fun name found listed => ?_⟩
  rw [find?_add] at listed
  split at listed
  · cases listed
    exact new
  · exact known.listed name found listed

theorem ClassHierarchy.Among.object {classes : List String} {hierarchy : ClassHierarchy}
    (known : hierarchy.Among classes) : objectInfo.Among classes := by
  refine ⟨known.builtin _ (by decide), nofun, nofun, fun name signature listed => ?_⟩
  simp only [objectInfo, initialMethods, Table.find?, List.lookup_cons, List.lookup_nil] at listed
  split at listed
  · cases listed
    exact ⟨by simpa using known.among_object, ValueType.among_none classes⟩
  · cases listed

/-- A class that is declared is one of certain classes. -/
def Decl.DefinesAmong (classes : List String) : Decl → Prop
  | .classDef _ name _ _ => name.name ∈ classes
  | _ => True

namespace Check

variable {classes : List String}

/-! ## Headings -/

theorem resolve_maintains (written : WrittenType) :
    Maintains (CheckState.Among classes) (resolve written)
      fun resolved => resolved.2.Among classes := by
  induction written with
  | named info name =>
      unfold resolve
      refine Maintains.get.bind fun state kept => ?_
      split
      · next type found =>
          refine .pure ?_
          unfold CheckState.namedType? at found
          split at found
          · cases found
            exact ValueType.among_none classes
          split at found
          · next listed =>
              cases found
              exact .inl (kept.typeNames name (by simpa using listed))
          · cases found
      · exact (report_maintains (.silent rfl rfl) info).bind fun _ _ =>
          .pure ValueType.among_unknown
  | list info element ih =>
      exact ih.bind fun _ among => .pure (ValueType.among_list.mpr among)

theorem resolveVar_maintains (var : TypedVar) :
    Maintains (CheckState.Among classes) (resolveVar var)
      fun resolved => resolved.2.Among classes :=
  (resolve_maintains var.written).bind fun _ among => .pure among

theorem resolveVars_maintains (vars : List TypedVar) :
    Maintains (CheckState.Among classes) (resolveVars vars)
      fun resolved => ∀ type ∈ resolved.2, type.Among classes := by
  induction vars with
  | nil => exact .pure (by simp)
  | cons var rest ih =>
      exact (resolveVar_maintains var).bind fun _ among => ih.bind fun _ others =>
        .pure (List.forall_mem_cons.mpr ⟨among, others⟩)

theorem resolveSignature_maintains (heading : FunctionHeading) :
    Maintains (CheckState.Among classes) (resolveSignature heading)
      fun resolved => resolved.2.Among classes :=
  (resolveVars_maintains heading.params).bind fun _ params =>
    (resolve_maintains heading.returns).bind fun _ result => .pure ⟨params, result⟩

theorem clash_silent {state : CheckState} {name : String} {kind : BindingKind}
    {error : CheckError} (clash : state.clash? name kind = some error) :
    error.Definite classes := by
  unfold CheckState.clash? at clash
  dsimp only at clash
  split at clash
  · split at clash <;> cases clash <;> exact .silent rfl rfl
  · split at clash
    · cases clash
      exact .silent rfl rfl
    · cases clash

theorem declare_maintains {type : ValueType} {kind : BindingKind} (name : Identifier)
    (among : Binding.Among classes
      { name := name.name, type, kind, span := some name.info.span }) :
    Maintains (CheckState.Among classes) (declare name type kind)
      fun declared => declared.1.name = name.name := by
  intro state kept
  cases clash : state.clash? name.name kind with
  | some error =>
      rw [declare_of_clash type clash]
      exact reportName_maintains (clash_silent clash) name state kept
  | none =>
      rw [declare_of_free type clash]
      exact ⟨rfl, (define_maintains among state kept).2⟩

theorem among_variable {type : ValueType} (among : type.Among classes) (name : String)
    (kind : BindingKind) (span : Option Span) :
    Binding.Among classes { name, type, kind, span } := by
  refine ⟨fun _ => among, fun params result same => ?_, fun _ _ => among⟩
  dsimp only at same
  rw [same] at among
  exact among.elim

theorem among_function {signature : Signature} (among : signature.Among classes) (name : String)
    (span : Option Span) :
    Binding.Among classes { name, type := signature.type, kind := .function, span } := by
  refine ⟨nofun, fun params result same => ?_, nofun⟩
  cases same
  exact among

theorem among_class (name : String) (other : String) (span : Option Span) :
    Binding.Among classes { name, type := .classType other, kind := .classDef, span } :=
  ⟨nofun, nofun, fun noClass => absurd rfl noClass⟩

theorem declareVar_maintains (var : TypedVar) :
    Maintains (CheckState.Among classes) (declareVar var) fun _ => True :=
  (resolveVar_maintains var).bind fun _ among =>
    (declare_maintains _ (among_variable among _ _ _)).bind fun _ _ => .pure trivial

theorem declareFunction_maintains (heading : FunctionHeading) :
    Maintains (CheckState.Among classes) (declareFunction heading) fun _ => True :=
  (resolveSignature_maintains heading).bind fun _ among =>
    (declare_maintains _ (among_function among _ _)).bind fun _ _ => .pure trivial

/-! ## Classes -/

theorem declareAttribute_maintains {info : ClassInfo} (members : info.Among classes)
    (var : TypedVar) :
    Maintains (CheckState.Among classes) (declareAttribute info var)
      fun declared => declared.1.Among classes :=
  (resolveVar_maintains var).bind fun _ among =>
    (declare_maintains _ (among_variable among _ _ _)).bind fun _ _ =>
    .ite (fun _ => .pure members) fun _ =>
    .ite (fun _ => (reportName_maintains (.silent rfl rfl) _).bind fun _ _ => .pure members)
      fun _ => .pure (members.addAttribute _ among)

theorem demandMethod_maintains (info : ClassInfo) (signature : Signature) (name : Identifier) :
    Maintains (CheckState.Among classes) (demandMethod info signature name) fun _ => True := by
  unfold demandMethod
  refine Maintains.get.bind fun state kept => ?_
  split
  · next error found =>
      refine (reportName_maintains ?_ name).mono fun _ _ => trivial
      unfold ClassHierarchy.methodError? at found
      split at found
      · cases found
        exact .silent rfl rfl
      split at found
      · cases found
        exact .silent rfl rfl
      split at found
      · split at found
        · cases found
        · cases found
          exact .silent rfl rfl
      · cases found
  · exact .pure trivial

theorem declareMethod_maintains {info : ClassInfo} (members : info.Among classes)
    (heading : FunctionHeading) :
    Maintains (CheckState.Among classes) (declareMethod info heading)
      fun declared => declared.1.Among classes := by
  rw [declareMethod_eq]
  exact (resolveSignature_maintains heading).bind fun resolved among =>
    (declare_maintains _ (among_function among _ _)).bind fun _ _ =>
    .ite (fun _ => .pure members) fun _ =>
    (demandMethod_maintains info resolved.2 _).bind fun _ _ => .pure (members.addMethod _ among)

theorem declareMembers_maintains {info : ClassInfo} (members : info.Among classes)
    (decls : List Decl) :
    Maintains (CheckState.Among classes) (declareMembers info decls)
      fun declared => declared.1.Among classes := by
  induction decls generalizing info with
  | nil => exact .pure members
  | cons decl rest ih =>
      have first : Maintains (CheckState.Among classes) (declareMember info decl)
          fun declared => declared.1.Among classes := by
        cases decl with
        | varDef _ var _ =>
            exact (declareAttribute_maintains members var).bind fun _ among => .pure among
        | funcDef _ heading _ _ _ =>
            exact (declareMethod_maintains members heading).bind fun _ among => .pure among
        | classDef _ _ _ _ | globalDecl _ _ | nonlocalDecl _ _ => exact .pure members
      rw [declareMembers_cons]
      exact first.bind fun _ among => (ih among).bind fun _ final => .pure final

theorem resolveSuperclass_maintains (superclass : Identifier) :
    Maintains (CheckState.Among classes) (resolveSuperclass superclass)
      fun resolved => resolved.2.Among classes := by
  unfold resolveSuperclass
  refine Maintains.get.bind fun state kept => ?_
  split
  · next info found => exact .pure (kept.hierarchy.listed _ info (find?_of_superclass found))
  · next error found =>
      have silent : error.Definite classes := by
        unfold CheckState.superclass at found
        split at found
        · cases found
          exact .silent rfl rfl
        split at found
        · cases found
        split at found <;> cases found <;> exact .silent rfl rfl
      refine (reportName_maintains silent superclass).bind fun _ _ => .pure ?_
      cases listed : state.hierarchy.find? "object" with
      | none => exact kept.hierarchy.object
      | some info => exact kept.hierarchy.listed _ info listed

theorem declareClass_maintains {name : Identifier} (listed : name.name ∈ classes)
    (superclass : Identifier) (members : List Decl) :
    Maintains (CheckState.Among classes) (declareClass name superclass members)
      fun _ => True := by
  unfold declareClass
  refine (resolveSuperclass_maintains superclass).bind fun (_, parent) inherits =>
    (declare_maintains name (among_class _ _ _)).bind fun (declared, bound) same => ?_
  have start : ClassInfo.Among classes
      { name := declared.name, superclass := some parent.name, attributes := parent.attributes,
        methods := parent.methods } :=
    ⟨same ▸ listed, by simpa using inherits.name, inherits.attributes, inherits.methods⟩
  refine (within_maintains (declareMembers_maintains start members) _ _).bind
    fun (info, headings) among => ?_
  cases bound with
  | false => exact .pure trivial
  | true =>
      refine fun state kept => ⟨trivial, ?_⟩
      exact ⟨kept.typeNames, kept.scope, kept.hierarchy.add among, kept.results, kept.problems⟩

theorem declareGlobals_maintains {decls : List Decl}
    (defined : ∀ decl ∈ decls, decl.DefinesAmong classes) :
    Maintains (CheckState.Among classes) (declareGlobals decls) fun _ => True := by
  induction decls with
  | nil => exact .pure trivial
  | cons decl rest ih =>
      obtain ⟨first, others⟩ := List.forall_mem_cons.mp defined
      have single : Maintains (CheckState.Among classes) (declareGlobal decl) fun _ => True := by
        cases decl with
        | varDef _ var _ => exact (declareVar_maintains var).bind fun _ _ => .pure trivial
        | funcDef _ heading _ _ _ =>
            exact (declareFunction_maintains heading).bind fun _ _ => .pure trivial
        | classDef _ name superclass members =>
            exact declareClass_maintains first superclass members
        | globalDecl _ _ | nonlocalDecl _ _ => exact .pure trivial
      exact single.bind fun _ _ => (ih others).bind fun _ _ => .pure trivial

/-! ## Functions -/

theorem declareOuter_maintains {found : Option Binding}
    (among : ∀ binding ∈ found, binding.Among classes) {allowed : List BindingKind}
    (readable : ∀ kind ∈ allowed, kind.isVariable) {kind : BindingKind} {error : CheckError}
    (silent : error.Definite classes) (info : NodeInfo) (name : Identifier) :
    Maintains (CheckState.Among classes) (declareOuter found allowed kind error info name)
      fun _ => True := by
  unfold declareOuter
  split
  · exact (report_maintains silent info).bind fun _ _ => .pure trivial
  · next binding shape =>
      obtain ⟨bound, suits⟩ := Option.filter_eq_some_iff.mp shape
      have value := (among binding bound).value (readable _ (by simpa using suits))
      exact (declare_maintains name (among_variable value _ _ _)).bind fun _ _ => .pure trivial

theorem declareLocal_maintains (decl : Decl) :
    Maintains (CheckState.Among classes) (declareLocal decl) fun _ => True := by
  cases decl with
  | varDef _ var _ => exact (declareVar_maintains var).bind fun _ _ => .pure trivial
  | funcDef _ heading _ _ _ =>
      exact (declareFunction_maintains heading).bind fun _ _ => .pure trivial
  | classDef _ _ _ _ => exact .pure trivial
  | globalDecl info name =>
      refine Maintains.view.bind ?_
      rintro _ ⟨state, kept, rfl⟩
      exact declareOuter_maintains (fun _ bound => Scope.All.lookupGlobal kept.scope bound)
        (by decide) (.silent rfl rfl) info name
  | nonlocalDecl info name =>
      refine Maintains.view.bind ?_
      rintro _ ⟨state, kept, rfl⟩
      exact declareOuter_maintains (fun _ bound => Scope.All.lookupNonlocal kept.scope bound)
        (by decide) (.silent rfl rfl) info name

theorem declareLocals_maintains (decls : List Decl) :
    Maintains (CheckState.Among classes) (declareLocals decls) fun _ => True := by
  induction decls with
  | nil => exact .pure trivial
  | cons decl rest ih =>
      exact (declareLocal_maintains decl).bind fun _ _ => ih.bind fun _ _ => .pure trivial

theorem declareParams_maintains (vars : List TypedVar) {types : List ValueType}
    (among : ∀ type ∈ types, type.Among classes) :
    Maintains (CheckState.Among classes) (declareParams vars types) fun _ => True := by
  induction vars generalizing types with
  | nil =>
      unfold declareParams
      exact .pure trivial
  | cons var rest ih =>
      cases types with
      | nil =>
          unfold declareParams
          exact .pure trivial
      | cons type types =>
          obtain ⟨first, others⟩ := List.forall_mem_cons.mp among
          unfold declareParams
          exact (declare_maintains _ (among_variable first _ _ _)).bind fun _ _ =>
            (ih others).bind fun _ _ => .pure trivial

theorem returning_maintains {α : Type} {result : ValueType} (among : result.Among classes)
    {inner : Check α} {good : α → Prop}
    (maintains : Maintains (CheckState.Among classes) inner good) :
    Maintains (CheckState.Among classes) (returning result inner) good := by
  intro state kept
  have results : ∀ type ∈ result :: state.results, type.Among classes :=
    List.forall_mem_cons.mpr ⟨among, kept.results⟩
  obtain ⟨holds, after⟩ := maintains { state with results := result :: state.results }
    ⟨kept.typeNames, kept.scope, kept.hierarchy, results, kept.problems⟩
  exact ⟨holds, after.typeNames, after.scope, after.hierarchy,
    fun type left => after.results type (List.mem_of_mem_tail left), after.problems⟩

theorem demandReturn_maintains (result : ValueType) (statements : List Stmt) (recovered : Bool)
    (name : Identifier) :
    Maintains (CheckState.Among classes) (demandReturn result statements recovered name)
      fun _ => True := by
  unfold demandReturn
  refine Maintains.get.bind fun state kept => .ite (fun _ => ?_) fun _ => .pure trivial
  exact (reportName_maintains (.silent rfl rfl) name).mono fun _ _ => trivial

theorem checkVarDef_maintains (info : NodeInfo) (var : TypedVar) (value : Expr) :
    Maintains (CheckState.Among classes) (checkVarDef info var value) fun _ => True :=
  (resolveVar_maintains var).bind fun _ among => (infer_maintains.1 value).bind fun _ among' =>
    (demandFit_maintains among among' info).bind fun _ _ => .pure trivial

/-! ## Bodies -/

theorem checkBody_maintains (heading : FunctionHeading) {signature : Signature}
    (among : signature.Among classes) {declarations : List Decl} (statements : List Stmt)
    (inner : ∀ headings, Maintains (CheckState.Among classes) (checkDecls declarations headings)
      fun _ => True) :
    Maintains (CheckState.Among classes) (checkBody heading signature declarations statements)
      fun _ => True := by
  refine within_maintains ((declareParams_maintains _ among.params).bind fun params _ => ?_) _ _
  refine (declareLocals_maintains declarations).bind fun headings _ =>
    returning_maintains among.result ?_
  exact (inner headings).bind fun _ _ => (checkStmt_maintains.2 statements).bind fun _ _ =>
    .pure trivial

/-- Checking bodies finds definite problems only. -/
theorem checkDecl_maintains :
    (∀ decl heading, Maintains (CheckState.Among classes) (checkDecl decl heading)
      fun _ => True) ∧
    ∀ decls headings, Maintains (CheckState.Among classes) (checkDecls decls headings)
      fun _ => True := by
  apply checkDecl_induction
  case varDef =>
    intro info var value heading
    unfold checkDecl
    exact checkVarDef_maintains info heading value
  case funcDef =>
    intro info heading declarations statements recovered heading' inner
    rw [checkDecl_function]
    exact (resolveSignature_maintains heading').bind fun resolved among =>
      (checkBody_maintains resolved.1 among statements inner).bind fun _ _ =>
        (demandReturn_maintains _ _ _ _).bind fun _ _ => .pure trivial
  case classDef =>
    intro info name superclass declarations name' superclass' members inner
    unfold checkDecl
    exact inner.bind fun _ _ => .pure trivial
  case globalDecl | nonlocalDecl =>
    intros
    unfold checkDecl
    exact .pure trivial
  case mismatch =>
    intro decl heading same
    rw [same]
    exact .pure trivial
  case cons =>
    intro decl rest heading headings first others
    unfold checkDecls
    exact first.bind fun _ _ => others.bind fun _ _ => .pure trivial
  case exhausted =>
    intro decls headings same
    rw [same]
    exact .pure trivial

end Check
end ChocoLang
