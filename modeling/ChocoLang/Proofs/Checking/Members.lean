import ChocoLang.Proofs.Checking.Effects

/-!
# Members of a class

The members of a class are declared one after the other.  A member does nothing about other names
than its own, and a name that is bound stays as it is.  So what becomes of a method is decided
where it is declared, and until then the class has what its superclass has under that name.
-/

namespace ChocoLang

/-- The name that a declaration in the body of a class binds. -/
def Decl.memberName? : Decl → Option String
  | .varDef _ var _ => some var.identifier.name
  | .funcDef _ heading _ _ _ => some heading.name.name
  | _ => none

/-- A name means the same in the innermost frame of both states, and the classes are the same. -/
structure CheckState.Keeps (name : String) (before after : CheckState) : Prop where
  /-- The name is bound to the same. -/
  bound : after.scope.current.find? name = before.scope.current.find? name
  /-- The frame belongs to the same. -/
  kind : after.scope.current.kind = before.scope.current.kind
  /-- The classes are the same. -/
  hierarchy : after.hierarchy = before.hierarchy

instance (name : String) : Effect (CheckState.Keeps name) where
  ofReported := by
    rintro _ _ ⟨found, rfl⟩
    exact ⟨rfl, rfl, rfl⟩
  trans first second :=
    ⟨second.bound.trans first.bound, second.kind.trans first.kind,
      second.hierarchy.trans first.hierarchy⟩

/-- Both are the same class, and they have the same members of a name. -/
structure ClassInfo.Keeps (name : String) (before after : ClassInfo) : Prop where
  /-- The attribute of the name is the same. -/
  attributes : after.attributes.find? name = before.attributes.find? name
  /-- The method of the name is the same. -/
  methods : after.methods.find? name = before.methods.find? name

theorem ClassInfo.Keeps.refl (name : String) (info : ClassInfo) : info.Keeps name info := ⟨rfl, rfl⟩

/-- What a member may do to its class and to the frame of the class. -/
inductive MemberStep (member? : Option String) (info : ClassInfo) (state : CheckState) :
    ClassInfo → CheckState → Prop where
  /-- It is refused, or it has no name. -/
  | refused {after : CheckState} (reported : state.Reported after) :
      MemberStep member? info state info after
  /-- Its name is bound. -/
  | bound {member : String} {own : ClassInfo} {after : CheckState} (same : member? = some member)
      (free : state.scope.current.find? member = none)
      (named : own.name = info.name) (superclass : own.superclass = info.superclass)
      (members : ∀ name, name ≠ member → info.Keeps name own)
      (frame : ∀ name, name ≠ member → state.Keeps name after) :
      MemberStep member? info state own after

/-! ## Written types -/

/-- The type that a written type stands for, given the names that it may consist of. -/
def WrittenType.resolved (names : List String) : WrittenType → ValueType
  | named _ name =>
    if name = ValueType.none.display then .none
    else if names.contains name then .classType name
    else .unknown
  | list _ element => .list (element.resolved names)

/-- The signature that the heading of a function stands for. -/
def FunctionHeading.resolved (names : List String) (heading : FunctionHeading) : Signature :=
  { params := heading.params.map (·.written.resolved names)
    result := heading.returns.resolved names }

namespace Check

theorem typeNames_of_reported {before after : CheckState} (reported : before.Reported after) :
    after.typeNames = before.typeNames := by
  obtain ⟨found, rfl⟩ := reported
  rfl

theorem resolve_type (written : WrittenType) (state : CheckState) :
    (resolve written state).1.2 = written.resolved state.typeNames := by
  induction written with
  | named info name =>
      simp only [resolve, bind_apply, get_apply]
      unfold CheckState.namedType? WrittenType.resolved
      split
      · rfl
      split <;> rfl
  | list info element ih => exact congrArg ValueType.list ih

theorem resolveVars_types (vars : List TypedVar) (state : CheckState) :
    (resolveVars vars state).1.2 = vars.map (·.written.resolved state.typeNames) := by
  induction vars generalizing state with
  | nil => rfl
  | cons var rest ih =>
      have kept := typeNames_of_reported (Has.ran (resolve var.written) state)
      change (resolve var.written state).1.2 ::
        (resolveVars rest (resolve var.written state).2).1.2 = _
      rw [resolve_type, ih, kept]
      rfl

theorem resolveSignature_signature (heading : FunctionHeading) (state : CheckState) :
    (resolveSignature heading state).1.2 = heading.resolved state.typeNames := by
  have kept := typeNames_of_reported (Has.ran (resolveVars heading.params) state)
  change Signature.mk (resolveVars heading.params state).1.2
    (resolve heading.returns (resolveVars heading.params state).2).1.2 = _
  rw [resolveVars_types, resolve_type, kept]
  rfl

/-! ## Single members -/

theorem keeps_define {name : String} (state : CheckState) (binding : Binding)
    (other : name ≠ binding.name) :
    state.Keeps name { state with scope := state.scope.define binding } := by
  have differ : (name == binding.name) = false := by simpa using other
  refine ⟨?_, ?_, rfl⟩
  · rw [Scope.current_define, Frame.find?_define, differ]
    rfl
  · rw [Scope.current_define, Frame.kind_define]

theorem find?_of_reported {before after : CheckState} (reported : before.Reported after)
    {name : String} (free : after.scope.current.find? name = none) :
    before.scope.current.find? name = none := by
  obtain ⟨found, rfl⟩ := reported
  exact free

theorem keeps_of_reported {name : String} {before after : CheckState}
    (reported : before.Reported after) : before.Keeps name after :=
  Effect.ofReported reported

theorem declareAttribute_step (info : ClassInfo) (var : TypedVar) (state : CheckState) :
    MemberStep (some var.identifier.name) info state (declareAttribute info var state).1.1
      (declareAttribute info var state).2 := by
  have resolved : state.Reported (resolveVar var state).2 := Has.ran (resolveVar var) state
  simp only [declareAttribute, bind_apply]
  rw [show (resolveVar var state).1.1.identifier = var.identifier from rfl]
  generalize (resolveVar var state).1.2 = type
  generalize (resolveVar var state).2 = between at resolved
  cases clash : between.clash? var.identifier.name .ownVariable with
  | some error =>
      rw [declare_of_clash type clash]
      exact .refused (Effect.trans resolved (Has.ran (reportName error var.identifier) between))
  | none =>
      have free := find?_of_reported resolved (CheckState.unbound_of_clash? clash)
      rw [declare_of_free type clash]
      simp only [Bool.not_true, Bool.false_eq_true, if_false]
      have defined (name : String) (other : name ≠ var.identifier.name) :=
        Effect.trans (keeps_of_reported resolved) (keeps_define between
          { name := var.identifier.name, type, kind := .ownVariable
            span := some var.identifier.info.span } other)
      split
      · exact .bound rfl free rfl rfl (fun name _ => .refl name info) fun name other =>
          Effect.trans (defined name other) (Has.ran (reportName _ var.identifier) _)
      · refine .bound rfl free rfl rfl (fun name other => ⟨?_, rfl⟩) defined
        have differ : (name == var.identifier.name) = false := by simpa using other
        change (info.attributes.insert var.identifier.name type).find? name = _
        rw [Table.find?_insert, differ]
        rfl

theorem name_demandMethod (info : ClassInfo) (signature : Signature) (identifier : Identifier)
    (state : CheckState) :
    (demandMethod info signature identifier state).1.name = identifier.name := by
  simp only [demandMethod, bind_apply, get_apply]
  cases state.hierarchy.methodError? info identifier.name signature <;> rfl

theorem declareMethod_step (info : ClassInfo) (heading : FunctionHeading) (state : CheckState) :
    MemberStep (some heading.name.name) info state (declareMethod info heading state).1.1
      (declareMethod info heading state).2 := by
  have resolved : state.Reported (resolveSignature heading state).2 :=
    Has.ran (resolveSignature heading) state
  rw [declareMethod_eq]
  simp only [bind_apply]
  rw [show (resolveSignature heading state).1.1.name = heading.name from rfl]
  generalize (resolveSignature heading state).1.2 = signature
  generalize (resolveSignature heading state).2 = between at resolved
  cases clash : between.clash? heading.name.name .function with
  | some error =>
      rw [declare_of_clash signature.type clash]
      exact .refused (Effect.trans resolved (Has.ran (reportName error heading.name) between))
  | none =>
      have free := find?_of_reported resolved (CheckState.unbound_of_clash? clash)
      rw [declare_of_free signature.type clash]
      simp only [Bool.not_true, Bool.false_eq_true, if_false]
      refine .bound rfl free rfl rfl (fun name other => ⟨rfl, ?_⟩) fun name other =>
        Effect.trans (Effect.trans (keeps_of_reported resolved) (keeps_define between
          { name := heading.name.name, type := signature.type, kind := .function
            span := some heading.name.info.span } other))
          (Has.ran (demandMethod info signature heading.name) _)
      have differ : (name == heading.name.name) = false := by simpa using other
      change (info.methods.insert (demandMethod info signature heading.name _).1.name
        signature).find? name = _
      rw [name_demandMethod, Table.find?_insert, differ]
      rfl

theorem declareMember_step (info : ClassInfo) (decl : Decl) (state : CheckState) :
    MemberStep decl.memberName? info state (declareMember info decl state).1.1
      (declareMember info decl state).2 := by
  cases decl with
  | varDef _ var _ => exact declareAttribute_step info var state
  | funcDef _ heading _ _ _ => exact declareMethod_step info heading state
  | classDef _ _ _ _ | globalDecl _ _ | nonlocalDecl _ _ => exact .refused (Effect.refl state)

end Check

namespace MemberStep

variable {member? : Option String} {info own : ClassInfo} {state after : CheckState}

theorem named (step : MemberStep member? info state own after) : own.name = info.name := by
  cases step with
  | refused _ => rfl
  | bound _ _ named _ _ _ => exact named

theorem superclass (step : MemberStep member? info state own after) :
    own.superclass = info.superclass := by
  cases step with
  | refused _ => rfl
  | bound _ _ _ superclass _ _ => exact superclass

/-- A step does nothing about a name that is not its own or that is bound already. -/
theorem keeps {name : String} (step : MemberStep member? info state own after)
    (spared : member? ≠ some name ∨ (state.scope.current.find? name).isSome) :
    info.Keeps name own ∧ state.Keeps name after := by
  cases step with
  | refused reported => exact ⟨.refl name info, Check.keeps_of_reported reported⟩
  | @bound member _ _ same free _ _ members frame =>
      have other : name ≠ member := by
        rintro rfl
        rcases spared with differ | bound
        · exact differ same
        · rw [free] at bound
          cases bound
      exact ⟨members name other, frame name other⟩

end MemberStep

namespace Check

/-! ## All members -/

theorem declareMembers_named (info : ClassInfo) (decls : List Decl) (state : CheckState) :
    (declareMembers info decls state).1.1.name = info.name ∧
      (declareMembers info decls state).1.1.superclass = info.superclass := by
  induction decls generalizing info state with
  | nil => exact ⟨rfl, rfl⟩
  | cons decl rest ih =>
      have step := declareMember_step info decl state
      obtain ⟨named, superclass⟩ := ih (declareMember info decl state).1.1
        (declareMember info decl state).2
      rw [declareMembers_cons]
      exact ⟨named.trans step.named, superclass.trans step.superclass⟩

/-- Members do nothing about a name that is none of theirs or that is bound already. -/
theorem declareMembers_keeps {name : String} (info : ClassInfo) (decls : List Decl)
    (state : CheckState)
    (spared : (∀ decl ∈ decls, decl.memberName? ≠ some name) ∨
      (state.scope.current.find? name).isSome) :
    info.Keeps name (declareMembers info decls state).1.1 ∧
      state.Keeps name (declareMembers info decls state).2 := by
  induction decls generalizing info state with
  | nil => exact ⟨.refl name info, Effect.refl state⟩
  | cons decl rest ih =>
      have step := declareMember_step info decl state
      obtain ⟨members, frame⟩ := step.keeps (spared.imp_left fun others =>
        others decl List.mem_cons_self)
      obtain ⟨laterMembers, laterFrame⟩ := ih (declareMember info decl state).1.1
        (declareMember info decl state).2 <| by
          rw [frame.bound]
          exact spared.imp_left fun others other among =>
            others other (List.mem_cons_of_mem _ among)
      rw [declareMembers_cons]
      exact ⟨⟨laterMembers.attributes.trans members.attributes,
        laterMembers.methods.trans members.methods⟩, Effect.trans frame laterFrame⟩

/-- The members before one and those behind it are declared on their own. -/
theorem declareMembers_append (info : ClassInfo) (front back : List Decl) (state : CheckState) :
    declareMembers info (front ++ back) state =
      let first := declareMembers info front state
      let second := declareMembers first.1.1 back first.2
      ((second.1.1, first.1.2 ++ second.1.2), second.2) := by
  induction front generalizing info state with
  | nil => rfl
  | cons decl rest ih =>
      rw [List.cons_append, declareMembers_cons, declareMembers_cons]
      simp only [bind_apply]
      rw [ih]
      rfl

theorem length_declareMembers (info : ClassInfo) (decls : List Decl) (state : CheckState) :
    (declareMembers info decls state).1.2.length = decls.length := by
  induction decls generalizing info state with
  | nil => rfl
  | cons decl rest ih =>
      rw [declareMembers_cons]
      exact congrArg (· + 1) (ih _ _)

/-! ## Methods -/

theorem error_demandMethod (info : ClassInfo) (signature : Signature) {identifier : Identifier}
    (fresh : identifier.info.error = none) (state : CheckState) :
    (demandMethod info signature identifier state).1.info.error =
      (state.hierarchy.methodError? info identifier.name signature).map CheckError.message := by
  simp only [demandMethod, bind_apply, get_apply]
  cases state.hierarchy.methodError? info identifier.name signature with
  | none => exact fresh
  | some error => exact reportName_error fresh state

/-- A method whose name is free is added to its class and checked against it. -/
theorem declareMethod_of_free (info : ClassInfo) {heading : FunctionHeading}
    (fresh : heading.name.info.error = none) {state : CheckState}
    (ofClass : state.scope.current.kind = .classBody)
    (free : state.scope.current.find? heading.name.name = none) :
    (declareMethod info heading state).1.1.methods.find? heading.name.name =
        some (heading.resolved state.typeNames) ∧
      ((declareMethod info heading state).2.scope.current.find? heading.name.name).isSome ∧
      (declareMethod info heading state).1.2.name.info.error =
        (state.hierarchy.methodError? info heading.name.name
          (heading.resolved state.typeNames)).map CheckError.message := by
  have resolved : state.Reported (resolveSignature heading state).2 :=
    Has.ran (resolveSignature heading) state
  rw [declareMethod_eq]
  simp only [bind_apply]
  rw [show (resolveSignature heading state).1.1.name = heading.name from rfl,
    resolveSignature_signature]
  generalize heading.resolved state.typeNames = signature
  generalize (resolveSignature heading state).2 = between at resolved
  obtain ⟨found, rfl⟩ := resolved
  have noClash : CheckState.clash? { state with problems := state.problems ++ found }
      heading.name.name .function = none := by
    simp [CheckState.clash?, free, ofClass]
  rw [declare_of_free signature.type noClash]
  simp only [Bool.not_true, Bool.false_eq_true, if_false]
  refine ⟨?_, ?_, ?_⟩
  · change (info.methods.insert (demandMethod info signature heading.name _).1.name
      signature).find? heading.name.name = _
    rw [name_demandMethod, Table.find?_insert, beq_self_eq_true]
    rfl
  · have kept (before : CheckState) : before.Keeps heading.name.name
        (demandMethod info signature heading.name before).2 := Has.ran _ _
    change ((demandMethod info signature heading.name _).2.scope.current.find? _).isSome
    rw [(kept _).bound, Scope.current_define, Frame.find?_define, beq_self_eq_true]
    rfl
  · exact error_demandMethod info signature fresh _

theorem methodError?_congr (hierarchy : ClassHierarchy) {info own : ClassInfo} {name : String}
    (named : own.name = info.name) (keeps : info.Keeps name own) (signature : Signature) :
    hierarchy.methodError? own name signature = hierarchy.methodError? info name signature := by
  unfold ClassHierarchy.methodError? ClassInfo.type Table.contains
  rw [named, keeps.attributes, keeps.methods]

/-- The first member of a name, if it is a method, is checked against what is inherited. -/
theorem declareMembers_method (info : ClassInfo) {decls front back locals : List Decl}
    {node : NodeInfo} {heading : FunctionHeading} {body : List Stmt} {recovered : Bool}
    (parts : decls = front ++ .funcDef node heading locals body recovered :: back)
    (fresh : heading.name.info.error = none)
    (first : ∀ decl ∈ front, decl.memberName? ≠ some heading.name.name) (state : CheckState)
    (ofClass : state.scope.current.kind = .classBody)
    (free : state.scope.current.find? heading.name.name = none) :
    let ran := declareMembers info decls state
    let signature := heading.resolved state.typeNames
    ∃ checked,
      ran.1.1.methods.find? heading.name.name = some signature ∧
      ran.1.2[front.length]? = some (.function checked) ∧
      checked.name.info.error =
        (state.hierarchy.methodError? info heading.name.name signature).map CheckError.message := by
  obtain ⟨members, frame⟩ := declareMembers_keeps info front state (.inl first)
  have named := (declareMembers_named info front state).1
  have counted := length_declareMembers info front state
  have names : (declareMembers info front state).2.typeNames = state.typeNames := by
    obtain ⟨_, _, after⟩ : state.Defined (declareMembers info front state).2 := Has.ran _ state
    rw [after]
  rw [parts, declareMembers_append]
  dsimp only
  generalize declareMembers info front state = before at members frame named counted names
  rw [declareMembers_cons]
  obtain ⟨own, bound, error⟩ := declareMethod_of_free before.1.1 fresh
    (frame.kind.trans ofClass) (frame.bound.trans free)
  rw [names] at own error
  refine ⟨(declareMethod before.1.1 heading before.2).1.2, ?_, ?_, ?_⟩
  · exact (declareMembers_keeps _ back _ (.inr bound)).1.methods.trans own
  · rw [← counted, List.getElem?_append_right (Nat.le_refl _), Nat.sub_self]
    rfl
  · rw [error, frame.hierarchy, methodError?_congr _ named members]

end Check
end ChocoLang
