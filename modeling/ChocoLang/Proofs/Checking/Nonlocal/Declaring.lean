import ChocoLang.Proofs.Checking.Nonlocal.Meaning

/-!
# Declaring names in functions

Each declaration in a function says something about its name.  It is followed if the name is free
and what it refers to is a variable; otherwise it is reported, and the name means what it did.
-/

namespace ChocoLang

namespace CheckState.Shows

variable {scoping : Scoping} {roles : Roles} {around : List Roles} {state : CheckState}

/-- Roles that give every name the same meaning are shown by the same state. -/
theorem congr {roles' : Roles} (shows : state.Shows scoping (roles :: around))
    (same : ∀ name, scoping.bound? name (scoping.meaning? name around) roles' =
      scoping.bound? name (scoping.meaning? name around) roles) :
    state.Shows scoping (roles' :: around) := by
  obtain ⟨⟨frames, outermost⟩, _⟩ := state
  obtain ⟨functions, program, classNames, typeNames⟩ := shows
  refine ⟨?_, program, classNames, typeNames⟩
  cases functions with
  | cons kind own rest => exact .cons kind (fun name => (own name).trans (same name).symm) rest

/-- A name can be bound in a function if it is neither bound in it nor that of a class. -/
theorem clash?_eq_none_iff (shows : state.Shows scoping (roles :: around)) (name : String)
    (kind : BindingKind) : state.clash? name kind = none ↔
      scoping.bound? name (scoping.meaning? name around) roles = none ∧
        name ∉ scoping.classNames := by
  obtain ⟨⟨frames, outermost⟩, _⟩ := state
  obtain ⟨functions, program, classNames, typeNames⟩ := shows
  cases functions with
  | @cons frame _ _ _ ofFunction own rest =>
      have bound : (frame.find? name).map Binding.meaning =
        scoping.bound? name (scoping.meaning? name around) roles := own name
      rw [← bound, ← classNames]
      simp only [CheckState.clash?, Scope.current, List.headD_cons, ofFunction]
      cases frame.find? name with
      | none => simp
      | some existing =>
          simp only [Option.map_some, reduceCtorEq, false_and, iff_false]
          split <;> simp

/-- A name that is free is bound in the frame on top. -/
theorem define (shows : state.Shows scoping (roles :: around)) {roles' : Roles} (binding : Binding)
    (own : scoping.bound? binding.name (scoping.meaning? binding.name around) roles' =
      some binding.meaning)
    (others : ∀ name, name ≠ binding.name →
      scoping.bound? name (scoping.meaning? name around) roles' =
        scoping.bound? name (scoping.meaning? name around) roles) :
    ({ state with scope := state.scope.define binding } : CheckState).Shows scoping
      (roles' :: around) := by
  obtain ⟨⟨frames, outermost⟩, _⟩ := state
  obtain ⟨functions, program, classNames, typeNames⟩ := shows
  refine ⟨?_, ?_, classNames, typeNames⟩ <;> cases functions with
  | cons kind shows rest => ?_
  · exact .cons kind (shows.define binding own others) rest
  · exact program

end CheckState.Shows

namespace Check

variable {scoping : Scoping} {roles : Roles} {around : List Roles} {state : CheckState}
  {name : Identifier} {type : ValueType} {kind : BindingKind} {role : Role}

/-! ## Names -/

/-- A declaration that cannot be followed leaves every name with its meaning. -/
theorem shows_of_unmeant (shows : state.Shows scoping (roles :: around)) {name : String}
    (unmeant : role.meaning? (scoping.global? name) (scoping.meaning? name around) = none) :
    state.Shows scoping ((roles ++ [(name, role)]) :: around) := by
  refine shows.congr fun other => ?_
  rw [Scoping.bound?_append_one]
  split
  · next same =>
      obtain ⟨rfl, -⟩ := same
      rw [unmeant, Option.or_none]
  · exact Option.or_none

/-- Where a name is declared it means what the first declaration of it says. -/
theorem declare_shows (shows : state.Shows scoping (roles :: around))
    (meant : role.meaning? (scoping.global? name.name) (scoping.meaning? name.name around) =
      some ⟨kind, type⟩) :
    (declare name type kind state).2.Shows scoping ((roles ++ [(name.name, role)]) :: around) := by
  have free := shows.clash?_eq_none_iff name.name kind
  cases clash : state.clash? name.name kind with
  | some error =>
      rw [declare_of_clash type clash]
      refine CheckState.Shows.congr (shows.reported (Has.ran (reportName error name) state))
        fun other => ?_
      rw [Scoping.bound?_append_one]
      split
      · next same =>
          obtain ⟨rfl, noClass⟩ := same
          cases bound : scoping.bound? name.name (scoping.meaning? name.name around) roles with
          | none => cases clash.symm.trans (free.mpr ⟨bound, noClass⟩)
          | some meaning => rfl
      · exact Option.or_none
  | none =>
      rw [declare_of_free type clash]
      obtain ⟨unbound, noClass⟩ := free.mp clash
      refine shows.define _ ?_ fun other differ => ?_
      · rw [Scoping.bound?_append_one]
        simp [unbound, noClass, meant, Binding.meaning]
      · rw [Scoping.bound?_append_one]
        simp [Ne.symm differ]

theorem declare_own_shows (shows : state.Shows scoping (roles :: around)) (name : Identifier)
    (type : ValueType) (kind : BindingKind) :
    (declare name type kind state).2.Shows scoping
      ((roles ++ [(name.name, .own ⟨kind, type⟩)]) :: around) :=
  declare_shows shows rfl

/-- A reference is followed if it is to a variable of an allowed kind. -/
theorem referred?_meaning (found : Option Binding) (allowed : List BindingKind)
    (kind : BindingKind) :
    (found.map Binding.meaning).bind (Meaning.referred? allowed kind) =
      (found.filter fun binding => allowed.contains binding.kind).map fun binding =>
        ⟨kind, binding.type⟩ := by
  cases found with
  | none => rfl
  | some binding =>
      simp only [Option.map_some, Option.bind_some, Meaning.referred?, Binding.meaning,
        Option.filter_some]
      split <;> rfl

theorem declareOuter_shows (shows : state.Shows scoping (roles :: around)) {found : Option Binding}
    {allowed : List BindingKind} {error : CheckError} {info : NodeInfo}
    (meant : role.meaning? (scoping.global? name.name) (scoping.meaning? name.name around) =
      (found.map Binding.meaning).bind (Meaning.referred? allowed kind)) :
    (declareOuter found allowed kind error info name state).2.Shows scoping
      ((roles ++ [(name.name, role)]) :: around) := by
  rw [referred?_meaning] at meant
  unfold declareOuter
  cases among : found.filter fun binding => allowed.contains binding.kind with
  | none =>
      rw [among] at meant
      exact (shows_of_unmeant shows meant).reported (Has.ran (report error info) state)
  | some binding =>
      rw [among] at meant
      exact declare_shows shows meant

/-! ## Declarations -/

theorem declareVar_shows (shows : state.Shows scoping (roles :: around)) (var : TypedVar) :
    (declareVar var state).2.Shows scoping
      ((roles ++ [var.role scoping.classNames .ownVariable]) :: around) := by
  have resolved := shows.reported (Has.ran (resolveVar var) state)
  have type : (resolveVar var state).1.2 = var.written.resolved state.typeNames :=
    resolve_type var.written state
  rw [TypedVar.role, ← shows.typeNames, ← type]
  exact declare_own_shows resolved var.identifier _ _

theorem declareFunction_shows (shows : state.Shows scoping (roles :: around))
    (heading : FunctionHeading) :
    (declareFunction heading state).2.Shows scoping ((roles ++ [(heading.name.name,
      .own ⟨.function, (heading.resolved scoping.classNames).type⟩)]) :: around) := by
  have resolved := shows.reported (Has.ran (resolveSignature heading) state)
  rw [← shows.typeNames, ← resolveSignature_signature heading state]
  exact declare_own_shows resolved heading.name _ _

theorem declareLocal_shows (shows : state.Shows scoping (roles :: around)) {decl : Decl}
    (wellFormed : decl.WellFormed .ofFunction) :
    (declareLocal decl state).2.Shows scoping
      ((roles ++ [decl.role scoping.classNames]) :: around) := by
  cases decl with
  | varDef _ var _ => exact declareVar_shows shows var
  | funcDef _ heading _ _ _ => exact declareFunction_shows shows heading
  | classDef => exact absurd wellFormed.1 (by decide)
  | globalDecl info name =>
      refine declareOuter_shows shows ?_
      rw [shows.lookupGlobal]
      rfl
  | nonlocalDecl info name =>
      refine declareOuter_shows shows ?_
      rw [shows.lookupNonlocal]
      rfl

theorem declareLocals_shows (shows : state.Shows scoping (roles :: around)) {decls : List Decl}
    (wellFormed : ∀ decl ∈ decls, decl.WellFormed .ofFunction) :
    (declareLocals decls state).2.Shows scoping
      ((roles ++ decls.map (Decl.role scoping.classNames)) :: around) := by
  induction decls generalizing roles state with
  | nil =>
      rw [List.map_nil, List.append_nil]
      exact shows
  | cons decl rest ih =>
      obtain ⟨first, others⟩ := List.forall_mem_cons.mp wellFormed
      have after := ih (declareLocal_shows shows first) others
      rwa [List.append_assoc] at after

theorem declareParams_shows (shows : state.Shows scoping (roles :: around))
    (vars : List TypedVar) :
    (declareParams vars (vars.map (·.written.resolved scoping.classNames)) state).2.Shows scoping
      ((roles ++ vars.map (TypedVar.role scoping.classNames .parameter)) :: around) := by
  induction vars generalizing roles state with
  | nil =>
      unfold declareParams
      rw [List.map_nil, List.append_nil]
      exact shows
  | cons var rest ih =>
      have after := ih (declare_own_shows shows var.identifier
        (var.written.resolved scoping.classNames) .parameter)
      unfold declareParams
      rwa [List.append_assoc] at after

end Check

/-!
## What names mean at the top level

The functions and classes that are present in every program are bound first, and then what the
program declares, in the order of the text; a name that is bound keeps what it means.  So behind the
first pass the outermost frame binds just the names that have a meaning outside of all functions.
-/

/-- The state between two declarations at the top level shows what the names before mean. -/
structure CheckState.ShowsProgram (names : List String) (roles : Roles) (state : CheckState) :
    Prop where
  /-- There is no frame but the outermost one. -/
  inner : state.scope.inner = []
  /-- The outermost frame is that of the program. -/
  kind : state.scope.outermost.kind = .program
  /-- The frame shows what the names mean. -/
  shows : state.scope.outermost.Shows fun name => roles.meaning? name none none
  /-- The names of the classes are known. -/
  classNames : state.classNames = names
  /-- Written types consist of the names of classes. -/
  typeNames : state.typeNames = names

namespace CheckState.ShowsProgram

variable {names : List String} {roles : Roles} {state : CheckState}

theorem reported {after : CheckState} (shows : state.ShowsProgram names roles)
    (reported : state.Reported after) : after.ShowsProgram names roles := by
  obtain ⟨found, rfl⟩ := reported
  exact ⟨shows.inner, shows.kind, shows.shows, shows.classNames, shows.typeNames⟩

/-- A name can be bound at the top level if it is not bound there. -/
theorem clash?_eq_none_iff (shows : state.ShowsProgram names roles) (name : String)
    (kind : BindingKind) :
    state.clash? name kind = none ↔ roles.meaning? name none none = none := by
  have bound : (state.scope.outermost.find? name).map Binding.meaning =
    roles.meaning? name none none := shows.shows name
  rw [← bound]
  simp only [CheckState.clash?, Scope.current, shows.inner, List.headD_nil, shows.kind]
  cases state.scope.outermost.find? name with
  | none => simp
  | some existing =>
      simp only [Option.map_some, reduceCtorEq, iff_false]
      split <;> simp

end CheckState.ShowsProgram

namespace Check

variable {names : List String} {roles : Roles} {state : CheckState}

theorem declare_showsProgram (shows : state.ShowsProgram names roles) (name : Identifier)
    (type : ValueType) (kind : BindingKind) :
    (declare name type kind state).2.ShowsProgram names
      (roles ++ [(name.name, .own ⟨kind, type⟩)]) := by
  have free := shows.clash?_eq_none_iff name.name kind
  have others {name other : String} (differ : name ≠ other) {role : Role} :
      Roles.meaning? (roles ++ [(other, role)]) name none none = roles.meaning? name none none := by
    rw [Roles.meaning?_append_one, if_neg (Ne.symm differ), Option.or_none]
  cases clash : state.clash? name.name kind with
  | some error =>
      rw [declare_of_clash type clash]
      have after := shows.reported (Has.ran (reportName error name) state)
      refine { after with shows := fun other => (after.shows other).trans ?_ }
      by_cases same : other = name.name
      · subst same
        obtain ⟨meaning, meant⟩ := Option.ne_none_iff_exists'.mp fun unbound =>
          nomatch clash.symm.trans (free.mpr unbound)
        dsimp only
        rw [Roles.meaning?_append_one, meant, Option.some_or]
      · exact (others same).symm
  | none =>
      rw [declare_of_free type clash]
      obtain ⟨⟨frames, outermost⟩, _⟩ := state
      obtain ⟨inner, program, shows, classNames, typeNames⟩ := shows
      dsimp only at inner
      subst inner
      refine ⟨rfl, program, shows.define _ ?_ fun other differ => others differ, classNames,
        typeNames⟩
      rw [Roles.meaning?_append_one, free.mp clash]
      simp [Role.meaning?, Binding.meaning]

theorem declareGlobal_showsProgram (shows : state.ShowsProgram names roles) {decl : Decl}
    (wellFormed : decl.WellFormed .program) :
    (declareGlobal decl state).2.ShowsProgram names
      (roles ++ [decl.role names]) := by
  cases decl with
  | varDef _ var _ =>
      have type : (resolveVar var state).1.2 = var.written.resolved names :=
        shows.typeNames ▸ resolve_type var.written state
      rw [Decl.role, TypedVar.role, ← type]
      exact declare_showsProgram (shows.reported (Has.ran (resolveVar var) state))
        var.identifier _ _
  | funcDef _ heading _ _ _ =>
      have signature : (resolveSignature heading state).1.2 = heading.resolved names :=
        shows.typeNames ▸ resolveSignature_signature heading state
      rw [Decl.role, ← signature]
      exact declare_showsProgram (shows.reported (Has.ran (resolveSignature heading) state))
        heading.name _ _
  | classDef _ name superclass members =>
      have resolved := shows.reported (Has.ran (resolveSuperclass superclass) state)
      have bound := declare_showsProgram resolved name (.classType name.name) .classDef
      change (declareClass name superclass members state).2.ShowsProgram _ _
      rw [declareClass_apply]
      dsimp only
      generalize declare name (.classType name.name) .classDef
        (resolveSuperclass superclass state).2 = declared at bound ⊢
      have after := bound.reported (Has.ran (within .classBody declared.1.1.name (declareMembers
        ((resolveSuperclass superclass state).1.2.subclass declared.1.1.name) members)) declared.2)
      split
      · exact ⟨after.inner, after.kind, after.shows, after.classNames, after.typeNames⟩
      · exact after
  | globalDecl | nonlocalDecl => cases (wellFormed : BodyKind.program = .ofFunction)

theorem declareGlobals_showsProgram (shows : state.ShowsProgram names roles)
    {decls : List Decl} (wellFormed : ∀ decl ∈ decls, decl.WellFormed .program) :
    (declareGlobals decls state).2.ShowsProgram names
      (roles ++ decls.map (Decl.role names)) := by
  induction decls generalizing roles state with
  | nil =>
      rw [List.map_nil, List.append_nil]
      exact shows
  | cons decl rest ih =>
      obtain ⟨first, others⟩ := List.forall_mem_cons.mp wellFormed
      have after := ih (declareGlobal_showsProgram shows first) others
      rwa [List.append_assoc] at after

end Check

/-! ## Programs -/

/-- What bindings say about a name is what the first one under the name says. -/
theorem meaning?_map_own (bindings : List Binding) (name : String)
    (global around : Option Meaning) :
    Roles.meaning? (bindings.map fun binding => (binding.name, .own binding.meaning)) name global
        around =
      ((bindings.map fun binding => (binding.name, binding)).lookup name).map Binding.meaning := by
  induction bindings with
  | nil => rfl
  | cons binding rest ih =>
      rw [Roles.meaning?] at ih ⊢
      rw [List.map_cons, List.map_cons, List.findSome?_cons, List.lookup_cons, ih]
      by_cases same : name = binding.name
      · simp [same, Role.meaning?]
      · simp [beq_eq_false_iff_ne.mpr same, Ne.symm same]

theorem Program.announced_shows (program : Program) :
    program.announced.ShowsProgram program.classNames builtinRoles := by
  rw [announced_eq]
  have entries : (ClassHierarchy.initial.builtinBindings.foldl Scope.define {}).outermost =
      { kind := .program, name := "global", bindings.entries :=
        ClassHierarchy.initial.builtinBindings.map fun binding => (binding.name, binding) } := by
    rfl
  refine ⟨rfl, rfl, fun name => ?_, rfl, rfl⟩
  rw [entries]
  exact (meaning?_map_own _ _ _ _).symm

/-- The first pass over a program shows what names mean outside of all functions. -/
theorem Program.declared_shows {program : Program} (raw : program.Raw) :
    program.declared.2.Shows program.scoping [] := by
  have shown := Check.declareGlobals_showsProgram program.announced_shows
    fun decl among => (raw.topLevel decl among).wellFormed
  exact ⟨shown.inner ▸ .nil, shown.shows, shown.classNames, shown.typeNames⟩

end ChocoLang
