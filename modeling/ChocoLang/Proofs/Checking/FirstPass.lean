import ChocoLang.Proofs.Checking.Effects
import ChocoLang.Proofs.Checking.Members
import ChocoLang.Proofs.Parsing.ReadTrees
import ChocoLang.Proofs.Typing.Growth

/-!
# The first pass

While the declarations at the top level are declared, classes are only added, each below a class
that is listed before it.  This holds whatever problems are found on the way.
-/

namespace ChocoLang

theorem Frame.isSome_find?_define (frame : Frame) (binding : Binding) {name : String}
    (bound : (frame.find? name).isSome) : ((frame.define binding).find? name).isSome := by
  rw [Frame.find?_define]
  split
  · rfl
  · exact bound

/-- What a class inherits. -/
def ClassInfo.subclass (parent : ClassInfo) (name : String) : ClassInfo :=
  { name
    superclass := some parent.name
    attributes := parent.attributes
    methods := parent.methods }

/-- What holds between two declarations at the top level. -/
structure CheckState.Global (state : CheckState) : Prop where
  /-- There is no frame but the outermost one. -/
  inner : state.scope.inner = []
  /-- Every class is listed behind its superclass. -/
  grounded : state.hierarchy.Grounded
  /-- The name of every class is bound. -/
  bound : ∀ name, (state.hierarchy.find? name).isSome → (state.scope.outermost.find? name).isSome
  /-- The absent value has no class of its own. -/
  absent : state.hierarchy.find? Parse.noResult = none

theorem Scope.current_of_inner {scope : Scope} (inner : scope.inner = []) :
    scope.current = scope.outermost := by
  simp [Scope.current, inner]

theorem Scope.defineAll_of_inner {scope : Scope} (inner : scope.inner = [])
    (bindings : List Binding) :
    (bindings.foldl Scope.define scope).inner = [] ∧
      ∀ name, (scope.outermost.find? name).isSome →
        ((bindings.foldl Scope.define scope).outermost.find? name).isSome := by
  induction bindings generalizing scope with
  | nil => exact ⟨inner, fun _ => id⟩
  | cons binding rest ih =>
      obtain ⟨frames, outermost⟩ := scope
      subst inner
      obtain ⟨stays, kept⟩ := @ih { outermost := outermost.define binding } rfl
      exact ⟨stays, fun name found => kept name (outermost.isSome_find?_define binding found)⟩

namespace CheckState

variable {state after : CheckState}

/-- Binding names at the top level leaves the classes as they are. -/
theorem Global.defined (holds : state.Global) (defined : state.Defined after) :
    after.Global ∧ after.hierarchy = state.hierarchy := by
  obtain ⟨bindings, found, rfl⟩ := defined
  obtain ⟨inner, kept⟩ := Scope.defineAll_of_inner holds.inner bindings
  exact ⟨⟨inner, holds.grounded, fun name listed => kept name (holds.bound name listed),
    holds.absent⟩, rfl⟩

/-- A name that can be bound at the top level is not that of a class that is listed. -/
theorem Global.unlisted (holds : state.Global) {name : String} {kind : BindingKind}
    (free : state.clash? name kind = none) : state.hierarchy.find? name = none := by
  have unbound := unbound_of_clash? free
  rw [Scope.current_of_inner holds.inner] at unbound
  cases listed : state.hierarchy.find? name with
  | none => rfl
  | some info =>
      have bound := holds.bound name (by simp [listed])
      rw [unbound] at bound
      cases bound

end CheckState

namespace Check

/-! ## Classes -/

theorem resolveSuperclass_of_ok {superclass : Identifier} {state : CheckState} {info : ClassInfo}
    (found : state.superclass superclass.name = .ok info) :
    resolveSuperclass superclass state = ((superclass, info), state) := by
  simp only [resolveSuperclass, bind_apply, get_apply, found]
  rfl

theorem resolveSuperclass_of_error {superclass : Identifier} {state : CheckState}
    {error : CheckError} (found : state.superclass superclass.name = .error error) :
    resolveSuperclass superclass state =
      (((reportName error superclass state).1,
        (state.hierarchy.find? "object").getD ClassHierarchy.objectInfo),
          (reportName error superclass state).2) := by
  simp only [resolveSuperclass, bind_apply, get_apply, found]
  rfl

theorem find?_of_superclass {name : String} {state : CheckState} {info : ClassInfo}
    (found : state.superclass name = .ok info) : state.hierarchy.find? name = some info := by
  unfold CheckState.superclass at found
  split at found
  · cases found
  split at found
  · next listed =>
      cases found
      exact listed
  · split at found <;> cases found

theorem superclass_extensible {name : String} {state : CheckState} {info : ClassInfo}
    (found : state.superclass name = .ok info) : name ∉ ValueType.specialClasses := by
  unfold CheckState.superclass at found
  split at found
  · cases found
  · next extensible => simpa using extensible

/-- The superclass found is listed. -/
theorem resolveSuperclass_listed {superclass : Identifier} {state : CheckState}
    (grounded : state.hierarchy.Grounded) :
    (state.hierarchy.find? (resolveSuperclass superclass state).1.2.name).isSome := by
  cases found : state.superclass superclass.name with
  | ok info =>
      have listed := find?_of_superclass found
      rw [resolveSuperclass_of_ok found, grounded.named listed, listed]
      rfl
  | error error =>
      obtain ⟨object, listed, -⟩ := grounded.object
      rw [resolveSuperclass_of_error found, listed, Option.getD_some, grounded.named listed, listed]
      rfl

/-- A superclass without an error is the class of its name. -/
theorem resolveSuperclass_found {superclass : Identifier} (fresh : superclass.info.error = none)
    {state : CheckState} (accepted : (resolveSuperclass superclass state).1.1.info.error = none) :
    state.hierarchy.find? superclass.name = some (resolveSuperclass superclass state).1.2 := by
  cases found : state.superclass superclass.name with
  | ok info =>
      rw [resolveSuperclass_of_ok found]
      exact find?_of_superclass found
  | error error =>
      rw [resolveSuperclass_of_error found, reportName_error fresh] at accepted
      cases accepted

/-- A name without an error has been bound. -/
theorem declare_bound {name : Identifier} (fresh : name.info.error = none) {type : ValueType}
    {kind : BindingKind} {state : CheckState}
    (accepted : (declare name type kind state).1.1.info.error = none) :
    state.clash? name.name kind = none := by
  cases clash : state.clash? name.name kind with
  | none => rfl
  | some error =>
      rw [declare_of_clash type clash, reportName_error fresh] at accepted
      cases accepted

/-- A class is declared in four steps: its superclass, its name, its members, the class itself. -/
theorem declareClass_apply (name superclass : Identifier) (members : List Decl)
    (state : CheckState) :
    declareClass name superclass members state =
      let resolved := resolveSuperclass superclass state
      let declared := declare name (.classType name.name) .classDef resolved.2
      let inherited := resolved.1.2.subclass declared.1.1.name
      let ran := within .classBody declared.1.1.name (declareMembers inherited members) declared.2
      (.ofClass declared.1.1 resolved.1.1 ran.1.2,
        if declared.1.2 then { ran.2 with hierarchy := ran.2.hierarchy.add ran.1.1 }
        else ran.2) := by
  simp only [declareClass, bind_apply]
  generalize resolveSuperclass superclass state = resolved
  obtain ⟨⟨superclass, parent⟩, resolved⟩ := resolved
  dsimp only
  generalize declare name (.classType name.name) .classDef resolved = declared
  obtain ⟨⟨name, bound⟩, declared⟩ := declared
  cases bound <;> rfl

end Check

/-- The state in which the name of a class is bound. -/
def CheckState.bindClass (state : CheckState) (name : Identifier) : CheckState :=
  { state with
    scope := state.scope.define
      { name := name.name
        type := .classType name.name
        kind := .classDef
        span := some name.info.span } }

/-- When the name of a new class is bound, the class can be added below one that is listed. -/
theorem CheckState.Global.addClass {state after : CheckState} (holds : state.Global)
    {name : Identifier} (free : state.clash? name.name .classDef = none)
    (reported : (state.bindClass name).Reported after) {info : ClassInfo}
    (named : info.name = name.name) (proper : name.name ≠ Parse.noResult) {parent : String}
    (below : info.superclass = some parent) (listed : (state.hierarchy.find? parent).isSome) :
    CheckState.Global { after with hierarchy := after.hierarchy.add info } ∧
      state.hierarchy.Grows (after.hierarchy.add info) := by
  obtain ⟨found, rfl⟩ := reported
  have new : state.hierarchy.find? info.name = none := named ▸ holds.unlisted free
  obtain ⟨inner, kept⟩ := Scope.defineAll_of_inner holds.inner
    [{ name := name.name, type := .classType name.name, kind := .classDef
       span := some name.info.span }]
  refine ⟨⟨inner, holds.grounded.add new below listed, fun other isListed => ?_, ?_⟩,
    ClassHierarchy.grows_add new⟩
  · change ((state.hierarchy.add info).find? other).isSome at isListed
    rw [ClassHierarchy.find?_add] at isListed
    split at isListed
    · next same =>
        obtain rfl : other = name.name := (beq_iff_eq.mp same).trans named
        have bound := Scope.current_of_inner inner
        rw [List.foldl_cons, List.foldl_nil, Scope.current_define] at bound
        change ((state.scope.define _).outermost.find? name.name).isSome
        rw [← bound, Frame.find?_define, beq_self_eq_true]
        rfl
    · exact kept other (holds.bound other isListed)
  · change (state.hierarchy.add info).find? Parse.noResult = none
    rw [ClassHierarchy.find?_add, named]
    simp [Ne.symm proper, holds.absent]

namespace Check

/-- A class whose name cannot be bound is not added. -/
theorem declareClass_of_clash {name superclass : Identifier} (members : List Decl)
    {state : CheckState} {error : CheckError}
    (clash : (resolveSuperclass superclass state).2.clash? name.name .classDef = some error) :
    state.Reported (declareClass name superclass members state).2 := by
  rw [declareClass_apply]
  dsimp only
  rw [declare_of_clash _ clash]
  exact Effect.trans (Effect.trans (Has.ran (resolveSuperclass superclass) state)
    (Has.ran (reportName error name) _))
    (Has.ran (within .classBody _ (declareMembers _ members)) _)

/-- A class whose name is bound is added with its members. -/
theorem declareClass_of_free {name superclass : Identifier} (members : List Decl)
    {state : CheckState}
    (free : (resolveSuperclass superclass state).2.clash? name.name .classDef = none) :
    declareClass name superclass members state =
      let resolved := resolveSuperclass superclass state
      let ran := within .classBody name.name
        (declareMembers (resolved.1.2.subclass name.name) members) (resolved.2.bindClass name)
      (.ofClass name resolved.1.1 ran.1.2,
        { ran.2 with hierarchy := ran.2.hierarchy.add ran.1.1 }) := by
  rw [declareClass_apply]
  dsimp only
  rw [declare_of_free _ free]
  rfl

/-- The members of a class are declared in an empty frame, among the classes before it. -/
theorem declareClass_members {name superclass : Identifier} (members : List Decl)
    {state : CheckState}
    (free : (resolveSuperclass superclass state).2.clash? name.name .classDef = none) :
    ∃ inside : CheckState,
      inside.scope.current = { kind := .classBody, name := name.name } ∧
      inside.hierarchy = state.hierarchy ∧
      let resolved := (resolveSuperclass superclass state).1
      let ran := declareMembers (resolved.2.subclass name.name) members inside
      (declareClass name superclass members state).1 = .ofClass name resolved.1 ran.1.2 ∧
      (declareClass name superclass members state).2.hierarchy = state.hierarchy.add ran.1.1 := by
  obtain ⟨found, same⟩ : state.Reported (resolveSuperclass superclass state).2 :=
    Has.ran (resolveSuperclass superclass) state
  have hierarchy : (resolveSuperclass superclass state).2.hierarchy = state.hierarchy := by
    rw [same]
  rw [declareClass_of_free members free]
  generalize resolveSuperclass superclass state = resolved at hierarchy ⊢
  let inside : CheckState := { resolved.2.bindClass name with
    scope := (resolved.2.bindClass name).scope.enter .classBody name.name }
  refine ⟨inside, rfl, hierarchy, rfl, ?_⟩
  have kept : CheckState.Defined inside
      (declareMembers (resolved.1.2.subclass name.name) members inside).2 := Has.ran _ inside
  obtain ⟨_, _, after⟩ := kept
  change (declareMembers (resolved.1.2.subclass name.name) members inside).2.hierarchy.add _ = _
  rw [after]
  exact congrArg (ClassHierarchy.add · _) hierarchy

/-- A class is added below one that is listed, or it is not added. -/
theorem declareClass_global {name superclass : Identifier} (proper : name.name ≠ Parse.noResult)
    (members : List Decl) {state : CheckState} (holds : state.Global) :
    (declareClass name superclass members state).2.Global ∧
      state.hierarchy.Grows (declareClass name superclass members state).2.hierarchy := by
  have listed : (state.hierarchy.find? (resolveSuperclass superclass state).1.2.name).isSome :=
    resolveSuperclass_listed holds.grounded
  obtain ⟨resolvedHolds, same⟩ := holds.defined (Has.ran (resolveSuperclass superclass) state)
  cases clash : (resolveSuperclass superclass state).2.clash? name.name .classDef with
  | some error =>
      obtain ⟨after, same⟩ :=
        holds.defined (Effect.ofReported (declareClass_of_clash members clash))
      exact ⟨after, same ▸ .refl _⟩
  | none =>
      rw [declareClass_of_free members clash]
      generalize resolveSuperclass superclass state = resolved at listed resolvedHolds same clash ⊢
      obtain ⟨named, below⟩ := declareMembers_named (resolved.1.2.subclass name.name) members
        { resolved.2.bindClass name with
          scope := (resolved.2.bindClass name).scope.enter .classBody name.name }
      rw [← same] at listed ⊢
      exact resolvedHolds.addClass clash (Has.ran (within .classBody name.name
        (declareMembers (resolved.1.2.subclass name.name) members)) _) named proper below listed

/-! ## Declarations -/

theorem declareGlobal_global {decl : Decl} (named : decl.ClassNamed) {state : CheckState}
    (holds : state.Global) : (declareGlobal decl state).2.Global ∧
      state.hierarchy.Grows (declareGlobal decl state).2.hierarchy := by
  have other (defined : state.Defined (declareGlobal decl state).2) :
      (declareGlobal decl state).2.Global ∧
        state.hierarchy.Grows (declareGlobal decl state).2.hierarchy := by
    obtain ⟨after, same⟩ := holds.defined defined
    exact ⟨after, same ▸ .refl _⟩
  cases decl with
  | varDef _ var _ => exact other (Has.ran (declareVar var) state)
  | funcDef _ heading _ _ _ => exact other (Has.ran (declareFunction heading) state)
  | classDef _ name superclass members =>
      exact declareClass_global (ne_noResult_of_isName named) members holds
  | globalDecl _ _ | nonlocalDecl _ _ => exact other (Effect.refl state)

/-- While declarations are declared, classes are only added. -/
theorem declareGlobals_global {decls : List Decl} (named : ∀ decl ∈ decls, decl.ClassNamed)
    {state : CheckState} (holds : state.Global) : (declareGlobals decls state).2.Global ∧
      state.hierarchy.Grows (declareGlobals decls state).2.hierarchy := by
  induction decls generalizing state with
  | nil => exact ⟨holds, .refl _⟩
  | cons decl rest ih =>
      rw [List.forall_mem_cons] at named
      obtain ⟨between, grows⟩ := declareGlobal_global named.1 holds
      obtain ⟨after, growsLater⟩ := ih named.2 between
      exact ⟨after, grows.trans growsLater⟩

/-- Each declaration is declared between some classes and those that come later. -/
theorem declareGlobals_getElem? {decls : List Decl} (named : ∀ decl ∈ decls, decl.ClassNamed)
    {state : CheckState} (holds : state.Global) {place : Nat} {decl : Decl}
    (found : decls[place]? = some decl) :
    ∃ before : CheckState, before.Global ∧
      (declareGlobals decls state).1[place]? = some (declareGlobal decl before).1 ∧
      (declareGlobal decl before).2.hierarchy.Grows (declareGlobals decls state).2.hierarchy := by
  induction decls generalizing state place with
  | nil => cases found
  | cons first rest ih =>
      rw [List.forall_mem_cons] at named
      obtain ⟨between, -⟩ := declareGlobal_global named.1 holds
      cases place with
      | zero =>
          obtain rfl : first = decl := by simpa using found
          exact ⟨state, holds, rfl, (declareGlobals_global named.2 between).2⟩
      | succ place => exact ih named.2 between (by simpa using found)

end Check

/-! ## Programs -/

theorem Program.announced_global (program : Program) : program.announced.Global := by
  rw [announced_eq]
  have bound : ∀ name ∈ ClassHierarchy.initial.names,
      let scope := ClassHierarchy.initial.builtinBindings.foldl Scope.define {}
      (scope.outermost.find? name).isSome := by
    decide
  exact ⟨rfl, ClassHierarchy.initial_grounded, fun name listed =>
    bound name ((ClassHierarchy.find?_isSome_iff_mem_names _ name).mp listed), rfl⟩

/-- After the first pass, classes have been added to those of every program. -/
theorem Program.declared_global {program : Program}
    (named : ∀ decl ∈ program.declarations, decl.ClassNamed) : program.declared.2.Global :=
  (Check.declareGlobals_global named program.announced_global).1

end ChocoLang
