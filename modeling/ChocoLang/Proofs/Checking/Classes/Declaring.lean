import ChocoLang.Proofs.Checking.Annotation.Program
import ChocoLang.Proofs.Checking.Establishes
import ChocoLang.Proofs.Checking.FirstPass
import ChocoLang.Proofs.Typing.ClassTable

/-!
# Declared classes

A name is bound to a class at the top level if and only if the class is listed.  Whatever is wrong
with a declaration, it keeps this, and the classes stay well formed: a class is listed only if its
name could be bound, and then it stands below a class that is listed already, with all members of
that class.
-/

namespace ChocoLang

/-- What a name is bound to at the top level. -/
def Scope.globalKind? (scope : Scope) (name : String) : Option BindingKind :=
  (scope.lookupGlobal name).map Binding.kind

/-- The names of the functions present in every program. -/
def builtinNames : List String := builtinFunctions.map Prod.fst

/-- Outside all functions and classes, the classes are well formed and bound under their names. -/
structure CheckState.Tabled (state : CheckState) : Prop where
  /-- There is no frame but the outermost one. -/
  inner : state.scope.inner = []
  /-- The classes stand below `object`. -/
  rooted : state.hierarchy.Rooted
  /-- A name is bound to a class if and only if the class is listed. -/
  bound : ∀ name,
    state.scope.globalKind? name = some .classDef ↔ (state.hierarchy.find? name).isSome
  /-- The functions present in every program are bound. -/
  functions : ∀ name ∈ builtinNames, state.scope.globalKind? name = some .function

theorem Scope.globalKind?_define {scope : Scope} (inner : scope.inner = []) (binding : Binding)
    (name : String) : (scope.define binding).globalKind? name =
      if name = binding.name then some binding.kind else scope.globalKind? name := by
  obtain ⟨frames, outermost⟩ := scope
  subst inner
  simp only [globalKind?, lookupGlobal, define, Frame.find?_define, beq_iff_eq]
  split <;> rfl

theorem Scope.inner_define {scope : Scope} (inner : scope.inner = []) (binding : Binding) :
    (scope.define binding).inner = [] := by
  simp [define, inner]

/-- Outside all branches there is nothing to forget. -/
theorem Scope.forget_of_inner {scope : Scope} (inner : scope.inner = []) (name : String) :
    scope.forget name = scope := by
  obtain ⟨frames, outermost⟩ := scope
  subst inner
  rfl

namespace CheckState.Tabled

variable {state after : CheckState}

theorem reported (tabled : state.Tabled) (reported : state.Reported after) : after.Tabled := by
  obtain ⟨found, rfl⟩ := reported
  exact ⟨tabled.inner, tabled.rooted, tabled.bound, tabled.functions⟩

theorem forgot (tabled : state.Tabled) (forgot : state.Forgot after) : after.Tabled := by
  obtain ⟨names, found, rfl⟩ := forgot
  have same : names.foldl Scope.forget state.scope = state.scope := by
    induction names with
    | nil => rfl
    | cons name rest ih => rw [List.foldl_cons, Scope.forget_of_inner tabled.inner, ih]
  rw [same]
  exact ⟨tabled.inner, tabled.rooted, tabled.bound, tabled.functions⟩

/-- A name that can be bound at the top level is not bound there. -/
theorem unbound (tabled : state.Tabled) {name : String} {kind : BindingKind}
    (free : state.clash? name kind = none) : state.scope.globalKind? name = none := by
  have unbound := unbound_of_clash? free
  rw [Scope.current_of_inner tabled.inner] at unbound
  simp [Scope.globalKind?, Scope.lookupGlobal, unbound]

/-- A name that can be bound at the top level is not that of a class. -/
theorem unlisted (tabled : state.Tabled) {name : String} {kind : BindingKind}
    (free : state.clash? name kind = none) : state.hierarchy.find? name = none := by
  rw [← Option.not_isSome_iff_eq_none, ← tabled.bound, tabled.unbound free]
  nofun

/-- The functions present in every program keep their names. -/
theorem not_builtin (tabled : state.Tabled) {name : String} {kind : BindingKind}
    (free : state.clash? name kind = none) {other : String} (builtin : other ∈ builtinNames) :
    other ≠ name := by
  rintro rfl
  have taken := tabled.functions other builtin
  rw [tabled.unbound free] at taken
  cases taken

/-- Anything but a class may be bound to a name that is free. -/
theorem define (tabled : state.Tabled) {binding : Binding} (noClass : binding.kind ≠ .classDef)
    (free : state.clash? binding.name binding.kind = none) :
    CheckState.Tabled { state with scope := state.scope.define binding } := by
  refine ⟨Scope.inner_define tabled.inner binding, tabled.rooted, fun name => ?_,
    fun name builtin => ?_⟩
  · rw [Scope.globalKind?_define tabled.inner]
    split
    · next same =>
        rw [same, tabled.unlisted free]
        simpa using noClass
    · exact tabled.bound name
  · rw [Scope.globalKind?_define tabled.inner, if_neg (tabled.not_builtin free builtin)]
    exact tabled.functions name builtin

/-- A class may be listed under a name that is free, below a class that is listed. -/
theorem addClass (tabled : state.Tabled) {name : Identifier}
    (free : state.clash? name.name .classDef = none)
    (reported : (state.bindClass name).Reported after) {info parent : ClassInfo}
    (named : info.name = name.name) (below : info.superclass = some parent.name)
    (listed : state.hierarchy.find? parent.name = some parent)
    (extensible : parent.name ∉ ValueType.specialClasses) (inherits : info.Inherits parent) :
    CheckState.Tabled { after with hierarchy := after.hierarchy.add info } := by
  obtain ⟨found, rfl⟩ := reported
  have new : state.hierarchy.find? info.name = none := named ▸ tabled.unlisted free
  have kinds (other : String) : (state.bindClass name).scope.globalKind? other =
      if other = name.name then some .classDef else state.scope.globalKind? other :=
    Scope.globalKind?_define tabled.inner _ other
  refine ⟨Scope.inner_define tabled.inner _, tabled.rooted.add new below listed extensible inherits,
    fun other => ?_, fun other builtin => ?_⟩
  · change (state.bindClass name).scope.globalKind? other = _ ↔
      ((state.hierarchy.add info).find? other).isSome
    rw [kinds, ClassHierarchy.find?_add, named]
    by_cases same : other = name.name <;> simp [same, tabled.bound]
  · change (state.bindClass name).scope.globalKind? other = _
    rw [kinds, if_neg (tabled.not_builtin free builtin)]
    exact tabled.functions other builtin

end CheckState.Tabled

namespace Check

variable {α : Type}

/-! ## Variables and functions -/

theorem tabled_of_reported (action : Check α) [Has CheckState.Reported action] :
    Maintains CheckState.Tabled action fun _ => True :=
  fun state tabled => ⟨trivial, tabled.reported (Has.ran action state)⟩

theorem declare_tabled (name : Identifier) (type : ValueType) {kind : BindingKind}
    (noClass : kind ≠ .classDef) :
    Maintains CheckState.Tabled (declare name type kind) fun _ => True := by
  intro state tabled
  cases clash : state.clash? name.name kind with
  | some error =>
      rw [declare_of_clash type clash]
      exact ⟨trivial, tabled.reported (Has.ran (reportName error name) state)⟩
  | none =>
      rw [declare_of_free type clash]
      exact ⟨trivial, tabled.define noClass clash⟩

theorem declareVar_tabled (var : TypedVar) :
    Maintains CheckState.Tabled (declareVar var) fun _ => True :=
  (tabled_of_reported (resolveVar var)).bind fun _ _ =>
    (declare_tabled _ _ (by decide)).bind fun _ _ => .pure trivial

theorem declareFunction_tabled (heading : FunctionHeading) :
    Maintains CheckState.Tabled (declareFunction heading) fun _ => True :=
  (tabled_of_reported (resolveSignature heading)).bind fun _ _ =>
    (declare_tabled _ _ (by decide)).bind fun _ _ => .pure trivial

/-! ## Classes -/

variable {info parent : ClassInfo}

theorem declareAttribute_inherits (inherits : info.Inherits parent) (var : TypedVar) :
    Returns (declareAttribute info var) fun declared => declared.1.Inherits parent := by
  refine .any ?_
  rintro ⟨var, type⟩
  refine .any ?_
  rintro ⟨identifier, bound⟩
  refine .ite (fun _ => .pure inherits) fun _ => .ite (fun _ => ?_) fun new => ?_
  · exact .any fun _ => .pure inherits
  · exact .pure (inherits.addAttribute (Bool.eq_false_iff.mpr new) type)

theorem declareMethod_inherits (inherits : info.Inherits parent) (heading : FunctionHeading) :
    Returns (declareMethod info heading) fun declared => declared.1.Inherits parent := by
  rw [declareMethod_eq]
  refine .any ?_
  rintro ⟨heading, signature⟩
  refine .any ?_
  rintro ⟨name, bound⟩
  exact .ite (fun _ => .pure inherits) fun _ => .any fun name =>
    .pure (inherits.addMethod name.name signature)

/-- Members are added to what a class inherits, and nothing of it is taken away. -/
theorem declareMembers_inherits (inherits : info.Inherits parent) (decls : List Decl) :
    Returns (declareMembers info decls) fun declared => declared.1.Inherits parent := by
  induction decls generalizing info with
  | nil => exact .pure inherits
  | cons decl rest ih =>
      have first : Returns (declareMember info decl) fun declared =>
          declared.1.Inherits parent := by
        cases decl with
        | varDef _ var _ =>
            exact (declareAttribute_inherits inherits var).bind fun _ kept => .pure kept
        | funcDef _ heading =>
            exact (declareMethod_inherits inherits heading).bind fun _ kept => .pure kept
        | classDef | globalDecl | nonlocalDecl => exact .pure inherits
      rw [declareMembers_cons]
      exact first.bind fun (info, _) kept => (ih kept).bind fun _ kept => .pure kept

/-- The class that takes the place of a superclass, in error or not, is listed and extensible. -/
theorem resolveSuperclass_rooted (superclass : Identifier) {state : CheckState}
    (rooted : state.hierarchy.Rooted) :
    state.hierarchy.find? (resolveSuperclass superclass state).1.2.name =
        some (resolveSuperclass superclass state).1.2 ∧
      (resolveSuperclass superclass state).1.2.name ∉ ValueType.specialClasses := by
  cases found : state.superclass superclass.name with
  | ok info =>
      have listed := find?_of_superclass found
      rw [resolveSuperclass_of_ok found, rooted.named listed]
      exact ⟨listed, superclass_extensible found⟩
  | error error =>
      obtain ⟨object, listed, -⟩ := rooted.object
      rw [resolveSuperclass_of_error found, listed, Option.getD_some, rooted.named listed]
      exact ⟨listed, by decide⟩

theorem declareClass_tabled (name superclass : Identifier) (members : List Decl) :
    Maintains CheckState.Tabled (declareClass name superclass members) fun _ => True := by
  intro state tabled
  refine ⟨trivial, ?_⟩
  obtain ⟨listed, extensible⟩ := resolveSuperclass_rooted superclass tabled.rooted
  have ran : state.Reported (resolveSuperclass superclass state).2 :=
    Has.ran (resolveSuperclass superclass) state
  have resolved := tabled.reported ran
  have same : (resolveSuperclass superclass state).2.hierarchy = state.hierarchy := by
    obtain ⟨found, after⟩ := ran
    rw [after]
  cases clash : (resolveSuperclass superclass state).2.clash? name.name .classDef with
  | some error => exact tabled.reported (declareClass_of_clash members clash)
  | none =>
      rw [declareClass_of_free members clash]
      generalize resolveSuperclass superclass state = before
        at listed extensible resolved same clash ⊢
      let inherited := before.1.2.subclass name.name
      let inside : CheckState := { before.2.bindClass name with
        scope := (before.2.bindClass name).scope.enter .classBody name.name }
      obtain ⟨named, below⟩ := declareMembers_named inherited members inside
      have inherits : inherited.Inherits before.1.2 := .subclass before.1.2 rfl rfl
      exact resolved.addClass clash
        (Has.ran (within .classBody name.name (declareMembers inherited members)) _)
        named below (same ▸ listed) extensible (declareMembers_inherits inherits members inside)

/-! ## Declarations at the top level -/

theorem declareGlobal_tabled (decl : Decl) :
    Maintains CheckState.Tabled (declareGlobal decl) fun _ => True := by
  cases decl with
  | varDef _ var _ => exact (declareVar_tabled var).bind fun _ _ => .pure trivial
  | funcDef _ heading => exact (declareFunction_tabled heading).bind fun _ _ => .pure trivial
  | classDef _ name superclass members => exact declareClass_tabled name superclass members
  | globalDecl | nonlocalDecl => exact .pure trivial

/-- Declarations at the top level keep the classes well formed, errors or not. -/
theorem declareGlobals_tabled (decls : List Decl) :
    Maintains CheckState.Tabled (declareGlobals decls) fun _ => True := by
  induction decls with
  | nil => exact .pure trivial
  | cons decl rest ih =>
      exact (declareGlobal_tabled decl).bind fun _ _ => ih.bind fun _ _ => .pure trivial

end Check
end ChocoLang
