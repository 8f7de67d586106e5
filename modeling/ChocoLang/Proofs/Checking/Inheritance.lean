import ChocoLang.Proofs.Checking.Soundness.Program
import ChocoLang.Proofs.Checking.Verdicts
import ChocoLang.Proofs.Typing.Order

/-!
# Inheritance

A class conforms to another if its members can be used like those of the other one: an attribute has
the same type, and a method takes as much and returns no more.  It is enough to compare each class
with its direct superclass, when it is added: adding classes takes nothing away that fits, and as
assignability is transitive, a class then conforms to its distant superclasses, too.
-/

namespace ChocoLang

variable {hierarchy larger : ClassHierarchy}

namespace ClassHierarchy

/-- What fits a place still fits it in the larger hierarchy. -/
theorem Grows.isAssignable (grows : hierarchy.Grows larger) (ordered : hierarchy.Ordered)
    (ordered' : larger.Ordered) {source target : ValueType}
    (fits : hierarchy.isAssignable source target = true) :
    larger.isAssignable source target = true := by
  have lost := isAssignable_eq_false_iff ordered.toGrounded ordered'.toGrounded grows
    ordered'.noNone source target
  cases after : larger.isAssignable source target with
  | true => rfl
  | false =>
      rw [lost.mpr (.inl after)] at fits
      cases fits

/-- Lists of known types that fit one another in order compose. -/
theorem Ordered.forall₂_trans (ordered : hierarchy.Ordered)
    {sources middles targets : List ValueType}
    (known : ∀ type ∈ sources, type.Known) (known' : ∀ type ∈ middles, type.Known)
    (known'' : ∀ type ∈ targets, type.Known)
    (first : List.Forall₂ (fun source target => hierarchy.isAssignable source target = true)
      sources middles)
    (second : List.Forall₂ (fun source target => hierarchy.isAssignable source target = true)
      middles targets) :
    List.Forall₂ (fun source target => hierarchy.isAssignable source target = true)
      sources targets := by
  induction first generalizing targets with
  | nil => exact second
  | cons fits rest ih =>
      cases second with
      | cons fits' rest' =>
          rw [List.forall_mem_cons] at known known' known''
          exact .cons (ordered.isAssignable_trans known.1.isUnknown known'.1.isUnknown
            known''.1.isUnknown fits fits') (ih known.2 known'.2 known''.2 rest')

end ClassHierarchy

/-! ## Methods -/

/-- A method can be used like another one. -/
structure Signature.Refines (hierarchy : ClassHierarchy) (own inherited : Signature) : Prop where
  /-- Both have the same number of parameters. -/
  length : own.params.length = inherited.params.length
  /-- Each parameter after the receiver takes what the other one takes. -/
  params : List.Forall₂ (fun source target => hierarchy.isAssignable source target = true)
    inherited.params.tail own.params.tail
  /-- The result is one that the other method may have. -/
  result : hierarchy.isAssignable own.result inherited.result = true

namespace Signature

variable {own middle inherited : Signature}

theorem refines_of_mayOverride (accepted : hierarchy.mayOverride inherited own = true) :
    own.Refines hierarchy inherited := by
  obtain ⟨length, fits⟩ := (hierarchy.mayOverride_iff inherited own).mp accepted
  simp only [ClassHierarchy.overridePairs, List.forall_mem_cons] at fits
  refine ⟨length.symm, List.forall₂_iff_zip.mpr ⟨?_, fun among => fits.2 _ among⟩, fits.1⟩
  simp [length]

namespace Refines

theorem refl (hierarchy : ClassHierarchy) (own : Signature) : own.Refines hierarchy own :=
  ⟨rfl, List.forall₂_same.mpr fun type _ => hierarchy.isAssignable_refl type,
    hierarchy.isAssignable_refl own.result⟩

theorem trans (ordered : hierarchy.Ordered) (known : own.type.Known) (known' : middle.type.Known)
    (known'' : inherited.type.Known) (first : own.Refines hierarchy middle)
    (second : middle.Refines hierarchy inherited) : own.Refines hierarchy inherited := by
  simp only [Signature.type, ValueType.known_function] at known known' known''
  have tail {types : List ValueType} (all : ∀ type ∈ types, type.Known) :
      ∀ type ∈ types.tail, type.Known := fun type among => all type (List.mem_of_mem_tail among)
  exact ⟨first.length.trans second.length,
    ordered.forall₂_trans (tail known''.1) (tail known'.1) (tail known.1) second.params
      first.params,
    ordered.isAssignable_trans known.2.isUnknown known'.2.isUnknown known''.2.isUnknown
      first.result second.result⟩

theorem grows (grows : hierarchy.Grows larger) (ordered : hierarchy.Ordered)
    (ordered' : larger.Ordered) (refines : own.Refines hierarchy inherited) :
    own.Refines larger inherited :=
  ⟨refines.length, refines.params.imp fun _ _ => grows.isAssignable ordered ordered',
    grows.isAssignable ordered ordered' refines.result⟩

end Refines
end Signature

/-! ## Classes -/

/-- The members of a class can be used like those of another one. -/
structure ClassInfo.Conforms (hierarchy : ClassHierarchy) (info above : ClassInfo) : Prop where
  /-- An attribute of the other class is one of the class, of the same type, and no method. -/
  attributes : ∀ {name type}, above.attributes.find? name = some type →
    info.attributes.find? name = some type ∧ info.methods.find? name = none
  /-- For a method of the other class, the class has one that can be used like it. -/
  methods : ∀ {name inherited}, above.methods.find? name = some inherited →
    ∃ own, info.methods.find? name = some own ∧ own.Refines hierarchy inherited

namespace ClassInfo.Conforms

variable {info middle above : ClassInfo}

theorem trans (ordered : hierarchy.Ordered) (sound : info.Sound) (sound' : middle.Sound)
    (sound'' : above.Sound) (first : info.Conforms hierarchy middle)
    (second : middle.Conforms hierarchy above) : info.Conforms hierarchy above := by
  refine ⟨fun listed => first.attributes (second.attributes listed).1, fun listed => ?_⟩
  obtain ⟨between, listed', refines'⟩ := second.methods listed
  obtain ⟨own, listedOwn, refines⟩ := first.methods listed'
  exact ⟨own, listedOwn, refines.trans ordered (sound.methods _ _ listedOwn)
    (sound'.methods _ _ listed') (sound''.methods _ _ listed) refines'⟩

theorem grows (grows : hierarchy.Grows larger) (ordered : hierarchy.Ordered)
    (ordered' : larger.Ordered) (conforms : info.Conforms hierarchy above) :
    info.Conforms larger above := by
  refine ⟨conforms.attributes, fun listed => ?_⟩
  obtain ⟨own, listedOwn, refines⟩ := conforms.methods listed
  exact ⟨own, listedOwn, refines.grows grows ordered ordered'⟩

end ClassInfo.Conforms

namespace ClassHierarchy

/-- Classes are sound, and each conforms to itself and to its direct superclass. -/
structure Conforming (hierarchy : ClassHierarchy) : Prop extends hierarchy.Ordered where
  /-- The classes are sound. -/
  sound : hierarchy.Sound
  /-- No attribute of a class is a method of it. -/
  own : ∀ {name info}, hierarchy.find? name = some info → info.Conforms hierarchy info
  /-- A class conforms to its superclass. -/
  inherited : ∀ {name info next parent}, hierarchy.find? name = some info →
    info.superclass = some next → hierarchy.find? next = some parent →
    info.Conforms hierarchy parent

namespace Conforming

/-- A hierarchy stays conforming when a class is added that conforms to its superclass. -/
theorem add (conforming : hierarchy.Conforming) {info parent : ClassInfo}
    (ordered : (hierarchy.add info).Ordered) (sound : (hierarchy.add info).Sound)
    (new : hierarchy.find? info.name = none) (below : info.superclass = some parent.name)
    (listed : hierarchy.find? parent.name = some parent) (own : info.Conforms hierarchy info)
    (conforms : info.Conforms hierarchy parent) : (hierarchy.add info).Conforming := by
  have grows := grows_add new
  refine ⟨ordered, sound, fun {name other} found => ?_,
    fun {name other next above} found inherits foundAbove => ?_⟩
  · rw [find?_add] at found
    split at found
    · cases found
      exact own.grows grows conforming.toOrdered ordered
    · exact (conforming.own found).grows grows conforming.toOrdered ordered
  · rw [find?_add] at found
    split at found
    · cases found
      obtain rfl := Option.some.inj (below.symm.trans inherits)
      obtain rfl := Option.some.inj ((grows.kept listed).symm.trans foundAbove)
      exact conforms.grows grows conforming.toOrdered ordered
    · have step : hierarchy.Extends name next := (superclassOf?_of_find? found).trans inherits
      obtain ⟨before, listed⟩ :=
        Option.isSome_iff_exists.mp (conforming.toGrounded.listed_of_extends step)
      obtain rfl := Option.some.inj ((grows.kept listed).symm.trans foundAbove)
      exact (conforming.inherited found inherits listed).grows grows conforming.toOrdered ordered

/-- A class conforms to each of its superclasses. -/
theorem conforms (conforming : hierarchy.Conforming) {name other : String}
    (reaches : hierarchy.Reaches name other) {info above : ClassInfo}
    (found : hierarchy.find? name = some info) (found' : hierarchy.find? other = some above) :
    info.Conforms hierarchy above := by
  induction reaches using Relation.ReflTransGen.head_induction_on generalizing info with
  | refl =>
      obtain rfl := Option.some.inj (found.symm.trans found')
      exact conforming.own found
  | head step _ ih =>
      obtain ⟨parent, listed⟩ :=
        Option.isSome_iff_exists.mp (conforming.toGrounded.listed_of_extends step)
      have inherits := (superclassOf?_of_find? found).symm.trans step
      exact (conforming.inherited found inherits listed).trans conforming.toOrdered
        (conforming.sound _ _ found) (conforming.sound _ _ listed) (conforming.sound _ _ found')
        (ih listed)

end Conforming
end ClassHierarchy
end ChocoLang

/-!
## The classes of a program

A class is compared with its direct superclass only, member by member, and among the classes that
are declared before it.  In a program without any error this is enough: among all classes of the
program, every class conforms to each of its superclasses, however distant.
-/

namespace ChocoLang

variable {hierarchy : ClassHierarchy}

/-! ## Members -/

/-- A class conforms to itself as soon as no attribute of it is a method. -/
theorem ClassInfo.conforms_self (hierarchy : ClassHierarchy) {info : ClassInfo}
    (apart : ∀ {name type}, info.attributes.find? name = some type →
      info.methods.find? name = none) : info.Conforms hierarchy info :=
  ⟨fun listed => ⟨listed, apart listed⟩, fun listed => ⟨_, listed, .refl hierarchy _⟩⟩

/-- A method in order has a name of its own, or it can be used like the method it overrides. -/
theorem ClassHierarchy.methodError?_eq_none {info : ClassInfo} {name : String}
    {signature : Signature} (accepted : hierarchy.methodError? info name signature = none) :
    info.attributes.find? name = none ∧
      ∀ inherited ∈ info.methods.find? name, signature.Refines hierarchy inherited := by
  unfold methodError? at accepted
  split at accepted
  · cases accepted
  split at accepted
  · cases accepted
  · next noAttribute =>
      refine ⟨by simpa [Table.contains] using noAttribute, fun inherited listed => ?_⟩
      rw [Option.mem_def.mp listed] at accepted
      dsimp only at accepted
      split at accepted
      · next fits => exact Signature.refines_of_mayOverride fits
      · cases accepted

/-- A class in the making: its members are in order, and those of its superclass are kept. -/
structure ClassInfo.Heir (hierarchy : ClassHierarchy) (info parent : ClassInfo) : Prop where
  /-- The members are sound. -/
  sound : info.Sound
  /-- No attribute is a method. -/
  own : info.Conforms hierarchy info
  /-- The class conforms to its superclass. -/
  inherited : info.Conforms hierarchy parent

namespace ClassInfo.Heir

variable {parent info : ClassInfo} {name : String}

theorem addAttribute (heir : info.Heir hierarchy parent) (new : info.hasMember name = false)
    {type : ValueType} (known : type.Known) :
    ClassInfo.Heir hierarchy { info with attributes := info.attributes.insert name type }
      parent := by
  rw [hasMember, Bool.or_eq_false_iff] at new
  have noAttribute : info.attributes.find? name = none := by simpa [Table.contains] using new.1
  have noMethod : info.methods.find? name = none := by simpa [Table.contains] using new.2
  refine ⟨heir.sound.addAttribute name known, conforms_self hierarchy fun {other _} listed => ?_,
    fun {other _} listed => ?_, heir.inherited.methods⟩
  · change (info.attributes.insert name type).find? other = _ at listed
    rw [Table.find?_insert] at listed
    split at listed
    · next same => rw [beq_iff_eq.mp same, noMethod]
    · exact (heir.own.attributes listed).2
  · obtain ⟨kept, apart⟩ := heir.inherited.attributes listed
    have differ : other ≠ name := by
      rintro rfl
      rw [noAttribute] at kept
      cases kept
    exact ⟨by simp [differ, kept], apart⟩

theorem addMethod (heir : info.Heir hierarchy parent) (ordered : hierarchy.Ordered)
    (soundParent : parent.Sound) {signature : Signature} (known : signature.type.Known)
    (accepted : hierarchy.methodError? info name signature = none) :
    ClassInfo.Heir hierarchy { info with methods := info.methods.insert name signature }
      parent := by
  obtain ⟨noAttribute, refines⟩ := ClassHierarchy.methodError?_eq_none accepted
  have kept {other : String} {type : ValueType} (listed : info.attributes.find? other = some type) :
      (info.methods.insert name signature).find? other = none := by
    have differ : other ≠ name := by
      rintro rfl
      rw [noAttribute] at listed
      cases listed
    simpa [differ] using (heir.own.attributes listed).2
  refine ⟨heir.sound.addMethod name known, conforms_self hierarchy kept, fun listed => ?_,
    fun {other inherited} listed => ?_⟩
  · have inherits := (heir.inherited.attributes listed).1
    exact ⟨inherits, kept inherits⟩
  · obtain ⟨before, listedBefore, fits⟩ := heir.inherited.methods listed
    by_cases same : other = name
    · subst same
      refine ⟨signature, by simp, ?_⟩
      exact (refines before listedBefore).trans ordered known
        (heir.sound.methods _ _ listedBefore) (soundParent.methods _ _ listed) fits
    · exact ⟨before, by simp [same, listedBefore], fits⟩

end ClassInfo.Heir

theorem MemberAdded.heir {parent info own : ClassInfo} {decl : Decl}
    (added : MemberAdded hierarchy info decl own) (ordered : hierarchy.Ordered)
    (soundParent : parent.Sound) (heir : info.Heir hierarchy parent) :
    own.Heir hierarchy parent := by
  cases added with
  | ofAttribute new => exact heir.addAttribute new (WrittenType.denoted_known _)
  | ofMethod accepted =>
      exact heir.addMethod ordered soundParent (FunctionHeading.type_known _) accepted
  | unnamed _ => exact heir

/-! ## Classes -/

namespace Check

/-- A class that is declared without a problem conforms to its superclass. -/
theorem declareClass_conforming {name superclass : Identifier} {members : List Decl}
    (named : isName name.name.toList) (freshName : name.info.error = none)
    (freshSuperclass : superclass.info.error = none)
    (fresh : ∀ decl ∈ members, decl.outline.Fresh) {state : CheckState} (holds : state.Global)
    (conforming : state.hierarchy.Conforming)
    (clean : (declareClass name superclass members state).2.problems = []) :
    (declareClass name superclass members state).2.hierarchy.Conforming := by
  obtain ⟨free, -, parent, info, found, added, after⟩ :=
    declareClass_adds freshName freshSuperclass fresh state state rfl clean
  have listed := find?_of_superclass found
  have parentNamed := conforming.named listed
  have parentSound := conforming.sound _ _ listed
  have heir : info.Heir state.hierarchy parent := by
    refine added.keeps (fun step => step.heir conforming.toOrdered parentSound) ⟨?_, ?_, ?_⟩
    · exact ⟨parentSound.attributes, parentSound.methods, parentSound.constructor⟩
    · exact ⟨(conforming.own listed).attributes, (conforming.own listed).methods⟩
    · exact ⟨(conforming.own listed).attributes, (conforming.own listed).methods⟩
  obtain ⟨infoNamed, below⟩ := added.named
  have new : state.hierarchy.find? info.name = none := infoNamed ▸ holds.unlisted free
  have ordered : (state.hierarchy.add info).Ordered := by
    refine conforming.toOrdered.add new below ?_ ?_ ?_ ?_
    · simp [parentNamed, listed]
    · exact parentNamed ▸ superclass_extensible found
    · exact infoNamed ▸ ne_of_isName named (by decide +kernel)
    · exact infoNamed ▸ ne_of_isName named (by decide +kernel)
  rw [after]
  exact conforming.add ordered (conforming.sound.add heir.sound) new below
    (parentNamed ▸ listed) heir.own heir.inherited

theorem declareGlobal_conforming {decl : Decl} (named : decl.ClassNamed)
    (fresh : decl.outline.Fresh) {state : CheckState} (holds : state.Global)
    (conforming : state.hierarchy.Conforming)
    (clean : (declareGlobal decl state).2.problems = []) :
    (declareGlobal decl state).2.hierarchy.Conforming := by
  have other (defined : state.Defined (declareGlobal decl state).2) :
      (declareGlobal decl state).2.hierarchy.Conforming := by
    obtain ⟨-, same⟩ := holds.defined defined
    exact same ▸ conforming
  cases decl with
  | varDef _ var _ => exact other (Has.ran (declareVar var) state)
  | funcDef _ heading _ _ _ => exact other (Has.ran (declareFunction heading) state)
  | classDef _ name superclass members =>
      simp only [Decl.outline, Outline.all_node, Outline.allIn_cons, Decl.allIn_outlines,
        Identifier.fresh_outline_iff] at fresh
      exact declareClass_conforming named fresh.2.1.1 fresh.2.2.1.1 fresh.2.2.2 holds conforming
        clean
  | globalDecl _ _ | nonlocalDecl _ _ => exact other (Effect.refl state)

/-- Declaring at the top level without a problem keeps the classes conforming. -/
theorem declareGlobals_conforming {decls : List Decl} (named : ∀ decl ∈ decls, decl.ClassNamed)
    (fresh : ∀ decl ∈ decls, decl.outline.Fresh) {state : CheckState} (holds : state.Global)
    (conforming : state.hierarchy.Conforming)
    (clean : (declareGlobals decls state).2.problems = []) :
    (declareGlobals decls state).2.hierarchy.Conforming := by
  induction decls generalizing state with
  | nil => exact conforming
  | cons decl rest ih =>
      rw [List.forall_mem_cons] at named fresh
      have grown : (declareGlobal decl state).2.problems <+:
          (declareGlobals (decl :: rest) state).2.problems :=
        @Has.ran _ CheckState.Grown (declareGlobals rest) _ (declareGlobal decl state).2
      have between := List.prefix_nil.mp (clean ▸ grown)
      exact ih named.2 fresh.2 (declareGlobal_global named.1 holds).1
        (declareGlobal_conforming named.1 fresh.1 holds conforming between) clean

end Check

/-! ## Programs -/

/-- The classes present in every program have no attributes, and the same methods. -/
theorem ClassHierarchy.initial_conforming : initial.Conforming := by
  have all : ∀ info ∈ [objectInfo, specialInfo "int", specialInfo "bool", specialInfo "str"],
      info.attributes = {} ∧ info.methods = initialMethods := by
    simp [objectInfo, specialInfo]
  have members {name : String} {info : ClassInfo} (found : initial.find? name = some info) :=
    all info (Table.mem_values_of_find? found)
  have conforms {name other : String} {info above : ClassInfo}
      (found : initial.find? name = some info) (found' : initial.find? other = some above) :
      info.Conforms initial above := by
    obtain ⟨-, methods⟩ := members found
    obtain ⟨attributes, methods'⟩ := members found'
    refine ⟨fun listed => ?_, fun listed => ⟨_, ?_, .refl _ _⟩⟩
    · rw [attributes] at listed
      cases listed
    · rwa [methods, ← methods']
  exact ⟨initial_ordered, initial_sound, fun found => conforms found found,
    fun found _ listed => conforms found listed⟩

namespace Program

/-- Among the classes of a program without any error, all conform to their superclasses. -/
theorem hierarchy_conforming {file source : String} {program : Program}
    (read : Program.ofSource file source = .ok program) (accepted : program.check.errors = []) :
    program.hierarchy.Conforming := by
  have raw := (Program.raw_of_ofSource read).declarations
  exact Check.declareGlobals_conforming (fun decl among => (raw decl among).named)
    (fun decl among => (raw decl among).fresh) program.announced_global
    ClassHierarchy.initial_conforming (declared_clean accepted)

/--
In a program without any error, a class has the attributes of each of its superclasses, however
distant, with the same types, and methods that can be used like those of the superclass.
-/
theorem conforms_of_accepted {file source : String} {program : Program}
    (read : Program.ofSource file source = .ok program) (accepted : program.check.errors = [])
    {name other : String} {info above : ClassInfo}
    (found : program.hierarchy.find? name = some info)
    (found' : program.hierarchy.find? other = some above)
    (ancestor : other ∈ program.hierarchy.ancestors name) :
    info.Conforms program.hierarchy above :=
  (hierarchy_conforming read accepted).conforms
    ((hierarchy_conforming read accepted).mem_ancestors_iff.mp ancestor) found found'

/-- A program with a class whose superclass overrides a method of the class above it. -/
def overridingSource : String :=
  "class A(object):\n    x: int = 1\n    def m(self: \"A\", y: int) -> object:\n" ++
  "        return y\nclass B(A):\n    def m(self: \"B\", y: object) -> int:\n" ++
  "        return self.x\nclass C(B):\n    pass\n"

/-- The lowest class conforms to the highest one, although they are never compared. -/
theorem conforms_overridingSource : ∃ program info above,
    Program.ofSource "<input>" overridingSource = .ok program ∧ program.check.errors = [] ∧
      program.hierarchy.find? "C" = some info ∧ program.hierarchy.find? "A" = some above ∧
      (above.methods.find? "m").isSome ∧ (above.attributes.find? "x").isSome ∧
      info.Conforms program.hierarchy above := by
  obtain ⟨program, read, facts⟩ : ∃ program, Program.ofSource "<input>" overridingSource =
      .ok program ∧ (program.check.errors.isEmpty &&
        (program.hierarchy.ancestors "C").contains "A" &&
        (program.hierarchy.find? "C").isSome &&
        (program.hierarchy.find? "A").any fun above =>
          (above.methods.find? "m").isSome && (above.attributes.find? "x").isSome) = true :=
    exists_ok_of_any (by decide +kernel)
  simp only [Bool.and_eq_true, List.isEmpty_iff, List.contains_iff_mem, Option.isSome_iff_exists,
    Option.any_eq_true] at facts
  obtain ⟨⟨⟨accepted, ancestor⟩, info, found⟩, above, found', hasMethod, hasAttribute⟩ := facts
  exact ⟨program, info, above, read, accepted, found, found',
    Option.isSome_iff_exists.mpr hasMethod, Option.isSome_iff_exists.mpr hasAttribute,
    conforms_of_accepted read accepted found found' ancestor⟩

end Program
end ChocoLang
