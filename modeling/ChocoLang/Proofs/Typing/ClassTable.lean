import ChocoLang.Proofs.Typing.Order
import Mathlib.Order.Defs.Unbundled

/-!
# Well-formed class hierarchies

A class has the attributes and the method names of its superclass, and only `object` has none above
it.  This is kept when a class is added that starts from what its superclass has; so however many
classes are added, every chain of superclasses leads down the list of classes to `object`.
-/

namespace ChocoLang

/-- If no name is entered twice, then each entry is found under its name. -/
theorem Table.find?_of_mem {α : Type} {table : Table α} (distinct : table.names.Nodup)
    {name : String} {value : α} (among : (name, value) ∈ table.entries) :
    table.find? name = some value := by
  obtain ⟨entries⟩ := table
  change (entries.map Prod.fst).Nodup at distinct
  change (name, value) ∈ entries at among
  change entries.lookup name = some value
  induction entries with
  | nil => cases among
  | cons entry rest ih =>
      obtain ⟨key, stored⟩ := entry
      obtain ⟨new, others⟩ := List.nodup_cons.mp distinct
      rcases List.mem_cons.mp among with same | later
      · cases same
        simp
      · have differ : (name == key) = false := by
          rw [beq_eq_false_iff_ne]
          rintro rfl
          exact new (List.mem_map.mpr ⟨_, later, rfl⟩)
        rw [List.lookup_cons, differ]
        exact ih others later

/-- The class has the attributes of the other, with the same types, and methods of all its names. -/
structure ClassInfo.Inherits (info parent : ClassInfo) : Prop where
  /-- The attributes are inherited. -/
  attributes : ∀ {name type}, parent.attributes.find? name = some type →
    info.attributes.find? name = some type
  /-- There are methods of the same names. -/
  methods : ∀ {name}, (parent.methods.find? name).isSome → (info.methods.find? name).isSome

namespace ClassInfo.Inherits

variable {info parent : ClassInfo} {name : String}

/-- A class inherits from its superclass before members of its own are added. -/
theorem subclass (parent : ClassInfo) {info : ClassInfo}
    (attributes : info.attributes = parent.attributes) (methods : info.methods = parent.methods) :
    info.Inherits parent :=
  ⟨fun listed => attributes ▸ listed, fun listed => methods ▸ listed⟩

/-- An attribute may be added if there is no member of its name. -/
theorem addAttribute (inherits : info.Inherits parent) (new : info.hasMember name = false)
    (type : ValueType) :
    ClassInfo.Inherits { info with attributes := info.attributes.insert name type } parent := by
  refine ⟨fun {other own} listed => ?_, inherits.methods⟩
  have kept := inherits.attributes listed
  have differ : other ≠ name := by
    rintro rfl
    simp [hasMember, Table.contains, kept] at new
  simp [differ, kept]

theorem addMethod (inherits : info.Inherits parent) (name : String) (signature : Signature) :
    ClassInfo.Inherits { info with methods := info.methods.insert name signature } parent := by
  refine ⟨inherits.attributes, fun {other} listed => ?_⟩
  rw [Table.find?_insert]
  split
  · rfl
  · exact inherits.methods listed

end ClassInfo.Inherits

namespace ClassHierarchy

variable {hierarchy : ClassHierarchy}

/-- The classes stand below `object`, and each has what its superclass has. -/
structure Rooted (hierarchy : ClassHierarchy) : Prop extends hierarchy.Grounded where
  /-- No class is listed twice. -/
  distinct : hierarchy.names.Nodup
  /-- Only `object` has no superclass. -/
  rooted : ∀ {name info}, hierarchy.find? name = some info → info.superclass = none →
    name = "object"
  /-- A class that excludes the absent value is no superclass. -/
  extensible : ∀ {name info next}, hierarchy.find? name = some info →
    info.superclass = some next → next ∉ ValueType.specialClasses
  /-- A class inherits from its superclass. -/
  inherits : ∀ {name info next parent}, hierarchy.find? name = some info →
    info.superclass = some next → hierarchy.find? next = some parent → info.Inherits parent
  /-- Every class has a constructor. -/
  constructor : ∀ {name info}, hierarchy.find? name = some info →
    (info.methods.find? "__init__").isSome

/-- The classes of every program are well formed: what holds of them, errors or not. -/
structure WellFormed (hierarchy : ClassHierarchy) : Prop where
  /-- A class other than `object` has a superclass, which was added before it and from which it
  inherits. -/
  superclass : ∀ {name info}, hierarchy.find? name = some info → name ≠ "object" →
    ∃ next parent, info.superclass = some next ∧ hierarchy.find? next = some parent ∧
      hierarchy.names.idxOf next < hierarchy.names.idxOf name ∧ info.Inherits parent
  /-- The superclasses of a class are without repetition and end in `object`. -/
  ancestors : ∀ {name}, (hierarchy.find? name).isSome →
    (hierarchy.ancestors name).Nodup ∧ (hierarchy.ancestors name).getLast? = some "object"
  /-- No class but these themselves is below a class that excludes the absent value. -/
  special : ∀ {name}, (hierarchy.find? name).isSome → name ∉ ValueType.specialClasses →
    ∀ other ∈ hierarchy.ancestors name, other ∉ ValueType.specialClasses
  /-- Every class has a constructor. -/
  constructor : ∀ {name info}, hierarchy.find? name = some info →
    (info.methods.find? "__init__").isSome

/-! ## Superclasses -/

theorem Grounded.exists_superclass (grounded : hierarchy.Grounded) {name next : String}
    {info : ClassInfo} (found : hierarchy.find? name = some info)
    (below : info.superclass = some next) : ∃ parent, hierarchy.find? next = some parent :=
  Option.isSome_iff_exists.mp
    (grounded.listed_of_extends ((superclassOf?_of_find? found).trans below))

/-- A chain of superclasses leads down the list of classes, so it ends in `object`. -/
theorem Rooted.ancestors (rooted : hierarchy.Rooted) {name : String}
    (listed : (hierarchy.find? name).isSome) :
    (hierarchy.ancestors name).Nodup ∧ (hierarchy.ancestors name).getLast? = some "object" := by
  induction place : hierarchy.names.idxOf name using Nat.strongRecOn generalizing name with
  | ind index ih =>
      obtain ⟨info, found⟩ := Option.isSome_iff_exists.mp listed
      have above := superclassOf?_of_find? found
      cases inherits : info.superclass with
      | none =>
          obtain rfl := rooted.rooted found inherits
          rw [ancestors_of_root (above.trans inherits)]
          exact ⟨by simp, rfl⟩
      | some next =>
          have extends' : hierarchy.Extends name next := above.trans inherits
          have before := rooted.idxOf_lt_of_extends extends'
          obtain ⟨distinct, ends⟩ :=
            ih _ (place ▸ before) (rooted.listed_of_extends extends') rfl
          rw [rooted.ancestors_of_extends extends']
          refine ⟨List.nodup_cons.mpr ⟨fun among => ?_, distinct⟩, ?_⟩
          · rcases rooted.eq_or_idxOf_lt (rooted.mem_ancestors_iff.mp among) with same | behind
            · exact Nat.lt_irrefl _ (same ▸ before)
            · exact Nat.lt_asymm before behind
          · rw [List.getLast?_cons, ends]
            rfl

/-- No class is below one that excludes the absent value. -/
theorem Rooted.eq_of_special (rooted : hierarchy.Rooted) {name other : String}
    (special : other ∈ ValueType.specialClasses) (above : other ∈ hierarchy.ancestors name) :
    name = other := by
  cases rooted.mem_ancestors_iff.mp above with
  | refl => rfl
  | @tail last _ _ step =>
      unfold Extends superclassOf? at step
      split at step
      · next found => exact absurd special (rooted.extensible found step)
      · split at step
        · cases step
        · cases step
          exact absurd special (by decide)

theorem Rooted.wellFormed (rooted : hierarchy.Rooted) : hierarchy.WellFormed where
  superclass {name info} found other := by
    cases above : info.superclass with
    | none => exact absurd (rooted.rooted found above) other
    | some next =>
        obtain ⟨parent, found'⟩ := rooted.exists_superclass found above
        exact ⟨next, parent, rfl, found', rooted.order found above,
          rooted.inherits found above found'⟩
  ancestors := rooted.ancestors
  special _ plain _ above special := plain (rooted.eq_of_special special above ▸ special)
  constructor := rooted.constructor

/-! ## Adding classes -/

/-- A new class may be added below a listed one from which it inherits. -/
theorem Rooted.add (rooted : hierarchy.Rooted) {info parent : ClassInfo}
    (new : hierarchy.find? info.name = none) (below : info.superclass = some parent.name)
    (listed : hierarchy.find? parent.name = some parent)
    (extensible : parent.name ∉ ValueType.specialClasses) (inherits : info.Inherits parent) :
    (hierarchy.add info).Rooted := by
  have found_cases {name : String} {one : ClassInfo}
      (found : (hierarchy.add info).find? name = some one) :
      one = info ∨ name ≠ info.name ∧ hierarchy.find? name = some one := by
    rw [find?_add] at found
    split at found
    · exact .inl (Option.some.inj found).symm
    · next differ => exact .inr ⟨by simpa using differ, found⟩
  have distinct : (hierarchy.add info).names.Nodup := by
    have absent : info.name ∉ hierarchy.names := by
      simp [← find?_isSome_iff_mem_names, new]
    rw [names_add new, List.nodup_append]
    refine ⟨rooted.distinct, by simp, fun name among other among' => ?_⟩
    rw [List.mem_singleton.mp among']
    exact fun same => absent (same ▸ among)
  refine ⟨rooted.toGrounded.add new below (by simp [listed]), distinct, fun found root => ?_,
    fun found above => ?_, fun {name one next above} found isBelow found' => ?_, fun found => ?_⟩
  · rcases found_cases found with rfl | ⟨-, found⟩
    · rw [below] at root
      cases root
    · exact rooted.rooted found root
  · rcases found_cases found with rfl | ⟨-, found⟩
    · obtain rfl := Option.some.inj (below.symm.trans above)
      exact extensible
    · exact rooted.extensible found above
  · rcases found_cases found with rfl | ⟨-, found⟩
    · obtain rfl := Option.some.inj (below.symm.trans isBelow)
      rw [(grows_add new).kept listed] at found'
      exact Option.some.inj found' ▸ inherits
    · obtain ⟨parent', found''⟩ := rooted.exists_superclass found isBelow
      rw [(grows_add new).kept found''] at found'
      exact Option.some.inj found' ▸ rooted.inherits found isBelow found''
  · rcases found_cases found with rfl | ⟨-, found⟩
    · exact inherits.methods (rooted.constructor listed)
    · exact rooted.constructor found

theorem initial_rooted : initial.Rooted := by
  have all : ∀ info ∈ [objectInfo, specialInfo "int", specialInfo "bool", specialInfo "str"],
      info.attributes = {} ∧ info.methods = initialMethods ∧
        (info.superclass = none → info.name = "object") := by
    simp [objectInfo, specialInfo]
  have facts {name : String} {info : ClassInfo} (found : initial.find? name = some info) :=
    all info (Table.mem_values_of_find? found)
  refine ⟨initial_grounded, by decide, fun found root => ?_, fun found above => ?_,
    fun found _ found' => ?_, fun found => ?_⟩
  · exact initial_grounded.named found ▸ (facts found).2.2 root
  · rw [superclass_of_initial found above]
    decide
  · exact .subclass _ ((facts found).1.trans (facts found').1.symm)
      ((facts found).2.1.trans (facts found').2.1.symm)
  · rw [(facts found).2.1]
    rfl

end ClassHierarchy
end ChocoLang

/-!
## Hierarchies built class by class

A hierarchy is built from the classes present in every program by adding classes, each under a new
name and below a class that is there already and may be extended.  In every hierarchy so built,
assignability is a partial order of the types, the unknown type apart, which fits everywhere.
-/

namespace ChocoLang
namespace ClassHierarchy

/-- The hierarchies that come of adding classes to those present in every program. -/
inductive Built : ClassHierarchy → Prop where
  | initial : Built initial
  /-- A class of a new name is added below a listed class that is not `int`, `bool` or `str`. -/
  | add {hierarchy : ClassHierarchy} {info : ClassInfo} {parent : String}
      (built : Built hierarchy) (new : hierarchy.find? info.name = none)
      (noNone : info.name ≠ "<None>") (noEmpty : info.name ≠ "<Empty>")
      (below : info.superclass = some parent) (listed : (hierarchy.find? parent).isSome)
      (extensible : parent ∉ ["int", "bool", "str"]) : Built (hierarchy.add info)

namespace Built

variable {hierarchy : ClassHierarchy}

theorem ordered (built : hierarchy.Built) : hierarchy.Ordered := by
  induction built with
  | initial => exact initial_ordered
  | add _ new noNone noEmpty below listed extensible ih =>
      exact ih.add new below listed extensible noNone noEmpty

/-- The classes present in every program stay as they are. -/
theorem grows (built : hierarchy.Built) : ClassHierarchy.initial.Grows hierarchy := by
  induction built with
  | initial => exact .refl _
  | add _ new _ _ _ _ _ ih => exact ih.trans (grows_add new)

/--
Among the types that are not unknown, assignability is reflexive, transitive and antisymmetric.
-/
theorem isPartialOrder (built : hierarchy.Built) :
    IsPartialOrder {type : ValueType // type.isUnknown = false}
      fun source target => hierarchy.isAssignable source target = true where
  refl type := hierarchy.isAssignable_refl type
  trans a b c := built.ordered.isAssignable_trans a.2 b.2 c.2
  antisymm a b first second := by
    rw [isAssignable_iff_fits built.ordered a.2 b.2] at first
    rw [isAssignable_iff_fits built.ordered b.2 a.2] at second
    exact Subtype.ext (first.antisymm built.ordered second)

end Built

/-- A hierarchy with a class and a class below it. -/
def chained : ClassHierarchy :=
  (initial.add { name := "A", superclass := some "object" }).add
    { name := "B", superclass := some "A" }

theorem chained_built : chained.Built :=
  .add (.add .initial rfl (by decide) (by decide) rfl rfl (by decide)) rfl (by decide) (by decide)
    rfl rfl (by decide)

/-- The order of a hierarchy with classes of a program, in which no two of four types agree. -/
theorem isPartialOrder_chained :
    chained.Built ∧
      ([.none, .classType "B", .classType "A", .object].Pairwise fun lower upper =>
        chained.isAssignable lower upper = true ∧ chained.isAssignable upper lower = false) ∧
      IsPartialOrder {type : ValueType // type.isUnknown = false}
        fun source target => chained.isAssignable source target = true :=
  ⟨chained_built, by decide, Built.isPartialOrder chained_built⟩

end ClassHierarchy
end ChocoLang
