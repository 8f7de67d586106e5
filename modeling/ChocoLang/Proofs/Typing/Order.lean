import ChocoLang.Proofs.Typing.Growth
import ChocoLang.Proofs.Typing.Rules
import Mathlib.Logic.Relation

/-!
# Assignability as an order

A value of a type that is not unknown fits a place in one of six ways.  Two of them compose to one,
provided that the classes which exclude the absent value have no subclasses, and that neither the
absent value nor the empty list has a class among those listed.
-/

namespace ChocoLang

/-- The absent value is of the type. -/
def ValueType.MayBeAbsent (type : ValueType) : Prop :=
  type.isSpecial = false ∧ type.isFunction = false

instance (type : ValueType) : Decidable type.MayBeAbsent :=
  inferInstanceAs (Decidable (_ ∧ _))

namespace ClassHierarchy

variable {hierarchy : ClassHierarchy} {name other : String}

/-! ## Superclasses -/

/-- The second name is that of the direct superclass of the first. -/
def Extends (hierarchy : ClassHierarchy) (name next : String) : Prop :=
  hierarchy.superclassOf? name = some next

/-- One class is reached from another by way of superclasses. -/
def Reaches (hierarchy : ClassHierarchy) : String → String → Prop :=
  Relation.ReflTransGen hierarchy.Extends

theorem Grounded.listed_of_extends (grounded : hierarchy.Grounded)
    (above : hierarchy.Extends name other) : (hierarchy.find? other).isSome := by
  unfold Extends superclassOf? at above
  split at above
  · next info found =>
      have earlier := grounded.order found above
      refine (hierarchy.find?_isSome_iff_mem_names other).mpr (List.idxOf_lt_length_iff.mp ?_)
      exact Nat.lt_trans earlier (idxOf_lt_of_find? found)
  · obtain ⟨object, found, -⟩ := grounded.object
    split at above
    · cases above
    · cases above
      simp [found]

theorem reaches_of_mem_chain {bound : Nat} {seen : List String}
    (among : other ∈ hierarchy.chain bound seen name) : hierarchy.Reaches name other := by
  induction bound generalizing seen name with
  | zero => cases among
  | succ bound ih =>
      unfold chain at among
      split at among
      · obtain rfl := List.mem_singleton.mp among
        exact .refl
      · next next above =>
          split at among
          · obtain rfl := List.mem_singleton.mp among
            exact .refl
          · rcases List.mem_cons.mp among with rfl | further
            · exact .refl
            · exact (ih further).head above

theorem ancestors_of_root (root : hierarchy.superclassOf? name = none) :
    hierarchy.ancestors name = [name] := by
  simp [ancestors, chain, root]

/-- The superclasses of a class are its direct superclass and the superclasses of that one. -/
theorem Grounded.ancestors_of_extends (grounded : hierarchy.Grounded)
    (above : hierarchy.Extends name other) :
    hierarchy.ancestors name = name :: hierarchy.ancestors other := by
  have listed := grounded.listed_of_extends above
  cases found : hierarchy.find? name with
  | none =>
      obtain ⟨object, foundObject, root⟩ := grounded.object
      have noObject : name ≠ "object" := by
        rintro rfl
        rw [found] at foundObject
        cases foundObject
      obtain rfl : "object" = other := by simpa [Extends, superclassOf?, found, noObject] using above
      rw [ancestors_eq_of_find?_eq_none grounded found,
        ancestors_of_root ((superclassOf?_of_find? foundObject).trans root)]
  | some info =>
      have earlier : hierarchy.names.idxOf other < hierarchy.names.idxOf name :=
        grounded.order found ((superclassOf?_of_find? found).symm.trans above)
      have differ : other ≠ name := by
        rintro rfl
        exact Nat.lt_irrefl _ earlier
      have inside := idxOf_lt_of_find? found
      have count : hierarchy.names.length = hierarchy.classes.entries.length := by
        simp [names, Table.names]
      have again : hierarchy.chain (hierarchy.classes.entries.length + 1) [name] other =
          hierarchy.ancestors other :=
        chain_eq grounded (.refl hierarchy) _ _ listed (by omega) (by omega)
          (by simpa using earlier) (by simp)
      rw [ancestors, chain, show hierarchy.superclassOf? name = some other from above]
      simp [differ, again]

theorem Grounded.mem_ancestors_iff (grounded : hierarchy.Grounded) :
    other ∈ hierarchy.ancestors name ↔ hierarchy.Reaches name other := by
  refine ⟨reaches_of_mem_chain, fun reaches => ?_⟩
  induction reaches using Relation.ReflTransGen.head_induction_on with
  | refl =>
      cases above : hierarchy.superclassOf? other with
      | none => simp [ancestors_of_root above]
      | some next => simp [grounded.ancestors_of_extends above]
  | head above _ ih =>
      rw [grounded.ancestors_of_extends above]
      exact List.mem_cons_of_mem _ ih

/-- A superclass is listed before the classes that it is reached from. -/
theorem Grounded.idxOf_lt_of_extends (grounded : hierarchy.Grounded)
    (above : hierarchy.Extends name other) :
    hierarchy.names.idxOf other < hierarchy.names.idxOf name := by
  have listed := grounded.listed_of_extends above
  cases found : hierarchy.find? name with
  | some info => exact grounded.order found ((superclassOf?_of_find? found).symm.trans above)
  | none =>
      have absent : name ∉ hierarchy.names := by
        rw [← hierarchy.find?_isSome_iff_mem_names, found]
        simp
      rw [List.idxOf_eq_length absent]
      exact List.idxOf_lt_length_iff.mpr ((hierarchy.find?_isSome_iff_mem_names other).mp listed)

theorem Grounded.eq_or_idxOf_lt (grounded : hierarchy.Grounded)
    (reaches : hierarchy.Reaches name other) :
    name = other ∨ hierarchy.names.idxOf other < hierarchy.names.idxOf name := by
  induction reaches with
  | refl => exact .inl rfl
  | tail _ above ih =>
      have earlier := grounded.idxOf_lt_of_extends above
      rcases ih with rfl | before
      · exact .inr earlier
      · exact .inr (Nat.lt_trans earlier before)

theorem Grounded.reaches_antisymm (grounded : hierarchy.Grounded)
    (first : hierarchy.Reaches name other) (second : hierarchy.Reaches other name) :
    name = other := by
  rcases grounded.eq_or_idxOf_lt first with same | before
  · exact same
  rcases grounded.eq_or_idxOf_lt second with same | behind
  · exact same.symm
  · exact absurd (Nat.lt_trans before behind) (Nat.lt_irrefl _)

theorem Grounded.ancestors_trans (grounded : hierarchy.Grounded) {next : String}
    (first : next ∈ hierarchy.ancestors name) (second : other ∈ hierarchy.ancestors next) :
    other ∈ hierarchy.ancestors name := by
  rw [grounded.mem_ancestors_iff] at first second ⊢
  exact first.trans second

/-! ## Ordered hierarchies -/

/--
Classes are listed behind their superclasses, only classes whose members may be absent have
subclasses, and neither the absent value nor the empty list has a class of its own.
-/
structure Ordered (hierarchy : ClassHierarchy) : Prop extends hierarchy.Grounded where
  /-- A class that excludes the absent value is no superclass. -/
  extensible : ∀ {name info next}, hierarchy.find? name = some info →
    info.superclass = some next → next ∉ ValueType.specialClasses
  /-- The class of the absent value is not listed. -/
  noNone : hierarchy.find? ValueType.none.display = none
  /-- The class of the empty list is not listed. -/
  noEmpty : hierarchy.find? ValueType.empty.display = none

/-- The classes present in every program extend none but `object`. -/
theorem superclass_of_initial {info : ClassInfo} (found : initial.find? name = some info)
    (inherits : info.superclass = some other) : other = "object" := by
  have all : ∀ info ∈ [objectInfo, specialInfo "int", specialInfo "bool", specialInfo "str"],
      ∀ next ∈ info.superclass, next = "object" := by
    simp [objectInfo, specialInfo]
  exact all info (Table.mem_values_of_find? found) other inherits

theorem initial_ordered : initial.Ordered := by
  refine ⟨initial_grounded, fun found inherits => ?_, rfl, rfl⟩
  rw [superclass_of_initial found inherits]
  decide

/-- A hierarchy stays ordered when a new class is added below one that may be extended. -/
theorem Ordered.add (ordered : hierarchy.Ordered) {info : ClassInfo} {parent : String}
    (new : hierarchy.find? info.name = none) (below : info.superclass = some parent)
    (listed : (hierarchy.find? parent).isSome) (extensible : parent ∉ ValueType.specialClasses)
    (noNone : info.name ≠ ValueType.none.display) (noEmpty : info.name ≠ ValueType.empty.display) :
    (hierarchy.add info).Ordered := by
  refine ⟨ordered.toGrounded.add new below listed, fun {name other next} found inherits => ?_,
    ?_, ?_⟩
  · rw [find?_add] at found
    split at found
    · cases found
      obtain rfl := Option.some.inj (below.symm.trans inherits)
      exact extensible
    · exact ordered.extensible found inherits
  · simp [find?_add, Ne.symm noNone, ordered.noNone]
  · simp [find?_add, Ne.symm noEmpty, ordered.noEmpty]

/-- A class whose members may not be absent is reached from no other class. -/
theorem Ordered.eq_of_special (ordered : hierarchy.Ordered)
    (special : other ∈ ValueType.specialClasses) (reaches : hierarchy.Reaches name other) :
    name = other := by
  cases reaches with
  | refl => rfl
  | @tail last _ _ above =>
      unfold Extends superclassOf? at above
      split at above
      · next found => exact absurd special (ordered.extensible found above)
      · split at above
        · cases above
        · cases above
          exact absurd special (by decide)

/-- A class that is not listed is reached from no other class. -/
theorem Grounded.eq_of_unlisted (grounded : hierarchy.Grounded)
    (unlisted : hierarchy.find? other = none) (reaches : hierarchy.Reaches name other) :
    name = other := by
  cases reaches with
  | refl => rfl
  | tail _ above =>
      have listed := grounded.listed_of_extends above
      rw [unlisted] at listed
      cases listed

/-! ## Ways to fit -/

variable {source target : ValueType}

/-- The ways in which a value of a type fits a place of another, if neither type is unknown. -/
inductive Fits (hierarchy : ClassHierarchy) : ValueType → ValueType → Prop where
  | same (type : ValueType) : Fits hierarchy type type
  | object {source : ValueType} (value : source.isFunction = false) : Fits hierarchy source .object
  | subclass {name other : String} (above : other ∈ hierarchy.ancestors name) :
      Fits hierarchy (.classType name) (.classType other)
  | absent {target : ValueType} (takes : target.MayBeAbsent) : Fits hierarchy .none target
  | emptyList (element : ValueType) : Fits hierarchy .empty (.list element)
  | absentElements {wanted : ValueType} (takes : wanted.MayBeAbsent) :
      Fits hierarchy (.list .none) (.list wanted)

theorem isSubtype_iff (certain : source.isUnknown = false)
    (certain' : target.isUnknown = false) :
    hierarchy.isSubtype source target = true ↔
      source = target ∨ target = .object ∧ source.isFunction = false ∨
        ∃ name other, source = .classType name ∧ target = .classType other ∧
          other ∈ hierarchy.ancestors name := by
  unfold isSubtype
  simp only [certain, certain', Bool.or_self, Bool.false_eq_true, if_false]
  split
  · next same => simp [same]
  split
  · next differ object =>
      subst object
      cases source <;> simp_all [ValueType.object, ValueType.isFunction]
  · next differ noObject =>
      cases source <;> cases target <;> simp_all [ValueType.object, ValueType.isFunction]

theorem acceptsNone_iff (ordered : hierarchy.Ordered) :
    hierarchy.acceptsNone target = true ↔ target.MayBeAbsent := by
  have plain (certain : target.isUnknown = false) :
      hierarchy.isSubtype .none target = true → target.MayBeAbsent := by
    rw [isSubtype_iff rfl certain]
    rintro (rfl | ⟨rfl, -⟩ | ⟨name, other, same, rfl, above⟩)
    · decide
    · decide
    · obtain rfl : "<None>" = name := ValueType.classType.inj same
      have unlisted : hierarchy.find? "<None>" = none := ordered.noNone
      rw [ancestors_eq_of_find?_eq_none ordered.toGrounded unlisted] at above
      rcases List.mem_pair.mp above with rfl | rfl <;> decide
  rw [acceptsNone, Bool.or_eq_true]
  constructor
  · rintro (subtype | takes)
    · cases target with
      | unknown => exact ⟨rfl, rfl⟩
      | _ => exact plain rfl subtype
    · simpa [ValueType.MayBeAbsent] using takes
  · exact fun takes => .inr (by simpa [ValueType.MayBeAbsent] using takes)

theorem isAssignable_iff_fits (ordered : hierarchy.Ordered) (certain : source.isUnknown = false)
    (certain' : target.isUnknown = false) :
    hierarchy.isAssignable source target = true ↔ hierarchy.Fits source target := by
  rw [isAssignable_eq, Bool.or_eq_true, isSubtype_iff certain certain']
  constructor
  · rintro ((rfl | ⟨rfl, value⟩ | ⟨name, other, rfl, rfl, above⟩) | otherwise)
    · exact .same source
    · exact .object value
    · exact .subclass above
    · unfold fitsOtherwise at otherwise
      split at otherwise
      · next absent =>
          subst absent
          exact .absent (by simpa [ValueType.MayBeAbsent] using otherwise)
      split at otherwise
      · next empty =>
          subst empty
          cases target <;> simp [ValueType.isList] at otherwise
          exact .emptyList _
      split at otherwise
      · next element wanted _ _ =>
          rw [Bool.and_eq_true, decide_eq_true_iff] at otherwise
          obtain ⟨rfl, accepts⟩ := otherwise
          exact .absentElements ((acceptsNone_iff ordered).mp accepts)
      · cases otherwise
  · intro fits
    cases fits with
    | same type => exact .inl (.inl rfl)
    | object value => exact .inl (.inr (.inl ⟨rfl, value⟩))
    | subclass above => exact .inl (.inr (.inr ⟨_, _, rfl, rfl, above⟩))
    | absent takes =>
        refine .inr ?_
        simpa [fitsOtherwise, ValueType.MayBeAbsent] using takes
    | emptyList element => exact .inr rfl
    | absentElements takes =>
        refine .inr ?_
        simpa [fitsOtherwise, ValueType.none, ValueType.empty] using
          (acceptsNone_iff ordered).mpr takes

/-! ## The order -/

theorem ancestors_object (grounded : hierarchy.Grounded) :
    hierarchy.ancestors "object" = ["object"] := by
  obtain ⟨object, found, root⟩ := grounded.object
  exact ancestors_of_root ((superclassOf?_of_find? found).trans root)

/-- A superclass of a class whose members may be absent is such a class, too. -/
theorem Ordered.mayBeAbsent_of_mem (ordered : hierarchy.Ordered)
    (above : other ∈ hierarchy.ancestors name)
    (takes : (ValueType.classType name).MayBeAbsent) :
    (ValueType.classType other).MayBeAbsent := by
  refine ⟨Bool.eq_false_iff.mpr fun special => ?_, rfl⟩
  have among : other ∈ ValueType.specialClasses := by simpa [ValueType.isSpecial] using special
  have reaches := ordered.toGrounded.mem_ancestors_iff.mp above
  rw [ordered.eq_of_special among reaches] at takes
  rw [takes.1] at special
  cases special

/-- A value that may be any fits no other place than one that takes all. -/
theorem Fits.eq_object (grounded : hierarchy.Grounded) (fits : hierarchy.Fits .object target) :
    target = .object := by
  generalize same : ValueType.object = source at fits
  cases fits with
  | same => rfl
  | object _ => exact same
  | subclass above =>
      obtain rfl : "object" = _ := ValueType.classType.inj same
      rw [ancestors_object grounded, List.mem_singleton] at above
      rw [above]
  | absent _ | emptyList _ => exact absurd same (by decide)
  | absentElements _ => cases same

/-- Two ways to fit, one after the other, compose to one. -/
theorem Fits.trans (ordered : hierarchy.Ordered) {a b c : ValueType}
    (first : hierarchy.Fits a b) (second : hierarchy.Fits b c) : hierarchy.Fits a c := by
  cases first with
  | same => exact second
  | object value =>
      rw [second.eq_object ordered.toGrounded]
      exact .object value
  | @subclass name middle above =>
      cases second with
      | same => exact .subclass above
      | object _ => exact .object rfl
      | subclass higher => exact .subclass (ordered.toGrounded.ancestors_trans above higher)
      | absent takes =>
          have reaches := ordered.toGrounded.mem_ancestors_iff.mp above
          obtain rfl := ordered.toGrounded.eq_of_unlisted ordered.noNone reaches
          exact .absent takes
      | emptyList element =>
          have reaches := ordered.toGrounded.mem_ancestors_iff.mp above
          obtain rfl := ordered.toGrounded.eq_of_unlisted ordered.noEmpty reaches
          exact .emptyList element
  | absent takes =>
      cases second with
      | same => exact .absent takes
      | object _ => exact .object rfl
      | subclass above => exact .absent (ordered.mayBeAbsent_of_mem above takes)
      | absent takes => exact .absent takes
      | emptyList _ | absentElements _ => exact .absent ⟨rfl, rfl⟩
  | emptyList element =>
      cases second with
      | same => exact .emptyList element
      | object _ => exact .object rfl
      | absentElements takes => exact .emptyList _
  | absentElements takes =>
      cases second with
      | same => exact .absentElements takes
      | object _ => exact .object rfl
      | absentElements takes' => exact .absentElements takes'

/-- A value fits no place for the absent value but that value. -/
theorem Fits.eq_none (ordered : hierarchy.Ordered) (fits : hierarchy.Fits source .none) :
    source = .none := by
  generalize same : ValueType.none = target at fits ⊢
  cases fits with
  | same => rfl
  | object _ => exact absurd same (by decide)
  | subclass above =>
      obtain rfl : "<None>" = _ := ValueType.classType.inj same
      have reaches := ordered.toGrounded.mem_ancestors_iff.mp above
      rw [ordered.toGrounded.eq_of_unlisted ordered.noNone reaches]
      rfl
  | absent _ => exact same
  | emptyList _ | absentElements _ => cases same

/-- A value fits a place for the empty list only if it is that list or absent. -/
theorem Fits.eq_empty_or_none (ordered : hierarchy.Ordered)
    (fits : hierarchy.Fits source .empty) : source = .empty ∨ source = .none := by
  generalize same : ValueType.empty = target at fits ⊢
  cases fits with
  | same => exact .inl rfl
  | object _ => exact absurd same (by decide)
  | subclass above =>
      obtain rfl : "<Empty>" = _ := ValueType.classType.inj same
      have reaches := ordered.toGrounded.mem_ancestors_iff.mp above
      rw [ordered.toGrounded.eq_of_unlisted ordered.noEmpty reaches]
      exact .inl rfl
  | absent _ => exact .inr rfl
  | emptyList _ | absentElements _ => cases same

/-- Types whose values fit each other's places are the same. -/
theorem Fits.antisymm (ordered : hierarchy.Ordered) {a b : ValueType}
    (first : hierarchy.Fits a b) (second : hierarchy.Fits b a) : a = b := by
  cases first with
  | same => rfl
  | object _ => exact second.eq_object ordered.toGrounded
  | @subclass name other above =>
      have reaches := ordered.toGrounded.mem_ancestors_iff.mp above
      generalize shape : ValueType.classType name = a at second ⊢
      generalize shape' : ValueType.classType other = b at second ⊢
      cases second with
      | same => rfl
      | object _ =>
          obtain rfl := ValueType.classType.inj shape
          rw [ancestors_object ordered.toGrounded, List.mem_singleton] at above
          rw [← shape', above]
          rfl
      | subclass back =>
          cases shape
          cases shape'
          have reaches' := ordered.toGrounded.mem_ancestors_iff.mp back
          rw [ordered.toGrounded.reaches_antisymm reaches reaches']
      | absent _ =>
          obtain rfl : other = "<None>" := ValueType.classType.inj shape'
          rw [← shape, ordered.toGrounded.eq_of_unlisted ordered.noNone reaches]
          rfl
      | emptyList _ | absentElements _ => cases shape
  | absent _ => exact (second.eq_none ordered).symm
  | emptyList element =>
      obtain same | same := second.eq_empty_or_none ordered <;> cases same
  | absentElements _ =>
      cases second with
      | same => rfl
      | absentElements _ => rfl

/-- Apart from the unknown type, assignability is transitive. -/
theorem Ordered.isAssignable_trans (ordered : hierarchy.Ordered) {a b c : ValueType}
    (certain : a.isUnknown = false) (certain' : b.isUnknown = false)
    (certain'' : c.isUnknown = false)
    (first : hierarchy.isAssignable a b = true) (second : hierarchy.isAssignable b c = true) :
    hierarchy.isAssignable a c = true := by
  rw [isAssignable_iff_fits ordered ‹_› ‹_›] at first second ⊢
  exact first.trans ordered second

theorem isAssignable_refl (hierarchy : ClassHierarchy) (type : ValueType) :
    hierarchy.isAssignable type type = true := by
  simp [isAssignable, isSubtype]

end ClassHierarchy
end ChocoLang
