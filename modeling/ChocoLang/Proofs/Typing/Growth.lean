import ChocoLang.Checking.Declaration
import Mathlib.Data.List.Basic

/-!
# Growing hierarchies

Classes are added to a hierarchy below classes that it lists already.  The superclasses of a listed
class stay what they are, while a class that is not listed counts as a direct subclass of `object`
until it is.  So a value may fit a place in the larger hierarchy and not in the smaller one, but
only if it is of a class that is added in between.
-/

namespace ChocoLang

namespace Table

variable {α : Type}

theorem find?_isSome_iff (table : Table α) (name : String) :
    (table.find? name).isSome ↔ name ∈ table.names := by
  obtain ⟨entries⟩ := table
  simp only [find?, names]
  induction entries with
  | nil => simp
  | cons entry rest ih =>
      obtain ⟨key, value⟩ := entry
      rw [List.lookup_cons]
      cases same : name == key with
      | true => simp_all
      | false => simp_all

theorem mem_values_of_find? {table : Table α} {name : String} {value : α}
    (found : table.find? name = some value) : value ∈ table.values := by
  obtain ⟨front, back, shape, -⟩ := List.lookup_eq_some_iff.mp found
  simp [values, shape]

/-- A new name is entered behind the others. -/
theorem names_insert_of_find?_eq_none (table : Table α) {name : String} (value : α)
    (new : table.find? name = none) : (table.insert name value).names = table.names ++ [name] := by
  obtain ⟨entries⟩ := table
  simp only [find?, insert, names] at new ⊢
  induction entries with
  | nil => rfl
  | cons entry rest ih =>
      obtain ⟨key, stored⟩ := entry
      rw [List.lookup_cons] at new
      cases same : name == key with
      | true => simp [same] at new
      | false =>
          simp only [same] at new
          simp [insertInto, same, ih new]

end Table

namespace ClassHierarchy

/-- The names of the classes, in the order in which they are listed. -/
def names (hierarchy : ClassHierarchy) : List String := hierarchy.classes.names

/-- Every class is listed under its name and behind its superclass, if it has one. -/
structure Grounded (hierarchy : ClassHierarchy) : Prop where
  /-- Classes are listed under their names. -/
  named : ∀ {name info}, hierarchy.find? name = some info → info.name = name
  /-- The class `object` is listed and has no superclass. -/
  object : ∃ info, hierarchy.find? "object" = some info ∧ info.superclass = none
  /-- A superclass is listed before its subclasses. -/
  order : ∀ {name info next}, hierarchy.find? name = some info → info.superclass = some next →
    hierarchy.names.idxOf next < hierarchy.names.idxOf name

/-- The second hierarchy lists the classes of the first, and perhaps others behind them. -/
structure Grows (hierarchy larger : ClassHierarchy) : Prop where
  /-- The classes come in the same order. -/
  names : hierarchy.names <+: larger.names
  /-- The classes are the same. -/
  kept : ∀ {name info}, hierarchy.find? name = some info → larger.find? name = some info

variable {hierarchy larger : ClassHierarchy}

theorem find?_add (hierarchy : ClassHierarchy) (info : ClassInfo) (name : String) :
    (hierarchy.add info).find? name =
      if name == info.name then some info else hierarchy.find? name :=
  Table.find?_insert _ _ _ _

theorem find?_isSome_iff_mem_names (hierarchy : ClassHierarchy) (name : String) :
    (hierarchy.find? name).isSome ↔ name ∈ hierarchy.names :=
  Table.find?_isSome_iff _ _

theorem idxOf_lt_of_find? {name : String} {info : ClassInfo}
    (found : hierarchy.find? name = some info) :
    hierarchy.names.idxOf name < hierarchy.names.length := by
  refine List.idxOf_lt_length_iff.mpr ((hierarchy.find?_isSome_iff_mem_names name).mp ?_)
  simp [found]

theorem Grows.refl (hierarchy : ClassHierarchy) : hierarchy.Grows hierarchy :=
  ⟨List.prefix_rfl, id⟩

theorem Grows.trans {largest : ClassHierarchy} (first : hierarchy.Grows larger)
    (second : larger.Grows largest) : hierarchy.Grows largest :=
  ⟨first.names.trans second.names, fun found => second.kept (first.kept found)⟩

/-! ## Adding a class -/

theorem names_add {info : ClassInfo} (new : hierarchy.find? info.name = none) :
    (hierarchy.add info).names = hierarchy.names ++ [info.name] :=
  Table.names_insert_of_find?_eq_none _ _ new

theorem grows_add {info : ClassInfo} (new : hierarchy.find? info.name = none) :
    hierarchy.Grows (hierarchy.add info) := by
  refine ⟨names_add new ▸ List.prefix_append _ _, fun {name other} found => ?_⟩
  rw [find?_add]
  split
  · next same =>
      rw [beq_iff_eq.mp same, new] at found
      cases found
  · exact found

/-- A hierarchy stays grounded when a new class is added below a listed one. -/
theorem Grounded.add (grounded : hierarchy.Grounded) {info : ClassInfo} {parent : String}
    (new : hierarchy.find? info.name = none) (below : info.superclass = some parent)
    (listed : (hierarchy.find? parent).isSome) : (hierarchy.add info).Grounded := by
  have member := (hierarchy.find?_isSome_iff_mem_names parent).mp listed
  have absent : info.name ∉ hierarchy.names := by
    rw [← hierarchy.find?_isSome_iff_mem_names, new]
    simp
  refine ⟨fun {name other} found => ?_, ?_, fun {name other next} found inherits => ?_⟩
  · rw [find?_add] at found
    split at found
    · next same =>
        cases found
        exact (beq_iff_eq.mp same).symm
    · exact grounded.named found
  · obtain ⟨object, found, root⟩ := grounded.object
    exact ⟨object, (grows_add new).kept found, root⟩
  · rw [find?_add] at found
    rw [names_add new]
    split at found
    · next same =>
        cases found
        obtain rfl := Option.some.inj (below.symm.trans inherits)
        rw [beq_iff_eq.mp same, List.idxOf_append_of_mem member, List.idxOf_append_of_notMem absent]
        have := List.idxOf_lt_length_iff.mpr member
        omega
    · have earlier := grounded.order found inherits
      have inside := idxOf_lt_of_find? found
      rw [List.idxOf_append_of_mem (List.idxOf_lt_length_iff.mp inside),
        List.idxOf_append_of_mem (List.idxOf_lt_length_iff.mp (Nat.lt_trans earlier inside))]
      exact earlier

theorem initial_grounded : initial.Grounded := by
  have root : Grounded (add ⟨{}⟩ objectInfo) := by
    have only {name : String} {info : ClassInfo}
        (found : (add ⟨{}⟩ objectInfo).find? name = some info) :
        name = "object" ∧ objectInfo = info := by
      rw [find?_add] at found
      split at found
      · next same => exact ⟨beq_iff_eq.mp same, Option.some.inj found⟩
      · cases found
    refine ⟨fun found => ?_, ⟨objectInfo, rfl, rfl⟩, fun found inherits => ?_⟩
    · obtain ⟨rfl, rfl⟩ := only found
      rfl
    · obtain ⟨rfl, rfl⟩ := only found
      cases inherits
  have special {hierarchy : ClassHierarchy} (grounded : hierarchy.Grounded) (name : String)
      (new : hierarchy.find? name = none) : (hierarchy.add (specialInfo name)).Grounded := by
    obtain ⟨object, listed, -⟩ := grounded.object
    exact grounded.add new rfl (by simp [listed])
  exact special (special (special root "int" rfl) "bool" rfl) "str" rfl

/-! ## Superclasses -/

theorem superclassOf?_of_find? {name : String} {info : ClassInfo}
    (found : hierarchy.find? name = some info) :
    hierarchy.superclassOf? name = info.superclass := by
  simp [superclassOf?, found]

/-- The chain of a listed class neither reaches its bound nor meets a class again. -/
theorem chain_eq (grounded : hierarchy.Grounded) (grows : hierarchy.Grows larger) :
    ∀ {bound : Nat} (bound' : Nat) {seen : List String} (seen' : List String) {name : String},
      (hierarchy.find? name).isSome → hierarchy.names.idxOf name < bound →
      hierarchy.names.idxOf name < bound' →
      (∀ other ∈ seen, hierarchy.names.idxOf name < hierarchy.names.idxOf other) →
      (∀ other ∈ seen', hierarchy.names.idxOf name < hierarchy.names.idxOf other) →
      hierarchy.chain bound seen name = larger.chain bound' seen' name := by
  intro bound
  induction bound with
  | zero => exact fun _ _ _ _ _ enough => absurd enough (Nat.not_lt_zero _)
  | succ bound ih =>
      intro bound' seen seen' name listed enough enough' before before'
      obtain ⟨bound', rfl⟩ := Nat.exists_eq_add_one_of_ne_zero (Nat.ne_zero_of_lt enough')
      obtain ⟨info, found⟩ := Option.isSome_iff_exists.mp listed
      simp only [chain, superclassOf?_of_find? found, superclassOf?_of_find? (grows.kept found)]
      cases inherits : info.superclass with
      | none => rfl
      | some next =>
          have earlier := grounded.order found inherits
          have fresh {others : List String}
              (behind : ∀ other ∈ others,
                hierarchy.names.idxOf name < hierarchy.names.idxOf other) :
              ∀ other ∈ name :: others,
                hierarchy.names.idxOf next < hierarchy.names.idxOf other :=
            List.forall_mem_cons.mpr
              ⟨earlier, fun other among => Nat.lt_trans earlier (behind other among)⟩
          have unmet {others : List String}
              (behind : ∀ other ∈ name :: others,
                hierarchy.names.idxOf next < hierarchy.names.idxOf other) :
              (name :: others).contains next = false := by
            rw [List.contains_eq_mem, decide_eq_false_iff_not]
            exact fun among => Nat.lt_irrefl _ (behind next among)
          simp only [unmet (fresh before), unmet (fresh before'), Bool.false_eq_true, if_false]
          rw [ih bound' (name :: seen') ?_ (by omega) (by omega) (fresh before) (fresh before')]
          exact (hierarchy.find?_isSome_iff_mem_names next).mpr
            (List.idxOf_lt_length_iff.mp (Nat.lt_trans earlier (idxOf_lt_of_find? found)))

/-- The superclasses of a listed class stay what they are. -/
theorem ancestors_eq (grounded : hierarchy.Grounded) (grows : hierarchy.Grows larger)
    {name : String} (listed : (hierarchy.find? name).isSome) :
    hierarchy.ancestors name = larger.ancestors name := by
  have inside := List.idxOf_lt_length_iff.mpr
    ((hierarchy.find?_isSome_iff_mem_names name).mp listed)
  have longer := grows.names.length_le
  simp only [names, Table.names, List.length_map] at inside longer
  exact chain_eq grounded grows _ _ listed (by simp only [names, Table.names]; omega)
    (by simp only [names, Table.names]; omega) (by simp) (by simp)

/-- A class that is not listed has no superclass but `object`. -/
theorem ancestors_eq_of_find?_eq_none (grounded : hierarchy.Grounded) {name : String}
    (unlisted : hierarchy.find? name = none) : hierarchy.ancestors name = [name, "object"] := by
  obtain ⟨object, found, root⟩ := grounded.object
  have other : name ≠ "object" := by
    rintro rfl
    rw [unlisted] at found
    cases found
  simp [ancestors, chain, superclassOf?, unlisted, found, root, other, Ne.symm other]

/-! ## Subtypes -/

/--
The first type is that of a class that only the larger hierarchy lists, and the second one that of
a superclass which the class has there, other than `object`.
-/
structure FitsLater (hierarchy larger : ClassHierarchy) (source target : ValueType) : Prop where
  /-- The types are those of two classes. -/
  classes : ∃ name other, source = .classType name ∧ target = .classType other ∧
    name ≠ other ∧ other ≠ "object" ∧ hierarchy.find? name = none ∧
      (larger.find? name).isSome ∧ other ∈ larger.ancestors name

/-- Whether one type is a subtype of another depends on the classes only between two classes. -/
theorem isSubtype_cases (source target : ValueType) :
    (∀ first second : ClassHierarchy,
      first.isSubtype source target = second.isSubtype source target ∧
      ¬ FitsLater first second source target) ∨
    ∃ name other, source = .classType name ∧ target = .classType other ∧ name ≠ other ∧
      other ≠ "object" ∧ ∀ hierarchy : ClassHierarchy,
        hierarchy.isSubtype source target = (hierarchy.ancestors name).contains other := by
  by_cases apart : ∃ name other, source = .classType name ∧ target = .classType other ∧
      name ≠ other ∧ other ≠ "object"
  · obtain ⟨name, other, rfl, rfl, differ, noObject⟩ := apart
    refine .inr ⟨name, other, rfl, rfl, differ, noObject, fun hierarchy => ?_⟩
    simp [isSubtype, ValueType.isUnknown, ValueType.object, differ, noObject]
  · refine .inl fun first second => ⟨?_, fun later => ?_⟩
    · unfold isSubtype
      split
      · rfl
      split
      · rfl
      split
      · rfl
      split
      · next name other noObject _ differ =>
          exact absurd ⟨name, other, rfl, rfl, fun same => differ (same ▸ rfl),
            fun same => noObject (same ▸ rfl)⟩ apart
      · rfl
    · obtain ⟨name, other, shape, shape', differ, noObject, -⟩ := later.classes
      exact apart ⟨name, other, shape, shape', differ, noObject⟩

/-- What is no subtype is none in the larger hierarchy either, or its class comes later. -/
theorem isSubtype_eq_false_iff (grounded : hierarchy.Grounded) (grounded' : larger.Grounded)
    (grows : hierarchy.Grows larger) (source target : ValueType) :
    hierarchy.isSubtype source target = false ↔
      larger.isSubtype source target = false ∨ FitsLater hierarchy larger source target := by
  obtain plain | ⟨name, other, rfl, rfl, differ, noObject, byAncestors⟩ :=
    isSubtype_cases source target
  · simp [plain hierarchy larger]
  · rw [byAncestors, byAncestors]
    cases found : hierarchy.find? name with
    | some info =>
        rw [ancestors_eq grounded grows (by simp [found])]
        refine ⟨.inl, Or.rec id fun later => ?_⟩
        obtain ⟨_, _, shape, -, -, -, unlisted, -⟩ := later.classes
        cases shape
        rw [found] at unlisted
        cases unlisted
    | none =>
        have outside : [name, "object"].contains other = false := by
          simp [Ne.symm differ, noObject]
        rw [ancestors_eq_of_find?_eq_none grounded found, outside]
        refine ⟨fun _ => ?_, fun _ => rfl⟩
        cases above : (larger.ancestors name).contains other with
        | false => exact .inl rfl
        | true =>
            refine .inr ⟨name, other, rfl, rfl, differ, noObject, found, ?_, by simpa using above⟩
            cases listed : larger.find? name with
            | some info => rfl
            | none =>
                rw [ancestors_eq_of_find?_eq_none grounded' listed, outside] at above
                cases above

/-- A value may fit a place although its type is no subtype. -/
def fitsOtherwise (hierarchy : ClassHierarchy) (source target : ValueType) : Bool :=
  if source = .none then !target.isSpecial && !target.isFunction
  else if source = .empty then target.isList
  else
    match source, target with
    | .list element, .list wanted => element = .none && hierarchy.acceptsNone wanted
    | _, _ => false

theorem isAssignable_eq (hierarchy : ClassHierarchy) (source target : ValueType) :
    hierarchy.isAssignable source target =
      (hierarchy.isSubtype source target || hierarchy.fitsOtherwise source target) := by
  unfold isAssignable
  split
  · next subtype => rw [subtype, Bool.true_or]
  · next noSubtype =>
      rw [Bool.not_eq_true] at noSubtype
      exact (congrArg (· || hierarchy.fitsOtherwise source target) noSubtype).symm

/-- The absent value has no class of its own, so what it fits does not depend on the classes. -/
theorem isSubtype_none_eq (grounded : hierarchy.Grounded) (grounded' : larger.Grounded)
    (grows : hierarchy.Grows larger) (absent : larger.find? ValueType.none.display = none)
    (target : ValueType) :
    hierarchy.isSubtype .none target = larger.isSubtype .none target := by
  have same := isSubtype_eq_false_iff grounded grounded' grows .none target
  have never : ¬ FitsLater hierarchy larger .none target := by
    intro later
    obtain ⟨_, _, shape, -, -, -, -, listed, -⟩ := later.classes
    cases shape
    rw [show larger.find? "<None>" = none from absent] at listed
    cases listed
  simp only [never, or_false] at same
  cases first : hierarchy.isSubtype .none target with
  | false => exact (same.mp first).symm
  | true =>
      cases second : larger.isSubtype .none target with
      | false => exact absurd (same.mpr second) (by simp [first])
      | true => rfl

/--
What does not fit a place does not fit it in the larger hierarchy either, or its class comes
later.
-/
theorem isAssignable_eq_false_iff (grounded : hierarchy.Grounded) (grounded' : larger.Grounded)
    (grows : hierarchy.Grows larger) (absent : larger.find? ValueType.none.display = none)
    (source target : ValueType) :
    hierarchy.isAssignable source target = false ↔
      larger.isAssignable source target = false ∨ FitsLater hierarchy larger source target := by
  have otherwise : hierarchy.fitsOtherwise source target = larger.fitsOtherwise source target := by
    unfold fitsOtherwise acceptsNone
    split
    · rfl
    split
    · rfl
    split
    · next element wanted _ _ =>
        rw [isSubtype_none_eq grounded grounded' grows absent wanted]
    · rfl
  have never : FitsLater hierarchy larger source target →
      larger.fitsOtherwise source target = false := by
    intro later
    obtain ⟨name, other, rfl, rfl, -, -, -, listed, -⟩ := later.classes
    have noNone : ValueType.classType name ≠ .none := by
      rintro ⟨⟩
      rw [show larger.find? "<None>" = none from absent] at listed
      cases listed
    simp [fitsOtherwise, noNone, ValueType.isList]
  rw [isAssignable_eq, isAssignable_eq, Bool.or_eq_false_iff, Bool.or_eq_false_iff, otherwise,
    isSubtype_eq_false_iff grounded grounded' grows]
  constructor
  · rintro ⟨noSubtype | later, noOther⟩
    · exact .inl ⟨noSubtype, noOther⟩
    · exact .inr later
  · rintro (⟨noSubtype, noOther⟩ | later)
    · exact ⟨.inl noSubtype, noOther⟩
    · exact ⟨.inr later, never later⟩

/-! ## Overriding -/

/-- The pairs of types that decide about overriding: the first of each must fit the second. -/
def overridePairs (inherited override : Signature) : List (ValueType × ValueType) :=
  (override.result, inherited.result) :: inherited.params.tail.zip override.params.tail

theorem takesAll_iff (hierarchy : ClassHierarchy) (inherited override : List ValueType) :
    hierarchy.takesAll inherited override = true ↔
      ∀ pair ∈ inherited.zip override, hierarchy.isAssignable pair.1 pair.2 = true := by
  induction inherited generalizing override with
  | nil => simp [takesAll]
  | cons wide inherited ih =>
      cases override with
      | nil => simp [takesAll]
      | cons own override => simp [takesAll, ih]

theorem mayOverride_iff (hierarchy : ClassHierarchy) (inherited override : Signature) :
    hierarchy.mayOverride inherited override = true ↔
      inherited.params.length = override.params.length ∧
        ∀ pair ∈ overridePairs inherited override, hierarchy.isAssignable pair.1 pair.2 = true := by
  simp only [mayOverride, Bool.and_eq_true, beq_iff_eq, takesAll_iff, overridePairs,
    List.forall_mem_cons]
  tauto

/--
A method that may not override another may not do so in the larger hierarchy either, or one of the
types compared belongs to a class that comes later.
-/
theorem not_mayOverride_iff (grounded : hierarchy.Grounded) (grounded' : larger.Grounded)
    (grows : hierarchy.Grows larger) (absent : larger.find? ValueType.none.display = none)
    (inherited override : Signature) :
    ¬ hierarchy.mayOverride inherited override = true ↔
      ¬ larger.mayOverride inherited override = true ∨
        ∃ pair ∈ overridePairs inherited override, FitsLater hierarchy larger pair.1 pair.2 := by
  have single (pair : ValueType × ValueType) :=
    isAssignable_eq_false_iff grounded grounded' grows absent pair.1 pair.2
  simp only [mayOverride_iff, not_and_or, not_forall, Bool.not_eq_true, single, exists_prop,
    and_or_left, exists_or, or_assoc]

end ClassHierarchy
end ChocoLang
