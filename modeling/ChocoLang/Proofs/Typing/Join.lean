import ChocoLang.Checking.Expression
import ChocoLang.Proofs.Typing.ClassTable

/-!
# Least upper bounds

The least type that holds the values of two types is their join.  A function fits no place but one
of its own type, so two functions of different types have no upper bound; their join is `object` all
the same.  If `object` is put above the functions, too, then every two types have a least upper
bound, and joining is commutative and associative.  The unknown type is neutral.
-/

namespace ChocoLang

theorem ValueType.unknown_or_certain (type : ValueType) :
    type = .unknown ∨ type.isUnknown = false := by
  cases type <;> first | exact .inl rfl | exact .inr rfl

namespace ClassHierarchy

variable {hierarchy : ClassHierarchy} {name other : String} {a b c : ValueType}

/-! ## Common superclasses -/

/-- What stands behind a superclass are the superclasses of that one. -/
theorem Grounded.ancestors_append (grounded : hierarchy.Grounded) {front back : List String}
    (shape : hierarchy.ancestors name = front ++ other :: back) :
    hierarchy.ancestors other = other :: back := by
  induction front generalizing name with
  | nil =>
      have same : name = other := by
        cases above : hierarchy.superclassOf? name with
        | none => exact (List.cons.inj ((ancestors_of_root above).symm.trans shape)).1
        | some next =>
            exact (List.cons.inj ((grounded.ancestors_of_extends above).symm.trans shape)).1
      rwa [same] at shape
  | cons first front ih =>
      cases above : hierarchy.superclassOf? name with
      | none =>
          rw [ancestors_of_root above] at shape
          simp at shape
      | some next =>
          rw [grounded.ancestors_of_extends above] at shape
          exact ih (List.cons.inj shape).2

/-- The nearest common superclass is below every other one. -/
theorem Grounded.commonSuperclass_cases (grounded : hierarchy.Grounded) (m n : String) :
    (∃ nearest, hierarchy.commonSuperclass m n = .classType nearest ∧
      nearest ∈ hierarchy.ancestors m ∧ nearest ∈ hierarchy.ancestors n ∧
      ∀ common ∈ hierarchy.ancestors m, common ∈ hierarchy.ancestors n →
        common ∈ hierarchy.ancestors nearest) ∨
    hierarchy.commonSuperclass m n = .object ∧
      ∀ common ∈ hierarchy.ancestors m, common ∉ hierarchy.ancestors n := by
  unfold commonSuperclass
  dsimp only
  split
  · next nearest found =>
      obtain ⟨shared, front, back, shape, missed⟩ := List.find?_eq_some_iff_append.mp found
      refine .inl ⟨nearest, rfl, by simp [shape], by simpa using shared,
        fun common first second => ?_⟩
      rw [shape, List.mem_append] at first
      rcases first with early | late
      · have apart := missed common early
        simp [second] at apart
      · rwa [grounded.ancestors_append shape]
  · next none =>
      refine .inr ⟨rfl, fun common first => ?_⟩
      simpa using List.find?_eq_none.mp none common first

/-! ## Upper bounds -/

/-- The first type fits the second, or the second is `object`. -/
def Below (hierarchy : ClassHierarchy) (a b : ValueType) : Prop := hierarchy.Fits a b ∨ b = .object

theorem Below.antisymm (ordered : hierarchy.Ordered) (first : hierarchy.Below a b)
    (second : hierarchy.Below b a) : a = b := by
  rcases first with fits | rfl
  · rcases second with fits' | rfl
    · exact fits.antisymm ordered fits'
    · exact (fits.eq_object ordered.toGrounded).symm
  · rcases second with fits' | same
    · exact fits'.eq_object ordered.toGrounded
    · exact same

theorem Below.trans (ordered : hierarchy.Ordered) (first : hierarchy.Below a b)
    (second : hierarchy.Below b c) : hierarchy.Below a c := by
  rcases second with fits' | top
  · rcases first with fits | rfl
    · exact .inl (fits.trans ordered fits')
    · exact .inr (fits'.eq_object ordered.toGrounded)
  · exact .inr top

/-- A type that is no function is below another just if it fits it. -/
theorem below_iff_fits (value : a.isFunction = false) :
    hierarchy.Below a b ↔ hierarchy.Fits a b := by
  refine ⟨fun below => ?_, .inl⟩
  rcases below with fits | rfl
  · exact fits
  · exact .object value

theorem fits_none_or_special (hierarchy : ClassHierarchy) (name : String) :
    hierarchy.Fits .none (.classType name) ∨ name ∈ ValueType.specialClasses := by
  by_cases special : name ∈ ValueType.specialClasses
  · exact .inr special
  · exact .inl (.absent ⟨by simpa [ValueType.isSpecial] using special, rfl⟩)

namespace Built

variable (built : hierarchy.Built)

include built

/-- A class that excludes the absent value extends `object`. -/
theorem special_extends (special : name ∈ ValueType.specialClasses) :
    hierarchy.Extends name "object" := by
  have extended : ∀ name ∈ ValueType.specialClasses,
      ∃ info, ClassHierarchy.initial.find? name = some info ∧ info.superclass = some "object" := by
    simp only [ValueType.specialClasses, List.forall_mem_cons]
    exact ⟨⟨_, rfl, rfl⟩, ⟨_, rfl, rfl⟩, ⟨_, rfl, rfl⟩, by simp⟩
  obtain ⟨info, found, inherits⟩ := extended name special
  exact (superclassOf?_of_find? (built.grows.kept found)).trans inherits

/-- A value of a class that excludes the absent one fits only that class and `object`. -/
theorem eq_of_special (special : name ∈ ValueType.specialClasses)
    (fits : hierarchy.Fits (.classType name) c) : c = .classType name ∨ c = .object := by
  have grounded := built.ordered.toGrounded
  generalize shape : ValueType.classType name = source at fits ⊢
  cases fits with
  | same => exact .inl rfl
  | object _ => exact .inr rfl
  | subclass above =>
      cases shape
      rw [grounded.ancestors_of_extends (built.special_extends special),
        ancestors_object grounded] at above
      rcases List.mem_pair.mp above with rfl | rfl
      · exact .inl rfl
      · exact .inr rfl
  | absent _ | emptyList _ =>
      cases shape
      exact absurd special (by decide)
  | absentElements _ => cases shape

/-- The nearest common superclass of two classes is below every type that both of them fit. -/
theorem commonSuperclass_below {m n : String}
    (apart : ¬ hierarchy.Fits (.classType m) (.classType n))
    (apart' : ¬ hierarchy.Fits (.classType n) (.classType m))
    (first : hierarchy.Fits (.classType m) c) (second : hierarchy.Fits (.classType n) c) :
    hierarchy.Below (hierarchy.commonSuperclass m n) c := by
  have grounded := built.ordered.toGrounded
  by_cases special : m ∈ ValueType.specialClasses
  · rcases built.eq_of_special special first with rfl | rfl
    · exact absurd second apart'
    · exact .inr rfl
  by_cases special' : n ∈ ValueType.specialClasses
  · rcases built.eq_of_special special' second with rfl | rfl
    · exact absurd first apart
    · exact .inr rfl
  -- Neither class is that of the absent value, since that one would fit the other class.
  have noNone : ValueType.classType m ≠ .none := by
    intro same
    rw [same] at apart
    exact apart ((hierarchy.fits_none_or_special n).resolve_right special')
  have noNone' : ValueType.classType n ≠ .none := by
    intro same
    rw [same] at apart'
    exact apart' ((hierarchy.fits_none_or_special m).resolve_right special)
  generalize shape : ValueType.classType m = source at first
  generalize shape' : ValueType.classType n = source' at second
  cases first with
  | same => exact absurd (shape' ▸ shape ▸ second) apart'
  | object _ => exact .inr rfl
  | @subclass _ upper above =>
      cases shape
      cases second with
      | same =>
          cases shape'
          exact absurd (.subclass above) apart
      | object _ => exact .inr rfl
      | subclass above' =>
          cases shape'
          rcases grounded.commonSuperclass_cases m n with
            ⟨nearest, same, -, -, least⟩ | ⟨-, none⟩
          · rw [same]
            exact .inl (.subclass (least upper above above'))
          · exact absurd above' (none upper above)
      | absent _ => exact absurd shape' noNone'
  | absent _ => exact absurd shape noNone
  | emptyList element =>
      cases second with
      | same => cases shape'
      | absent _ => exact absurd shape' noNone'
      | emptyList _ => exact absurd (by rw [shape, shape']; exact .same _) apart
      | absentElements _ => cases shape'
  | absentElements _ => cases shape

omit built in
/-- Two types that do not fit one another, not both of classes, fit no type but `object`. -/
theorem eq_object_of_fits (apart : ¬ hierarchy.Fits a b) (apart' : ¬ hierarchy.Fits b a)
    (mixed : ∀ m n, a = .classType m → b ≠ .classType n) (first : hierarchy.Fits a c)
    (second : hierarchy.Fits b c) : c = .object := by
  cases first with
  | same => exact absurd second apart'
  | object _ => rfl
  | @subclass m _ _ =>
      cases second with
      | same => exact absurd (.subclass ‹_›) apart
      | object _ => rfl
      | subclass _ => exact absurd rfl (mixed m _ rfl)
      | absent _ => exact absurd rfl (mixed m _ rfl)
  | absent takes =>
      cases second with
      | same => exact absurd (.absent takes) apart
      | object _ => rfl
      | subclass _ | absent _ | emptyList _ => exact absurd rfl (mixed _ _ rfl)
      | absentElements _ => exact absurd (.absent ⟨rfl, rfl⟩) apart
  | emptyList _ =>
      cases second with
      | same => exact absurd (.emptyList _) apart
      | absent _ | emptyList _ => exact absurd rfl (mixed _ _ rfl)
      | absentElements _ => exact absurd (.emptyList _) apart
  | absentElements takes =>
      cases second with
      | same => exact absurd (.absentElements takes) apart
      | absent _ => exact absurd (.absent ⟨rfl, rfl⟩) apart'
      | emptyList _ => exact absurd (.emptyList _) apart'
      | absentElements _ => exact absurd (.same _) apart

/-! ## Joins -/

omit built in
@[simp]
theorem join_unknown_left (hierarchy : ClassHierarchy) (b : ValueType) :
    hierarchy.join .unknown b = b := by
  simp [join, ValueType.isUnknown]

omit built in
@[simp]
theorem join_unknown_right (hierarchy : ClassHierarchy) (a : ValueType) :
    hierarchy.join a .unknown = a := by
  cases a <;> simp [join, ValueType.isUnknown]

/-- The ways in which two types are joined: one of them fits the other, or neither does. -/
theorem join_cases (certain : a.isUnknown = false) (certain' : b.isUnknown = false) :
    (hierarchy.Fits a b ∧ hierarchy.join a b = b) ∨
    (hierarchy.Fits b a ∧ hierarchy.join a b = a) ∨
    (¬ hierarchy.Fits a b ∧ ¬ hierarchy.Fits b a ∧
      ((∃ m n, a = .classType m ∧ b = .classType n ∧
          hierarchy.join a b = hierarchy.commonSuperclass m n) ∨
        (∀ m n, a = .classType m → b ≠ .classType n) ∧ hierarchy.join a b = .object)) := by
  have fits := isAssignable_iff_fits built.ordered certain certain'
  have fits' := isAssignable_iff_fits built.ordered certain' certain
  unfold join
  simp only [certain, certain', Bool.false_eq_true, if_false]
  split
  · next left => exact .inl ⟨fits.mp left, rfl⟩
  · next apart =>
      split
      · next right => exact .inr (.inl ⟨fits'.mp right, rfl⟩)
      · next apart' =>
          refine .inr (.inr ⟨mt fits.mpr apart, mt fits'.mpr apart', ?_⟩)
          split
          · next m n => exact .inl ⟨m, n, rfl, rfl, rfl⟩
          · next mixed => exact .inr ⟨fun m n first second => mixed m n first second, rfl⟩

omit built in
theorem commonSuperclass_eq_classType (hierarchy : ClassHierarchy) (m n : String) :
    ∃ name, hierarchy.commonSuperclass m n = .classType name := by
  unfold commonSuperclass
  dsimp only
  split
  · exact ⟨_, rfl⟩
  · exact ⟨_, rfl⟩

theorem isUnknown_join (certain : a.isUnknown = false) (certain' : b.isUnknown = false) :
    (hierarchy.join a b).isUnknown = false := by
  rcases built.join_cases certain certain' with
    ⟨-, same⟩ | ⟨-, same⟩ | ⟨-, -, ⟨m, n, -, -, same⟩ | ⟨-, same⟩⟩ <;> rw [same]
  · exact certain'
  · exact certain
  · obtain ⟨name, shape⟩ := commonSuperclass_eq_classType hierarchy m n
    rw [shape]
    rfl
  · rfl

/-- Values that are no functions are joined to such values. -/
theorem isFunction_join (certain : a.isUnknown = false) (certain' : b.isUnknown = false)
    (value : a.isFunction = false) (value' : b.isFunction = false) :
    (hierarchy.join a b).isFunction = false := by
  rcases built.join_cases certain certain' with
    ⟨-, same⟩ | ⟨-, same⟩ | ⟨-, -, ⟨m, n, -, -, same⟩ | ⟨-, same⟩⟩ <;> rw [same]
  · exact value'
  · exact value
  · obtain ⟨name, shape⟩ := commonSuperclass_eq_classType hierarchy m n
    rw [shape]
    rfl
  · rfl

theorem below_join (certain : a.isUnknown = false) (certain' : b.isUnknown = false) :
    hierarchy.Below a (hierarchy.join a b) ∧ hierarchy.Below b (hierarchy.join a b) := by
  rcases built.join_cases certain certain' with
    ⟨fits, same⟩ | ⟨fits, same⟩ | ⟨-, -, ⟨m, n, rfl, rfl, same⟩ | ⟨-, same⟩⟩ <;> rw [same]
  · exact ⟨.inl fits, .inl (.same b)⟩
  · exact ⟨.inl (.same a), .inl fits⟩
  · rcases built.ordered.toGrounded.commonSuperclass_cases m n with
      ⟨nearest, found, above, above', -⟩ | ⟨found, -⟩ <;> rw [found]
    · exact ⟨.inl (.subclass above), .inl (.subclass above')⟩
    · exact ⟨.inr rfl, .inr rfl⟩
  · exact ⟨.inr rfl, .inr rfl⟩

theorem join_below (certain : a.isUnknown = false) (certain' : b.isUnknown = false)
    (first : hierarchy.Below a c) (second : hierarchy.Below b c) :
    hierarchy.Below (hierarchy.join a b) c := by
  rcases first with first | top
  swap
  · exact .inr top
  rcases second with second | top
  swap
  · exact .inr top
  rcases built.join_cases certain certain' with
    ⟨-, same⟩ | ⟨-, same⟩ | ⟨apart, apart', ⟨m, n, rfl, rfl, same⟩ | ⟨mixed, same⟩⟩ <;> rw [same]
  · exact .inl second
  · exact .inl first
  · exact built.commonSuperclass_below apart apart' first second
  · exact .inr (eq_object_of_fits apart apart' mixed first second)

/-- What is below a join of two types and above both of them is the join. -/
theorem join_eq (certain : a.isUnknown = false) (certain' : b.isUnknown = false)
    (left : hierarchy.Below a c) (right : hierarchy.Below b c)
    (least : hierarchy.Below c (hierarchy.join a b)) : hierarchy.join a b = c :=
  (built.join_below certain certain' left right).antisymm built.ordered least

theorem join_comm (a b : ValueType) : hierarchy.join a b = hierarchy.join b a := by
  rcases a.unknown_or_certain with rfl | certain
  · simp
  rcases b.unknown_or_certain with rfl | certain'
  · simp
  obtain ⟨left, right⟩ := built.below_join certain certain'
  obtain ⟨left', right'⟩ := built.below_join certain' certain
  exact built.join_eq certain certain' right' left' (built.join_below certain' certain right left)

theorem join_assoc (a b c : ValueType) :
    hierarchy.join (hierarchy.join a b) c = hierarchy.join a (hierarchy.join b c) := by
  rcases a.unknown_or_certain with rfl | certain
  · simp
  rcases b.unknown_or_certain with rfl | certain'
  · simp
  rcases c.unknown_or_certain with rfl | certain''
  · simp
  have ordered := built.ordered
  have front := built.isUnknown_join certain certain'
  have back := built.isUnknown_join certain' certain''
  obtain ⟨first, second⟩ := built.below_join certain certain'
  obtain ⟨second', third⟩ := built.below_join certain' certain''
  obtain ⟨inner, third'⟩ := built.below_join front certain''
  obtain ⟨first', outer⟩ := built.below_join certain back
  refine built.join_eq front certain'' ?_ (third.trans ordered outer) ?_
  · exact built.join_below certain certain' first' (second'.trans ordered outer)
  · exact built.join_below certain back (first.trans ordered inner)
      (built.join_below certain' certain'' (second.trans ordered inner) third')

theorem join_right_comm (a b c : ValueType) :
    hierarchy.join (hierarchy.join a b) c = hierarchy.join (hierarchy.join a c) b := by
  rw [built.join_assoc, built.join_comm b c, ← built.join_assoc]

/-! ## List displays -/

omit built in
/-- The elements of a list that is not empty are joined one after the other. -/
theorem displayType_eq_foldl (hierarchy : ClassHierarchy) {types : List ValueType}
    (nonempty : types ≠ []) :
    hierarchy.displayType types = .list (types.foldl hierarchy.join .unknown) := by
  obtain ⟨first, rest, rfl⟩ := List.exists_cons_of_ne_nil nonempty
  rw [displayType, List.foldl_cons, join_unknown_left]

omit built in
theorem foldl_join_filter (hierarchy : ClassHierarchy) (start : ValueType)
    (types : List ValueType) :
    (types.filter fun type => !type.isUnknown).foldl hierarchy.join start =
      types.foldl hierarchy.join start := by
  induction types generalizing start with
  | nil => rfl
  | cons first rest ih =>
      rcases first.unknown_or_certain with rfl | certain
      · rw [List.filter_cons_of_neg (by simp [ValueType.isUnknown]), ih, List.foldl_cons,
          join_unknown_right]
      · rw [List.filter_cons_of_pos (by simp [certain]), List.foldl_cons, List.foldl_cons, ih]

/--
The join of two types that are no functions holds the values of both, and every type that holds
these holds those of the join.  A list display ignores the elements of an unknown type, unless all
are, and the order of its elements does not matter.
-/
theorem join_isLeast :
    (∀ a b : ValueType, a.isUnknown = false → b.isUnknown = false →
      a.isFunction = false → b.isFunction = false →
      hierarchy.isAssignable a (hierarchy.join a b) = true ∧
      hierarchy.isAssignable b (hierarchy.join a b) = true ∧
      ∀ c : ValueType, c.isUnknown = false → hierarchy.isAssignable a c = true →
        hierarchy.isAssignable b c = true → hierarchy.isAssignable (hierarchy.join a b) c = true) ∧
    (∀ types : List ValueType, types.filter (!·.isUnknown) ≠ [] →
      hierarchy.displayType types = hierarchy.displayType (types.filter (!·.isUnknown))) ∧
    ∀ types reordered : List ValueType, types.Perm reordered →
      hierarchy.displayType types = hierarchy.displayType reordered := by
  have ordered := built.ordered
  refine ⟨fun a b certain certain' value value' => ?_, fun types some => ?_,
    fun types reordered same => ?_⟩
  · have certainJoin := built.isUnknown_join certain certain'
    obtain ⟨left, right⟩ := built.below_join certain certain'
    rw [below_iff_fits value] at left
    rw [below_iff_fits value'] at right
    refine ⟨(isAssignable_iff_fits ordered certain certainJoin).mpr left,
      (isAssignable_iff_fits ordered certain' certainJoin).mpr right,
      fun c certain'' first second => ?_⟩
    rw [isAssignable_iff_fits ordered certain certain''] at first
    rw [isAssignable_iff_fits ordered certain' certain''] at second
    rw [isAssignable_iff_fits ordered certainJoin certain'',
      ← below_iff_fits (built.isFunction_join certain certain' value value')]
    exact built.join_below certain certain' (.inl first) (.inl second)
  · have nonempty : types ≠ [] := by
      rintro rfl
      exact some rfl
    rw [displayType_eq_foldl hierarchy nonempty, displayType_eq_foldl hierarchy some,
      foldl_join_filter]
  · by_cases empty : types = []
    · subst empty
      rw [same.nil_eq]
    · have nonempty : reordered ≠ [] := by
        rintro rfl
        exact empty same.eq_nil
      rw [displayType_eq_foldl hierarchy empty, displayType_eq_foldl hierarchy nonempty]
      exact congrArg _ (same.foldl_eq' (fun x _ y _ z => built.join_right_comm z x y) _)

end Built

/--
In a hierarchy with a class below another, two lists have but `object` in common, and an absent
value and a class their own superclass.
-/
theorem join_isLeast_chained :
    chained.Built ∧
      chained.join (.list (.classType "B")) (.list (.classType "A")) = .object ∧
      chained.displayType [.unknown, .none, .classType "B", .classType "A"] =
        .list (.classType "A") ∧
      chained.isAssignable (.classType "B") (chained.join (.classType "B") .none) = true ∧
      chained.displayType [.unknown, .none, .classType "B"] =
        chained.displayType [.classType "B", .unknown, .none] := by
  obtain ⟨least, -, reordered⟩ := Built.join_isLeast chained_built
  exact ⟨chained_built, by decide, by decide, (least _ _ rfl rfl rfl rfl).1,
    reordered _ _ (by decide)⟩

end ClassHierarchy
end ChocoLang
