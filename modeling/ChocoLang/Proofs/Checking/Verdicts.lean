import ChocoLang.Proofs.Typing.Rules
import ChocoLang.Proofs.Typing.Scopes

/-!
# Verdicts without errors

If the types of the parts of an expression are known and the verdict on the whole has no error,
then the type of the whole is known and the rule of its form is obeyed.
-/

namespace ChocoLang

/-! ## What is known of classes and names -/

/-- The types of the members of the class are known, and the class can be called. -/
structure ClassInfo.Sound (info : ClassInfo) : Prop where
  /-- The types of the attributes are known. -/
  attributes : ∀ name type, info.attributes.find? name = some type → type.Known
  /-- The types of the methods are known. -/
  methods : ∀ name signature, info.methods.find? name = some signature → signature.type.Known
  /-- There is a constructor. -/
  constructor : (info.methods.find? "__init__").isSome

/-- All classes of the hierarchy are sound. -/
def ClassHierarchy.Sound (hierarchy : ClassHierarchy) : Prop :=
  ∀ name info, hierarchy.find? name = some info → info.Sound

/-- The binding has a known type, and a class that is bound is one of the hierarchy. -/
structure Binding.Sound (hierarchy : ClassHierarchy) (name : String) (binding : Binding) :
    Prop where
  /-- The type is known. -/
  known : binding.type.Known
  /-- A class is in the hierarchy. -/
  listed : binding.kind = .classDef → (hierarchy.find? name).isSome

/-- The bindings of the frame are sound. -/
def Frame.Sound (hierarchy : ClassHierarchy) (frame : Frame) : Prop :=
  ∀ name binding, frame.find? name = some binding → binding.Sound hierarchy name

/-- The bindings of all frames are sound. -/
def Scope.Sound (hierarchy : ClassHierarchy) (scope : Scope) : Prop :=
  ∀ frame ∈ scope.frames, frame.Sound hierarchy

variable {hierarchy : ClassHierarchy}

section Bindings

variable {scope : Scope} {name : String} {binding : Binding}

theorem Scope.Sound.lookup (sound : scope.Sound hierarchy)
    (found : scope.lookup name = some binding) : binding.Sound hierarchy name :=
  Scope.All.lookup sound found

theorem Scope.Sound.lookupLocal (sound : scope.Sound hierarchy)
    (found : scope.lookupLocal name = some binding) : binding.Sound hierarchy name :=
  Scope.All.lookupLocal sound found

theorem Scope.Sound.lookupGlobal (sound : scope.Sound hierarchy)
    (found : scope.lookupGlobal name = some binding) : binding.Sound hierarchy name :=
  Scope.All.lookupGlobal sound found

theorem Scope.Sound.lookupNonlocal (sound : scope.Sound hierarchy)
    (found : scope.lookupNonlocal name = some binding) : binding.Sound hierarchy name :=
  Scope.All.lookupNonlocal sound found

end Bindings

/-! ## Verdicts -/

theorem Scope.Sound.readVerdict {scope : Scope} (sound : scope.Sound hierarchy) {name : String}
    (clean : (scope.readVerdict name).error = none) : (scope.readVerdict name).type.Known := by
  unfold Scope.readVerdict at clean ⊢
  split at clean
  · cases clean
  · next binding found =>
      split
      · exact (sound.lookup found).known
      · next noVariable => simp [noVariable, Verdict.wrong] at clean

theorem UnaryOperator.verdict_type (operator : UnaryOperator) (operand : ValueType) :
    (operator.verdict operand).type = operator.operandType := by
  unfold verdict
  dsimp only
  split <;> rfl

theorem UnaryOperator.operandType_known (operator : UnaryOperator) :
    operator.operandType.Known := by
  cases operator
  · exact ValueType.known_int
  · exact ValueType.known_bool

theorem UnaryOperator.operand_eq {operator : UnaryOperator} {operand : ValueType}
    (known : operand.Known) (clean : (operator.verdict operand).error = none) :
    operand = operator.operandType := by
  unfold verdict at clean
  dsimp only at clean
  split at clean
  · next same => simpa [known.isUnknown] using same
  · cases clean

theorem ClassHierarchy.takes_of_sumType? {left right type : ValueType}
    (sum : hierarchy.sumType? left right = some type) :
    BinaryOperator.add.Takes hierarchy left right type := by
  unfold sumType? at sum
  split at sum
  · next integers =>
      obtain ⟨rfl, rfl⟩ := integers
      cases sum
      exact .arithmetic (by simp)
  split at sum
  · next strings =>
      obtain ⟨rfl, rfl⟩ := strings
      cases sum
      exact .concatenation
  split at sum
  · next empty =>
      obtain ⟨rfl, lists⟩ := empty
      cases sum
      exact .emptyBefore lists
  split at sum
  · next empty =>
      obtain ⟨rfl, lists⟩ := empty
      cases sum
      exact .emptyBehind lists
  split at sum
  · cases sum
    exact .lists _ _
  · cases sum

/-- An operation that has a type obeys the rule of its operator. -/
theorem ClassHierarchy.takes_of_operationType? {operator : BinaryOperator}
    {left right type : ValueType}
    (typed : hierarchy.operationType? operator left right = some type) :
    operator.Takes hierarchy left right type := by
  cases operator with
  | add => exact takes_of_sumType? typed
  | eq | ne =>
      simp only [operationType?, Option.ite_none_right_eq_some, Option.some.injEq] at typed
      obtain ⟨⟨rfl, special⟩, rfl⟩ := typed
      exact .equality (by simp) special
  | is =>
      simp only [operationType?, Option.ite_none_left_eq_some, Option.some.injEq, not_or] at typed
      obtain ⟨⟨leftObject, rightObject, -⟩, rfl⟩ := typed
      exact .identity leftObject rightObject
  | lt | gt | le | ge =>
      simp only [operationType?, Option.ite_none_right_eq_some, Option.some.injEq] at typed
      obtain ⟨⟨rfl, rfl⟩, rfl⟩ := typed
      exact .ordering (by simp)
  | and | or =>
      simp only [operationType?, Option.ite_none_right_eq_some, Option.some.injEq] at typed
      obtain ⟨⟨rfl, rfl⟩, rfl⟩ := typed
      exact .logical (by simp)
  | sub | mul | floorDiv | mod =>
      simp only [operationType?, Option.ite_none_right_eq_some, Option.some.injEq] at typed
      obtain ⟨⟨rfl, rfl⟩, rfl⟩ := typed
      exact .arithmetic (by simp)

theorem BinaryOperator.Takes.known {operator : BinaryOperator} {left right type : ValueType}
    (takes : operator.Takes hierarchy left right type) (leftKnown : left.Known)
    (rightKnown : right.Known) : type.Known := by
  cases takes with
  | lists a b =>
      rw [ValueType.known_list] at leftKnown rightKnown ⊢
      exact hierarchy.join_known leftKnown rightKnown
  | emptyBefore => exact rightKnown
  | emptyBehind => exact leftKnown
  | _ => exact ValueType.known_classType _

theorem ClassHierarchy.takes_of_operationVerdict {operator : BinaryOperator}
    {left right : ValueType} (leftKnown : left.Known) (rightKnown : right.Known)
    (clean : (hierarchy.operationVerdict operator left right).error = none) :
    operator.Takes hierarchy left right (hierarchy.operationVerdict operator left right).type := by
  unfold operationVerdict at clean ⊢
  split at clean
  · next type typed => exact takes_of_operationType? typed
  · simp [leftKnown.isUnknown, rightKnown.isUnknown] at clean

theorem holds_of_indexVerdict {container : ValueType} (known : container.Known)
    (clean : (indexVerdict container).error = none) :
    container.Holds (indexVerdict container).type ∧ (indexVerdict container).type.Known := by
  unfold indexVerdict elementVerdict at clean ⊢
  split at clean
  · next string =>
      subst string
      exact ⟨.characters, ValueType.known_str⟩
  split at clean
  · exact ⟨.elements _, (ValueType.known_list _).mp known⟩
  · exact absurd known ValueType.not_known_unknown
  · cases clean

/-! ## Members and calls -/

theorem ClassHierarchy.attribute_of_attributeVerdict (classes : hierarchy.Sound)
    {object : ValueType} (known : object.Known) {field : String}
    (clean : (hierarchy.attributeVerdict object field).error = none) :
    ∃ name owner, object = .classType name ∧ hierarchy.find? name = some owner ∧
      owner.attributes.find? field = some (hierarchy.attributeVerdict object field).type ∧
      (hierarchy.attributeVerdict object field).type.Known := by
  unfold attributeVerdict at clean ⊢
  simp only [known.isUnknown, Bool.false_eq_true, if_false] at clean ⊢
  split at clean
  · cases clean
  · next owner found =>
      split at clean
      · next type listed =>
          unfold classOf? at found
          split at found
          · next name =>
              exact ⟨name, owner, rfl, found, listed,
                (classes name owner found).attributes _ _ listed⟩
          · cases found
      · cases clean

/-- Arguments without an error are as many as the parameters, and each fits its own. -/
theorem ClassHierarchy.fit_of_argumentError? {params args : List ValueType}
    (clean : hierarchy.argumentError? params args = none) :
    List.Forall₂ (fun source target => hierarchy.isAssignable source target) args params := by
  unfold argumentError? at clean
  split at clean
  · next same =>
      have fit (position : Nat) (params args : List ValueType) (same : params.length = args.length)
          (clean : hierarchy.argumentMismatch? position params args = none) :
          List.Forall₂ (fun source target => hierarchy.isAssignable source target) args params := by
        induction params generalizing position args with
        | nil =>
            obtain rfl := List.length_eq_zero_iff.mp same.symm
            exact .nil
        | cons param params ih =>
            cases args with
            | nil => cases same
            | cons arg args =>
                simp only [argumentMismatch?] at clean
                split at clean
                · next fits => exact .cons fits (ih _ args (by simpa using same) clean)
                · cases clean
      exact fit 1 params args same clean
  · cases clean

/-- The verdict on a call is that of a function that takes the arguments. -/
structure CallVerdict.Fits (hierarchy : ClassHierarchy) (args : List ValueType)
    (verdict : CallVerdict) (type : ValueType) (params : List ValueType) : Prop where
  /-- The thing called is of the type. -/
  callee : verdict.callee.type = type
  /-- The type is known. -/
  known : type.Known
  /-- The arguments fit the parameters. -/
  fit : List.Forall₂ (fun source target => hierarchy.isAssignable source target) args params

theorem ClassHierarchy.fits_of_callVerdict {type result : ValueType} {params args : List ValueType}
    (known : type.Known)
    (clean : (hierarchy.callVerdict type params result args).call.error = none) :
    (hierarchy.callVerdict type params result args).Fits hierarchy args type params :=
  ⟨rfl, known, fit_of_argumentError? clean⟩

/-- A name that is called without an error is that of a function that takes the arguments. -/
theorem ClassHierarchy.fits_of_nameCallVerdict (classes : hierarchy.Sound) {scope : Scope}
    (sound : scope.Sound hierarchy) {name : String} {args : List ValueType}
    (calleeClean : (hierarchy.nameCallVerdict scope name args).callee.error = none)
    (callClean : (hierarchy.nameCallVerdict scope name args).call.error = none) :
    ∃ params, (hierarchy.nameCallVerdict scope name args).Fits hierarchy args
      (.function params (hierarchy.nameCallVerdict scope name args).call.type) params := by
  generalize shape : hierarchy.nameCallVerdict scope name args = verdict at *
  unfold nameCallVerdict at shape
  split at shape
  · subst shape
    cases calleeClean
  · next binding found =>
      have bound := sound.lookup found
      split at shape
      · next kind =>
          obtain ⟨info, listed⟩ := Option.isSome_iff_exists.mp (bound.listed kind)
          have members := classes name info listed
          obtain ⟨constructor, initial⟩ := Option.isSome_iff_exists.mp members.constructor
          simp only [constructionVerdict, listed, initial] at shape
          subst shape
          refine ⟨_, fits_of_callVerdict ?_ callClean⟩
          have known := (ValueType.known_function _ _).mp (members.methods _ _ initial)
          exact (ValueType.known_function _ _).mpr
            ⟨fun param among => known.1 param (List.mem_of_mem_tail among),
              ValueType.known_classType _⟩
      · next params result kind type =>
          subst shape
          rw [type] at callClean ⊢
          exact ⟨params, fits_of_callVerdict (type ▸ bound.known) callClean⟩
      · subst shape
        cases callClean

/-- A method that is called without an error is one of the class and takes the arguments. -/
theorem ClassHierarchy.fits_of_methodCallVerdict (classes : hierarchy.Sound) {object : ValueType}
    (known : object.Known) {method : String} {args : List ValueType}
    (calleeClean : (hierarchy.methodCallVerdict object method args).callee.error = none)
    (callClean : (hierarchy.methodCallVerdict object method args).call.error = none) :
    ∃ name owner signature, object = .classType name ∧ hierarchy.find? name = some owner ∧
      owner.methods.find? method = some signature ∧
      (hierarchy.methodCallVerdict object method args).call.type = signature.result ∧
      (hierarchy.methodCallVerdict object method args).Fits hierarchy args signature.type
        signature.params.tail := by
  unfold methodCallVerdict at calleeClean callClean ⊢
  simp only [known.isUnknown, Bool.false_eq_true, if_false] at calleeClean callClean ⊢
  split at calleeClean
  · cases calleeClean
  · next owner found =>
      split at calleeClean
      · cases calleeClean
      · next signature listed =>
          simp only [found, listed] at callClean ⊢
          unfold classOf? at found
          split at found
          · next name =>
              exact ⟨name, owner, signature, rfl, found, listed, rfl,
                fits_of_callVerdict ((classes name owner found).methods _ _ listed) callClean⟩
          · cases found

end ChocoLang
